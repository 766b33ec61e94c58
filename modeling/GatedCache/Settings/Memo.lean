import GatedCache.Settings

/-!
Settings that are loaded once and remembered. Only a success is remembered; each success has a
serial number, which tells one loaded object from another with the same content.
-/
namespace GatedCache.Settings

structure Loaded where
  serial : Nat
  settings : Settings

structure Memo where
  remembered : Option Loaded
  count : Nat

namespace Memo

def empty : Memo := ⟨none, 0⟩

def clear (m : Memo) : Memo := { m with remembered := none }

def get (m : Memo) (s : Sources) : Checked Loaded × Memo :=
  match m.remembered with
  | some l => (.ok l, m)
  | none =>
    match load s with
    | .ok settings =>
      let l := ⟨m.count, settings⟩
      (.ok l, ⟨some l, m.count + 1⟩)
    | .error problems => (.error problems, m)

/-- A step of a run: forget first or not, then ask under the sources of that moment. -/
structure Step where
  clear : Bool
  sources : Sources

def step (m : Memo) (s : Step) : Checked Loaded × Memo :=
  (if s.clear then m.clear else m).get s.sources

def run (m : Memo) : List Step → List (Checked Loaded)
  | [] => []
  | s :: steps => (m.step s).1 :: run (m.step s).2 steps

end Memo
end GatedCache.Settings
