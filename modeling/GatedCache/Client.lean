import GatedCache.Store.Command

/-!
Clients of a store. A client is any way of answering commands that may change a state; nothing is
assumed of it. Two clients are given: a store itself, and a store some of whose answers are laid
down beforehand.
-/
namespace GatedCache

structure Client (σ : Type) where
  answer : σ → Command → Outcome × σ

def Store.client : Client Store := ⟨Store.answer⟩

structure Scripted where
  store : Store
  script : List Outcome

namespace Scripted

/-- The next outcome laid down decides a call and leaves the store alone; after the last one the
store answers. -/
def answer (s : Scripted) (c : Command) : Outcome × Scripted :=
  match s.script with
  | o :: rest => (o, { s with script := rest })
  | [] =>
    let (o, store) := s.store.answer c
    (o, { s with store := store })

def client : Client Scripted := ⟨answer⟩

def load (s : Scripted) (script : List Outcome) : Scripted := { s with script := script }

def drop (s : Scripted) : Scripted := s.load []

end Scripted
end GatedCache
