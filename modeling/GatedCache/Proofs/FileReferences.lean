import GatedCache.Proofs.FileValues

/-!
How far a change reaches through references. A value depends on a variable or on an earlier binding
only where it refers to it, so what changes for some names stays with these names as long as no
other binding refers to them.
-/
namespace GatedCache.EnvFile

theorem expandWithin_congr {before after : Reference → List Char} (n : Nat) (cs : List Char)
    (same : ∀ r : Reference, r.name ∈ namesWithin n cs → after r = before r) :
    expandWithin after n cs = expandWithin before n cs := by
  fun_induction expandWithin before n cs with
  | case1 => rfl
  | case2 => rfl
  | case3 n cs r rest found ih =>
    simp only [namesWithin, found, List.mem_cons] at same
    simp only [expandWithin, found]
    rw [same r (.inl rfl), ih fun r mem => same r (.inr mem)]
  | case4 n cs missing ih =>
    simp only [namesWithin, missing] at same
    simp only [expandWithin, missing]
    rw [ih same]
  | case5 n c cs plain ih =>
    have names : namesWithin (n + 1) (c :: cs) = namesWithin n cs := by
      rw [namesWithin]
      exact plain
    rw [names] at same
    rw [expandWithin, ih same]
    exact plain

/-- No binding of another name refers to one of these names. -/
def Unreferenced (moved : List String) (bs : List Binding) : Prop :=
  ∀ b ∈ bs, b.name ∉ moved → ∀ n ∈ b.references, n ∉ moved

theorem unreferenced_of_referencedNames {moved : List String} {text : String}
    (free : ∀ n ∈ referencedNames text, n ∉ moved) : Unreferenced moved (bindings text) := by
  intro b mem _ n refers
  exact free n (List.mem_flatMap.mpr ⟨b, mem, refers⟩)

section Moved

variable {moved : List String} {before after : List (String × String)}
  {known known' : List (String × Option String)}
  (agree : ∀ n ∉ moved, after.lookup n = before.lookup n)

include agree

theorem extend_congr {b : Binding} (same : ∀ n ∉ moved, known'.lookup n = known.lookup n)
    (free : ∀ n ∈ b.references, n ∉ moved) (n : String) (kept : n ∉ moved) :
    (extend after known' b).lookup n = (extend before known b).lookup n := by
  have value : b.value.map (expand (resolve after known')) =
      b.value.map (expand (resolve before known)) := by
    cases bound : b.value with
    | none => rfl
    | some text =>
      simp only [Binding.references, bound] at free
      simp only [Option.map_some, Option.some.injEq, expand]
      rw [expandWithin_congr]
      intro r refers
      rw [resolve, resolve, same _ (free _ refers), agree _ (free _ refers)]
  rw [extend, extend, value, List.lookup_cons, List.lookup_cons, same n kept]

/-- Leaving out the bindings of the moved names is not seen by the others. -/
theorem lookup_foldl_kept {bs : List Binding} (free : Unreferenced moved bs)
    (same : ∀ n ∉ moved, known'.lookup n = known.lookup n) (n : String) (kept : n ∉ moved) :
    ((bs.filter (·.name ∉ moved)).foldl (extend after) known').lookup n =
      (bs.foldl (extend before) known).lookup n := by
  induction bs generalizing known known' with
  | nil => exact same n kept
  | cons b bs ih =>
    obtain ⟨own, free⟩ := List.forall_mem_cons.mp free
    by_cases out : b.name ∈ moved
    · rw [List.filter_cons_of_neg (by simpa using out), List.foldl_cons]
      apply ih free
      intro m inside
      have other : b.name ≠ m := fun named => inside (named ▸ out)
      rw [lookup_extend_ne other, same m inside]
    · rw [List.filter_cons_of_pos (by simpa using out), List.foldl_cons, List.foldl_cons]
      exact ih free (extend_congr agree same (own out))

/-- Bindings that differ in the moved names only give every other name the same value. -/
theorem lookup_foldl_unmoved {bs cs : List Binding} (free : Unreferenced moved bs)
    (rest : cs.filter (·.name ∉ moved) = bs.filter (·.name ∉ moved)) (n : String)
    (kept : n ∉ moved) :
    (cs.foldl (extend after) []).lookup n = (bs.foldl (extend before) []).lookup n := by
  have shared : Unreferenced moved cs := by
    intro b mem out
    have left : b ∈ cs.filter (·.name ∉ moved) := List.mem_filter.mpr ⟨mem, by simpa using out⟩
    rw [rest] at left
    exact free b (List.mem_filter.mp left).1 out
  rw [← lookup_foldl_kept (fun _ _ => rfl) shared (fun _ _ => rfl) n kept, rest]
  exact lookup_foldl_kept agree free (fun _ _ => rfl) n kept

end Moved

end GatedCache.EnvFile
