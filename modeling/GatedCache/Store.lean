/-!
A store of texts with a clock. An entry may have a deadline; once the clock reaches it the entry
counts as absent, whether or not it is still held. Keys are found by `find?`, which is the view
through which the operations are described.
-/
namespace GatedCache

structure Entry where
  value : String
  deadline : Option Int
  deriving DecidableEq

def Entry.isLive (now : Int) (e : Entry) : Bool :=
  e.deadline.all fun d => now < d

namespace Entry

@[simp] theorem isLive_undated (now : Int) (value : String) : isLive now ⟨value, none⟩ = true := rfl

@[simp] theorem isLive_dated (now : Int) (value : String) (deadline : Int) :
    isLive now ⟨value, some deadline⟩ = decide (now < deadline) := rfl

theorem isLive_earlier (e : Entry) {now later : Int} (order : now ≤ later)
    (h : e.isLive later = true) : e.isLive now = true := by
  obtain ⟨value, deadline⟩ := e
  cases deadline with
  | none => rfl
  | some d =>
    simp only [isLive_dated, decide_eq_true_eq] at h ⊢
    omega

/-- What is present later was present before; only deadlines come in between. -/
theorem filter_isLive (held : Option Entry) {now later : Int} (order : now ≤ later) :
    (held.filter (isLive now)).filter (isLive later) = held.filter (isLive later) := by
  rw [Option.filter_filter]
  congr 1
  funext e
  cases h : e.isLive later with
  | false => rw [Bool.and_false]
  | true => rw [e.isLive_earlier order h, Bool.and_self]

end Entry

/-- A clock and the entries held, each key at most once as far as operations go. -/
structure Store where
  now : Int
  entries : List (String × Entry)
  deriving DecidableEq

namespace Store

def empty : Store := ⟨0, []⟩

def ofList (entries : List (String × Entry)) : Store := ⟨0, entries⟩

def held? (s : Store) (key : String) : Option Entry := s.entries.lookup key

def find? (s : Store) (key : String) : Option Entry :=
  (s.held? key).filter (Entry.isLive s.now)

def contains (s : Store) (key : String) : Bool := (s.find? key).isSome

def erase (s : Store) (key : String) : Store :=
  { s with entries := s.entries.filter fun e => e.1 != key }

def insert (s : Store) (key : String) (e : Entry) : Store :=
  { s with entries := (key, e) :: (s.erase key).entries }

def clear (s : Store) : Store := { s with entries := [] }

def advance (s : Store) (seconds : Int) : Store := { s with now := s.now + seconds }

def toList (s : Store) : List (String × Entry) :=
  (s.entries.filter fun e => e.2.isLive s.now).mergeSort fun a b => a.1 ≤ b.1

@[simp] theorem now_insert (s : Store) (key : String) (e : Entry) : (s.insert key e).now = s.now := rfl

@[simp] theorem now_erase (s : Store) (key : String) : (s.erase key).now = s.now := rfl

theorem lookup_filter_ne (es : List (String × Entry)) (key other : String) :
    (es.filter fun e => e.1 != key).lookup other = if other = key then none else es.lookup other := by
  induction es with
  | nil => simp
  | cons e es ih =>
    obtain ⟨k, v⟩ := e
    by_cases hk : k = key
    · have hc : (k != key) = false := by simp [hk]
      by_cases ho : other = key
      · rw [List.filter_cons, hc, if_neg Bool.false_ne_true, ih, if_pos ho, if_pos ho]
      · have hb : (other == k) = false := by simp [hk, ho]
        simp only [List.filter_cons, hc, Bool.false_eq_true, if_false, ih, ho, List.lookup_cons, hb]
    · have hc : (k != key) = true := by simp [hk]
      by_cases ho : other = k
      · have hb : (other == k) = true := by simp [ho]
        have hn : other ≠ key := fun h => hk (ho.symm.trans h)
        simp only [List.filter_cons, hc, if_true, List.lookup_cons, hb, hn, if_false]
      · have hb : (other == k) = false := by simp [ho]
        simp only [List.filter_cons, hc, if_true, List.lookup_cons, hb, ih]

theorem held?_erase (s : Store) (key other : String) :
    (s.erase key).held? other = if other = key then none else s.held? other :=
  lookup_filter_ne s.entries key other

theorem held?_insert (s : Store) (key other : String) (e : Entry) :
    (s.insert key e).held? other = if other = key then some e else s.held? other := by
  by_cases h : other = key
  · simp [held?, insert, h]
  · have hb : (other == key) = false := by simp [h]
    have h' := held?_erase s key other
    simp only [held?, h, if_false] at h'
    simp only [held?, insert, List.lookup_cons, hb, h, if_false, h']

theorem find?_erase (s : Store) (key other : String) :
    (s.erase key).find? other = if other = key then none else s.find? other := by
  simp only [find?, held?_erase, now_erase]
  split <;> rfl

theorem find?_insert (s : Store) (key other : String) (e : Entry) :
    (s.insert key e).find? other =
      if other = key then (if e.isLive s.now then some e else none) else s.find? other := by
  simp only [find?, held?_insert, now_insert]
  split <;> rfl

theorem find?_advance (s : Store) (seconds : Nat) (key : String) :
    (s.advance seconds).find? key = (s.find? key).filter (Entry.isLive (s.now + seconds)) := by
  have order : s.now ≤ s.now + seconds := by omega
  exact (Entry.filter_isLive (s.held? key) order).symm

@[simp] theorem find?_clear (s : Store) (key : String) : s.clear.find? key = none := rfl

end Store
end GatedCache
