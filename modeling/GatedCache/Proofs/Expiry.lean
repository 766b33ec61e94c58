import GatedCache.Cache.Session
import GatedCache.Proofs.RoundTrip

/-!
An open cache over a store is a map with deadlines. The map is described on its own: keys to texts
with optional deadlines, and a time at which a deadline that has come makes an entry absent. Over
every sequence of operations and passing time the cache answers as the map does, and the store holds
what the map holds.
-/
namespace GatedCache

structure TtlMap where
  now : Int
  entry : String → Option Entry

namespace TtlMap

/-- The entry present under a key: a deadline that has come makes it absent. -/
def present? (m : TtlMap) (key : String) : Option Entry :=
  match m.entry key with
  | none => none
  | some ⟨value, none⟩ => some ⟨value, none⟩
  | some ⟨value, some deadline⟩ =>
    if deadline ≤ m.now then none else some ⟨value, some deadline⟩

def put (m : TtlMap) (key : String) (e : Option Entry) : TtlMap :=
  { m with entry := fun other => if other = key then e else m.entry other }

def longest : Int := 9223372036854775

def refusal (operation key word : String) : Failure :=
  .operation operation (some key)
    (some (.store .response ("invalid expire time in \x27" ++ word ++ "\x27 command")))

/-- What an operation gives, and the map after it. No expiry counts as zero, and zero as none. -/
def call (m : TtlMap) : Cache.Operation → Outcome × TtlMap
  | .set key value seconds =>
    let t := seconds.getD 0
    if t = 0 then (.ok .null, m.put key (some ⟨value, none⟩))
    else if 1 ≤ t ∧ t ≤ longest then (.ok .null, m.put key (some ⟨value, some (m.now + t)⟩))
    else (.error (refusal "set" key "setex"), m)
  | .get key =>
    match m.present? key with
    | none => (.ok .null, m)
    | some e => (.ok (.text e.value), m)
  | .delete key => (.ok .null, m.put key none)
  | .has key => (.ok (.bool (m.present? key).isSome), m)
  | .expire key t =>
    if t < -longest ∨ longest < t then (.error (refusal "expire" key "expire"), m)
    else match m.present? key with
      | none => (.ok .null, m)
      | some e =>
        if t ≤ 0 then (.ok .null, m.put key none)
        else (.ok .null, m.put key (some ⟨e.value, some (m.now + t)⟩))
  | .ttl key =>
    match m.present? key with
    | none => (.ok (.int (-2)), m)
    | some ⟨_, none⟩ => (.ok (.int (-1)), m)
    | some ⟨_, some deadline⟩ => (.ok (.int (deadline - m.now)), m)
  | .flush => (.ok .null, { m with entry := fun _ => none })
  | .ping => (.ok (.bool true), m)
  | .shutdown => (.ok .null, m)

def wait (m : TtlMap) (seconds : Nat) : TtlMap := { m with now := m.now + seconds }

def ofStore (s : Store) : TtlMap := ⟨s.now, s.held?⟩

theorem present?_eq_filter (m : TtlMap) (key : String) :
    m.present? key = (m.entry key).filter (Entry.isLive m.now) := by
  unfold present?
  cases m.entry key with
  | none => rfl
  | some e =>
    obtain ⟨value, deadline⟩ := e
    cases deadline with
    | none => rfl
    | some d =>
      by_cases past : d ≤ m.now
      · have dead : ¬ m.now < d := by omega
        simp [Option.filter_some, past, dead]
      · have alive : m.now < d := by omega
        simp [Option.filter_some, past, alive]

theorem present?_put (m : TtlMap) (key other : String) (e : Option Entry) :
    (m.put key e).present? other =
      if other = key then e.filter (Entry.isLive m.now) else m.present? other := by
  simp only [present?_eq_filter, put]
  split <;> rfl

theorem present?_wait (m : TtlMap) (seconds : Nat) (key : String) :
    (m.wait seconds).present? key = (m.present? key).filter (Entry.isLive (m.now + seconds)) := by
  have order : m.now ≤ m.now + seconds := by omega
  rw [present?_eq_filter, present?_eq_filter]
  exact (Entry.filter_isLive (m.entry key) order).symm

end TtlMap

namespace Cache

/-- A store and a map that hold the same entries at the same time, as far as they are present. -/
structure Agrees (s : Store) (m : TtlMap) : Prop where
  now : s.now = m.now
  present : ∀ key, s.find? key = m.present? key

theorem initial_agrees (s : Store) : Agrees s (.ofStore s) :=
  ⟨rfl, fun key => ((TtlMap.ofStore s).present?_eq_filter key).symm⟩

section Changes

variable {s : Store} {m : TtlMap} (known : Agrees s m)
include known

theorem insert_agrees (key : String) (e : Entry) : Agrees (s.insert key e) (m.put key (some e)) := by
  refine ⟨known.now, fun other => ?_⟩
  rw [Store.find?_insert, TtlMap.present?_put, known.present, known.now, Option.filter_some]

theorem erase_agrees (key : String) : Agrees (s.erase key) (m.put key none) := by
  refine ⟨known.now, fun other => ?_⟩
  rw [Store.find?_erase, TtlMap.present?_put, known.present]
  rfl

theorem advance_agrees (seconds : Nat) : Agrees (s.advance seconds) (m.wait seconds) := by
  refine ⟨?_, fun key => ?_⟩
  · simp only [Store.advance, TtlMap.wait, known.now]
  · rw [Store.find?_advance, TtlMap.present?_wait, known.present, known.now]

theorem clear_agrees : Agrees s.clear { m with entry := fun _ => none } :=
  ⟨known.now, fun _ => rfl⟩

theorem set_agrees (key value : String) (seconds : Option Int) :
    settle (.set key value seconds) (s.answer (Operation.command (.set key value seconds))).1 =
        (m.call (.set key value seconds)).1 ∧
      Agrees (s.answer (Operation.command (.set key value seconds))).2
        (m.call (.set key value seconds)).2 := by
  have plain := insert_agrees known key ⟨value, none⟩
  cases seconds with
  | none => exact ⟨rfl, plain⟩
  | some t =>
    by_cases zero : t = 0
    · subst zero
      exact ⟨rfl, plain⟩
    · have range : (t ≤ 0 ∨ Store.longestExpiry < t) ↔ ¬ (1 ≤ t ∧ t ≤ TtlMap.longest) := by
        simp only [Store.longestExpiry, TtlMap.longest]
        omega
      by_cases fits : 1 ≤ t ∧ t ≤ TtlMap.longest
      · simp only [Operation.command, zero, if_false, Store.answer, range, TtlMap.call,
          Option.getD_some, fits, and_self, not_true, if_true, ← known.now]
        exact ⟨rfl, insert_agrees known key _⟩
      · simp only [Operation.command, zero, if_false, Store.answer, range, TtlMap.call,
          Option.getD_some, fits, not_false_eq_true, if_true]
        exact ⟨rfl, known⟩

theorem expire_agrees (key : String) (t : Int) :
    settle (.expire key t) (s.answer (.expire key t)).1 = (m.call (.expire key t)).1 ∧
      Agrees (s.answer (.expire key t)).2 (m.call (.expire key t)).2 := by
  have range : Store.longestExpiry < t.natAbs ↔ t < -TtlMap.longest ∨ TtlMap.longest < t := by
    simp only [Store.longestExpiry, TtlMap.longest]
    omega
  by_cases far : t < -TtlMap.longest ∨ TtlMap.longest < t
  · simp only [Store.answer, range, far, if_true, TtlMap.call]
    exact ⟨rfl, known⟩
  · simp only [Store.answer, range, far, if_false, TtlMap.call, known.present key]
    cases m.present? key with
    | none => exact ⟨rfl, known⟩
    | some e =>
      by_cases past : t ≤ 0
      · simp only [Store.expireEntry, past, if_true]
        exact ⟨rfl, erase_agrees known key⟩
      · simp only [Store.expireEntry, past, if_false, ← known.now]
        exact ⟨rfl, insert_agrees known key _⟩

theorem ttl_agrees (key : String) :
    settle (.ttl key) (s.answer (.ttl key)).1 = (m.call (.ttl key)).1 ∧
      Agrees (s.answer (.ttl key)).2 (m.call (.ttl key)).2 := by
  simp only [Store.answer, TtlMap.call, known.present key, known.now]
  cases m.present? key with
  | none => exact ⟨rfl, known⟩
  | some e =>
    obtain ⟨value, deadline⟩ := e
    cases deadline <;> exact ⟨rfl, known⟩

theorem call_agrees (op : Operation) :
    settle op (s.answer op.command).1 = (m.call op).1 ∧
      Agrees (s.answer op.command).2 (m.call op).2 := by
  cases op with
  | set key value seconds => exact set_agrees known key value seconds
  | expire key t => exact expire_agrees known key t
  | ttl key => exact ttl_agrees known key
  | get key =>
    simp only [Operation.command, Store.answer, TtlMap.call, known.present key]
    cases m.present? key <;> exact ⟨rfl, known⟩
  | has key =>
    simp only [Operation.command, Store.answer, TtlMap.call, Store.contains, known.present key]
    cases m.present? key <;> exact ⟨rfl, known⟩
  | delete key => exact ⟨rfl, erase_agrees known key⟩
  | flush => exact ⟨rfl, clear_agrees known⟩
  | ping => exact ⟨rfl, known⟩
  | shutdown => exact ⟨rfl, known⟩

end Changes

inductive Move where
  | call (op : Operation) (stays : op ≠ .shutdown)
  | wait (seconds : Nat)

def Move.turn : Move → Turn
  | call op _ => ⟨.perform op, []⟩
  | wait seconds => ⟨.advance seconds, []⟩

end Cache

namespace TtlMap

def move (m : TtlMap) : Cache.Move → Cache.Answer × TtlMap
  | .call op _ => (.outcome (m.call op).1, (m.call op).2)
  | .wait seconds => (.time (m.wait seconds).now, m.wait seconds)

def run (m : TtlMap) : List Cache.Move → List Cache.Answer × TtlMap
  | [] => ([], m)
  | move :: moves =>
    let (answer, m) := m.move move
    let (answers, last) := m.run moves
    (answer :: answers, last)

end TtlMap

namespace Cache

theorem take_agrees (ttl : Int) (s : Store) (m : TtlMap) (known : Agrees s m) (move : Move) :
    (take (live ttl false) ⟨s, []⟩ move.turn).1.answer = (m.move move).1 ∧
      (take (live ttl false) ⟨s, []⟩ move.turn).1.cache = live ttl false ∧
      ∃ s', (take (live ttl false) ⟨s, []⟩ move.turn).2 = ⟨s', []⟩ ∧ Agrees s' (m.move move).2 := by
  cases move with
  | call op stays =>
    have step := call_agrees known op
    have flag : (op == .shutdown) = false := by simp [stays]
    refine ⟨congrArg Answer.outcome step.1, ?_, _, rfl, step.2⟩
    exact congrArg (live ttl) flag
  | wait seconds =>
    have later := advance_agrees known seconds
    exact ⟨congrArg Answer.time later.now, rfl, _, rfl, later⟩

theorem takeAll_agrees (ttl : Int) (s : Store) (m : TtlMap) (known : Agrees s m)
    (moves : List Move) :
    (takeAll (live ttl false) ⟨s, []⟩ (moves.map Move.turn)).1.map Report.answer = (m.run moves).1 ∧
      (takeAll (live ttl false) ⟨s, []⟩ (moves.map Move.turn)).2.1 = live ttl false ∧
      Agrees (takeAll (live ttl false) ⟨s, []⟩ (moves.map Move.turn)).2.2.store (m.run moves).2 := by
  induction moves generalizing s m with
  | nil => exact ⟨rfl, rfl, known⟩
  | cons move moves ih =>
    obtain ⟨answer, cache, s', state, next⟩ := take_agrees ttl s m known move
    have rest := ih s' (m.move move).2 next
    simp only [List.map_cons, takeAll, TtlMap.run, cache, state]
    exact ⟨by rw [answer, rest.1], rest.2⟩

/-- From any store and over any moves: the answers of an open cache are those of the map that the
store stands for, the cache stays open, and at the end the store and the map hold the same. -/
theorem open_cache_is_ttl_map (ttl : Int) (s : Store) (moves : List Move) :
    (takeAll (live ttl false) ⟨s, []⟩ (moves.map Move.turn)).1.map Report.answer =
        ((TtlMap.ofStore s).run moves).1 ∧
      (takeAll (live ttl false) ⟨s, []⟩ (moves.map Move.turn)).2.1 = live ttl false ∧
      Agrees (takeAll (live ttl false) ⟨s, []⟩ (moves.map Move.turn)).2.2.store
        ((TtlMap.ofStore s).run moves).2 :=
  takeAll_agrees ttl s (.ofStore s) (initial_agrees s) moves

-- An entry is absent from the very moment of its deadline.
example : (takeAll (live 3600 false) ⟨.empty, []⟩
    [⟨.perform (.set "seat" "taken" (some 2)), []⟩, ⟨.advance 1, []⟩, ⟨.perform (.ttl "seat"), []⟩,
      ⟨.advance 1, []⟩, ⟨.perform (.get "seat"), []⟩]).1.map Report.answer =
    [.outcome (.ok .null), .time 1, .outcome (.ok (.int 1)), .time 2, .outcome (.ok .null)] := rfl

end Cache
end GatedCache
