import GatedCache.Cache.Session
import GatedCache.Proofs.RoundTrip

/-!
Callers that keep to different keys. A command about a key is answered from the time and from what
the store holds under that key, and it changes nothing under other keys. So if several callers share
an open cache and no two of them use the same key, then each sees what it would see alone, however
their calls take turns and however time passes, and under its keys the store holds the same in the
end.
-/
namespace GatedCache

/-- The key that a command is about, if it is about one. -/
def Command.key? : Command → Option String
  | .set key _ | .setFor key _ _ | .get key | .delete key | .has key | .expire key _ | .ttl key =>
    some key
  | .flush | .ping | .close => none

namespace Store

/-- Two stores tell the same time and hold the same under some keys. -/
structure SameOn (keys : String → Prop) (s t : Store) : Prop where
  now : s.now = t.now
  held : ∀ key, keys key → s.held? key = t.held? key

theorem now_expireEntry (s : Store) (key : String) (e : Entry) (seconds : Int) :
    (s.expireEntry key e seconds).now = s.now := by
  unfold expireEntry
  split <;> rfl

theorem now_answer (s : Store) (c : Command) : (s.answer c).2.now = s.now := by
  cases c with
  | setFor key seconds value =>
    simp only [answer]
    split <;> rfl
  | expire key seconds =>
    simp only [answer]
    split
    · rfl
    · split
      · rfl
      · exact s.now_expireEntry key _ seconds
  | ttl key =>
    simp only [answer]
    split <;> rfl
  | _ => rfl

theorem held?_insert_ne (s : Store) {key other : String} (apart : other ≠ key) (e : Entry) :
    (s.insert key e).held? other = s.held? other := by
  rw [held?_insert, if_neg apart]

theorem held?_erase_ne (s : Store) {key other : String} (apart : other ≠ key) :
    (s.erase key).held? other = s.held? other := by
  rw [held?_erase, if_neg apart]

theorem held?_expireEntry_ne (s : Store) {key other : String} (apart : other ≠ key) (e : Entry)
    (seconds : Int) : (s.expireEntry key e seconds).held? other = s.held? other := by
  unfold expireEntry
  split
  · exact s.held?_erase_ne apart
  · exact s.held?_insert_ne apart _

/-- A command about a key changes nothing under another one. -/
theorem held?_answer_ne (s : Store) {c : Command} {key other : String} (about : c.key? = some key)
    (apart : other ≠ key) : (s.answer c).2.held? other = s.held? other := by
  cases c with
  | set k value =>
    cases about
    exact s.held?_insert_ne apart _
  | setFor k seconds value =>
    cases about
    simp only [answer]
    split
    · rfl
    · exact s.held?_insert_ne apart _
  | delete k =>
    cases about
    exact s.held?_erase_ne apart
  | expire k seconds =>
    cases about
    simp only [answer]
    split
    · rfl
    · split
      · rfl
      · exact s.held?_expireEntry_ne apart _ seconds
  | ttl k =>
    simp only [answer]
    split <;> rfl
  | get k => rfl
  | has k => rfl
  | flush => cases about
  | ping => cases about
  | close => cases about

@[simp] theorem held?_insert_self (s : Store) (key : String) (e : Entry) :
    (s.insert key e).held? key = some e := by
  rw [held?_insert, if_pos rfl]

@[simp] theorem held?_erase_self (s : Store) (key : String) : (s.erase key).held? key = none := by
  rw [held?_erase, if_pos rfl]

theorem held?_expireEntry_self (s : Store) (key : String) (e : Entry) (seconds : Int) :
    (s.expireEntry key e seconds).held? key =
      if seconds ≤ 0 then none else some { e with deadline := some (s.now + seconds) } := by
  unfold expireEntry
  split
  · exact s.held?_erase_self key
  · exact s.held?_insert_self key _

section SameAtKey

variable {s t : Store} {key : String} (now : s.now = t.now) (held : s.held? key = t.held? key)
include now held

theorem find?_congr : s.find? key = t.find? key := by
  rw [find?, find?, now, held]

/-- The answer to a command about a key, and what is held under that key afterwards, come from the
time and from what was held under it. -/
theorem answer_congr {c : Command} (about : c.key? = some key) :
    (s.answer c).1 = (t.answer c).1 ∧ (s.answer c).2.held? key = (t.answer c).2.held? key := by
  have found := find?_congr now held
  cases c with
  | set k value =>
    cases about
    refine ⟨rfl, ?_⟩
    simp only [answer, held?_insert_self]
  | setFor k seconds value =>
    cases about
    simp only [answer, now]
    split
    · exact ⟨rfl, held⟩
    · exact ⟨rfl, by rw [held?_insert_self, held?_insert_self]⟩
  | get k =>
    cases about
    exact ⟨by rw [answer, found, answer], held⟩
  | delete k =>
    cases about
    refine ⟨by rw [answer, contains, found, answer, contains], ?_⟩
    simp only [answer, held?_erase_self]
  | has k =>
    cases about
    exact ⟨by rw [answer, contains, found, answer, contains], held⟩
  | expire k seconds =>
    cases about
    simp only [answer, found]
    split
    · exact ⟨rfl, held⟩
    · cases t.find? key with
      | none => exact ⟨rfl, held⟩
      | some e => exact ⟨rfl, by rw [held?_expireEntry_self, held?_expireEntry_self, now]⟩
  | ttl k =>
    cases about
    simp only [answer, found, now]
    cases t.find? key <;> exact ⟨rfl, held⟩
  | flush => cases about
  | ping => cases about
  | close => cases about

end SameAtKey

namespace SameOn

variable {keys : String → Prop} {s t : Store}

theorem refl (keys : String → Prop) (s : Store) : SameOn keys s s := ⟨rfl, fun _ _ => rfl⟩

theorem advance (same : SameOn keys s t) (seconds : Int) :
    SameOn keys (s.advance seconds) (t.advance seconds) :=
  ⟨congrArg (· + seconds) same.now, same.held⟩

theorem answer_own (same : SameOn keys s t) {c : Command} {key : String} (about : c.key? = some key)
    (own : keys key) :
    (s.answer c).1 = (t.answer c).1 ∧ SameOn keys (s.answer c).2 (t.answer c).2 := by
  obtain ⟨reply, here⟩ := answer_congr same.now (same.held key own) about
  refine ⟨reply, ?_, fun other otherOwn => ?_⟩
  · rw [now_answer, now_answer, same.now]
  · by_cases apart : other = key
    · rw [apart, here]
    · rw [held?_answer_ne s about apart, held?_answer_ne t about apart, same.held other otherOwn]

theorem answer_foreign (same : SameOn keys s t) {c : Command} {key : String}
    (about : c.key? = some key) (foreign : ¬ keys key) : SameOn keys (s.answer c).2 t := by
  refine ⟨?_, fun other own => ?_⟩
  · rw [now_answer, same.now]
  · have apart : other ≠ key := by
      rintro rfl
      exact foreign own
    rw [held?_answer_ne s about apart, same.held other own]

end SameOn
end Store

namespace Cache

theorem key?_command (op : Operation) : op.command.key? = op.key? := by
  cases op with
  | set key value seconds =>
    cases seconds with
    | none => rfl
    | some t =>
      simp only [Operation.command]
      split <;> rfl
  | _ => rfl

variable {κ : Type}

/-- What happens at a cache that several callers share. -/
inductive Act (κ : Type) where
  | call (caller : κ) (op : Operation)
  | wait (seconds : Int)

def Act.turn : Act κ → Turn
  | call _ op => ⟨.perform op, []⟩
  | wait seconds => ⟨.advance seconds, []⟩

/-- All that happens at an open cache over a store: the reports, one for each act, and the store that
is left. -/
def share (ttl : Int) (s : Store) (acts : List (Act κ)) : List Report × Store :=
  let (reports, _, last) := takeAll (live ttl false) ⟨s, []⟩ (acts.map Act.turn)
  (reports, last.store)

def reportOf (ttl : Int) (op : Operation) (o : Outcome) : Report :=
  ⟨.outcome (settle op o), live ttl false, observe op o, 0⟩

theorem share_call (ttl : Int) (s : Store) (caller : κ) {op : Operation} (stays : op ≠ .shutdown)
    (acts : List (Act κ)) :
    share ttl s (.call caller op :: acts) =
      (reportOf ttl op (s.answer op.command).1 :: (share ttl (s.answer op.command).2 acts).1,
        (share ttl (s.answer op.command).2 acts).2) := by
  have taken : take (live ttl false) ⟨s, []⟩ (Act.turn (.call caller op)) =
      (reportOf ttl op (s.answer op.command).1, ⟨(s.answer op.command).2, []⟩) := by
    have kept := cache_perform Scripted.client (live ttl false) ⟨s, []⟩ op
    have flag : (op == .shutdown) = false := by simp [stays]
    simp only [after, flag, Bool.or_false] at kept
    simp only [take, Act.turn, Step.report, Scripted.load, kept]
    rfl
  simp only [share, List.map_cons, takeAll, taken]
  rfl

theorem share_wait (ttl : Int) (s : Store) (seconds : Int) (acts : List (Act κ)) :
    share ttl s (.wait seconds :: acts) =
      (⟨.time (s.advance seconds).now, live ttl false, [], 0⟩ ::
          (share ttl (s.advance seconds) acts).1,
        (share ttl (s.advance seconds) acts).2) := rfl

/-- A caller's calls are about some keys, and the calls of others are about none of them. -/
def Act.KeepsTo (who : κ) (keys : String → Prop) : Act κ → Prop
  | call caller op => ∃ key, op.key? = some key ∧ (keys key ↔ caller = who)
  | wait _ => True

theorem stays_of_key? {op : Operation} {key : String} (about : op.key? = some key) :
    op ≠ .shutdown := by
  rintro rfl
  cases about

variable [DecidableEq κ]

/-- Whether a caller is in it: it makes the call, or time passes for everyone. -/
def Act.concerns (who : κ) : Act κ → Bool
  | call caller _ => caller = who
  | wait _ => true

def Act.operation? (who : κ) : Act κ → Option Operation
  | call caller op => if caller = who then some op else none
  | wait _ => none

def operationsOf (who : κ) (acts : List (Act κ)) : List Operation :=
  acts.filterMap (Act.operation? who)

def keysOf (who : κ) (acts : List (Act κ)) : List String :=
  (operationsOf who acts).filterMap Operation.key?

/-- What happens without the calls of others, at the same times. -/
def alone (who : κ) (acts : List (Act κ)) : List (Act κ) := acts.filter (Act.concerns who)

/-- The reports of those acts that a caller is in. -/
def shownTo (who : κ) (acts : List (Act κ)) (reports : List Report) : List Report :=
  ((acts.zip reports).filter fun shown => shown.1.concerns who).map Prod.snd

theorem share_alone (ttl : Int) (who : κ) (keys : String → Prop) (acts : List (Act κ))
    (kept : ∀ act ∈ acts, act.KeepsTo who keys) (s t : Store) (same : Store.SameOn keys s t) :
    shownTo who acts (share ttl s acts).1 = (share ttl t (alone who acts)).1 ∧
      Store.SameOn keys (share ttl s acts).2 (share ttl t (alone who acts)).2 := by
  -- The two stores go on together at the caller's own calls; at a foreign call only the first moves.
  induction acts generalizing s t with
  | nil => exact ⟨rfl, same⟩
  | cons act acts ih =>
    have later : ∀ act ∈ acts, act.KeepsTo who keys :=
      fun act present => kept act (List.mem_cons_of_mem _ present)
    cases act with
    | wait seconds =>
      obtain ⟨shown, last⟩ := ih later _ _ (same.advance seconds)
      have own : (Act.wait seconds : Act κ).concerns who = true := rfl
      have time : (s.advance seconds).now = (t.advance seconds).now := (same.advance seconds).now
      simp only [share_wait, alone, List.filter_cons, own, if_true]
      refine ⟨?_, last⟩
      rw [← alone, ← shown, ← time]
      simp [shownTo, own]
    | call caller op =>
      obtain ⟨key, about, mine⟩ := kept _ List.mem_cons_self
      have sent : op.command.key? = some key := (key?_command op).trans about
      have stays := stays_of_key? about
      by_cases self : caller = who
      · obtain ⟨reply, next⟩ := same.answer_own sent (mine.mpr self)
        obtain ⟨shown, last⟩ := ih later _ _ next
        have own : (Act.call caller op).concerns who = true := decide_eq_true self
        simp only [alone, List.filter_cons, own, if_true, share_call ttl _ caller stays]
        refine ⟨?_, last⟩
        rw [← alone, ← shown, ← reply]
        simp [shownTo, own]
      · have next := same.answer_foreign sent fun own => self (mine.mp own)
        obtain ⟨shown, last⟩ := ih later _ _ next
        have foreign : (Act.call caller op).concerns who = false := decide_eq_false self
        simp only [alone, List.filter_cons, foreign, Bool.false_eq_true, if_false,
          share_call ttl _ caller stays]
        refine ⟨?_, last⟩
        rw [← alone, ← shown]
        simp [shownTo, foreign]

theorem mem_operationsOf {caller : κ} {op : Operation} {acts : List (Act κ)}
    (present : .call caller op ∈ acts) : op ∈ operationsOf caller acts :=
  List.mem_filterMap.mpr ⟨_, present, if_pos rfl⟩

theorem keepsTo_of_apart {acts : List (Act κ)}
    (keyed : ∀ caller, ∀ op ∈ operationsOf caller acts, op.key?.isSome = true)
    (apart : ∀ one other, one ≠ other → ∀ key ∈ keysOf one acts, key ∉ keysOf other acts) (who : κ)
    (act : Act κ) (present : act ∈ acts) : act.KeepsTo who (· ∈ keysOf who acts) := by
  cases act with
  | wait seconds => trivial
  | call caller op =>
    have made := mem_operationsOf present
    obtain ⟨key, about⟩ := Option.isSome_iff_exists.mp (keyed caller op made)
    have used : key ∈ keysOf caller acts := List.mem_filterMap.mpr ⟨op, made, about⟩
    refine ⟨key, about, fun own => ?_, fun self => self ▸ used⟩
    exact Decidable.byContradiction fun other => apart caller who other key used own

/-- Callers share an open cache over a store. Each call is about a key, and no key is used by two
callers. Then, in whatever turns they call and however time passes, each of them is shown what it
would be shown alone, and what the store holds under its keys in the end is what it would leave
there alone. -/
theorem callers_with_own_keys_are_undisturbed (ttl : Int) (s : Store) (acts : List (Act κ))
    (keyed : ∀ caller, ∀ op ∈ operationsOf caller acts, op.key?.isSome = true)
    (apart : ∀ one other, one ≠ other → ∀ key ∈ keysOf one acts, key ∉ keysOf other acts) (who : κ) :
    shownTo who acts (share ttl s acts).1 = (share ttl s (alone who acts)).1 ∧
      Store.SameOn (· ∈ keysOf who acts) (share ttl s acts).2 (share ttl s (alone who acts)).2 :=
  share_alone ttl who _ acts (keepsTo_of_apart keyed apart who) s s (.refl _ s)

/-- Two callers, one of whom is refused while the entry of the other comes to its deadline. -/
def twoCallers : List (Act Bool) :=
  [.call true (.set "seat" "taken" (some 2)), .call false (.set "desk" "free" (some (-1))), .wait 1,
    .call true (.ttl "seat"), .call false (.set "desk" "taken" none), .wait 1,
    .call false (.expire "desk" 9223372036854776), .call true (.get "seat"),
    .call false (.get "desk")]

theorem two_callers_are_undisturbed :
    (shownTo true twoCallers (share 3600 .empty twoCallers).1).map Report.answer =
        [.outcome (.ok .null), .time 1, .outcome (.ok (.int 1)), .time 2, .outcome (.ok .null)] ∧
      (share 3600 .empty twoCallers).2.held? "desk" = some ⟨"taken", none⟩ := by
  have keyed : ∀ caller, ∀ op ∈ operationsOf caller twoCallers, op.key?.isSome = true := by decide
  have apart : ∀ one other, one ≠ other →
      ∀ key ∈ keysOf one twoCallers, key ∉ keysOf other twoCallers := by decide
  constructor
  · rw [(callers_with_own_keys_are_undisturbed 3600 .empty twoCallers keyed apart true).1]
    rfl
  · have same := (callers_with_own_keys_are_undisturbed 3600 .empty twoCallers keyed apart false).2
    rw [same.held "desk" (by decide)]
    rfl

end Cache
end GatedCache
