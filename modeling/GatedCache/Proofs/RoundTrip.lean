import GatedCache.Cache

/-!
What one operation does. The cache that it leaves depends on the operation and the cache alone, not
on what the client answers. An open cache sends exactly the operation's command; a disabled or a
closed one sends nothing and does not touch the client's state.
-/
namespace GatedCache.Cache

variable {σ : Type}

@[simp] theorem calls_nil : calls [] = [] := rfl

@[simp] theorem calls_append (a b : List Event) : calls (a ++ b) = calls a ++ calls b :=
  List.filterMap_append

theorem calls_logs (rs : List Log.Record) : calls (rs.map Event.log) = [] := by
  induction rs with
  | nil => rfl
  | cons r rs ih => exact ih

/-- Whatever a round trip comes to, the one call in its trace is the operation's command. -/
theorem calls_observe (op : Operation) (o : Outcome) : calls (observe op o) = [op.command] := by
  cases o with
  | ok reply =>
    simp only [observe, calls_append, calls_logs]
    rfl
  | error e =>
    simp only [observe]
    split <;> rfl

theorem command_eq_close_iff (op : Operation) : op.command = .close ↔ op = .shutdown := by
  cases op with
  | set key value seconds =>
    cases seconds with
    | none => simp [Operation.command]
    | some t => by_cases h : t = 0 <;> simp [Operation.command, h]
  | _ => simp [Operation.command]

def isOpen : Cache → Bool
  | live _ closed => !closed
  | disabled _ => false

def after (op : Operation) : Cache → Cache
  | disabled ttl => disabled ttl
  | live ttl closed => live ttl (closed || op == .shutdown)

theorem live_of_isEnabled {cache : Cache} (enabled : cache.isEnabled = true) :
    ∃ ttl closed, cache = live ttl closed := by
  cases cache with
  | disabled ttl => cases enabled
  | live ttl closed => exact ⟨ttl, closed, rfl⟩

theorem isEnabled_after (op : Operation) (cache : Cache) :
    (cache.after op).isEnabled = cache.isEnabled := by
  cases cache <;> rfl

theorem cache_perform (client : Client σ) (cache : Cache) (state : σ) (op : Operation) :
    (perform client cache state op).cache = cache.after op := by
  cases cache with
  | disabled ttl => rfl
  | live ttl closed => cases closed <;> rfl

theorem calls_perform (client : Client σ) (cache : Cache) (state : σ) (op : Operation) :
    calls (perform client cache state op).trace = if cache.isOpen then [op.command] else [] := by
  cases cache with
  | disabled ttl => rfl
  | live ttl closed =>
    cases closed with
    | true => rfl
    | false => exact calls_observe op _

theorem state_perform (client : Client σ) (cache : Cache) (state : σ) (op : Operation) :
    (perform client cache state op).state =
      if cache.isOpen then (client.answer state op.command).2 else state := by
  cases cache with
  | disabled ttl => rfl
  | live ttl closed => cases closed <;> rfl

theorem result_perform_open (client : Client σ) (ttl : Int) (state : σ) (op : Operation) :
    (perform client (live ttl false) state op).result =
      settle op (client.answer state op.command).1 := rfl

/-- What a shutdown comes to when the store's client is asked to close and fails. -/
def closingFailure (e : Failure) : Failure :=
  if e.isStore then .operation "shutdown" none (some e) else e

theorem settle_shutdown (o : Outcome) :
    settle .shutdown o = match o with
      | .ok _ => .ok .null
      | .error e => .error (closingFailure e) := by
  cases o with
  | ok reply => rfl
  | error e =>
    simp only [settle, closingFailure]
    split <;> rfl

end GatedCache.Cache
