import GatedCache.Proofs.RoundTrip

/-!
What an operation of an open cache makes of the client's answer. Every operation has one errand: one
request, with the caller's own arguments. A fault of the store comes out wrapped in a failure of the
cache and leaves one warning; every other failure comes out as it is and leaves none. Some system
faults share a name with store faults, so it is the family that decides, not the name.
-/
namespace GatedCache.Cache

variable {σ : Type}

/-- What an operation goes by, the key it is about, and the request it makes. -/
structure Errand where
  name : String
  key? : Option String
  word : String
  arguments : List Value

def Operation.errand : Operation → Errand
  | set key value none | set key value (some 0) =>
    ⟨"set", some key, "set", [.text key, .text value]⟩
  | set key value (some seconds) =>
    ⟨"set", some key, "setex", [.text key, .int seconds, .text value]⟩
  | get key => ⟨"get", some key, "get", [.text key]⟩
  | delete key => ⟨"delete", some key, "delete", [.text key]⟩
  | has key => ⟨"exists", some key, "exists", [.text key]⟩
  | expire key seconds => ⟨"expire", some key, "expire", [.text key, .int seconds]⟩
  | ttl key => ⟨"ttl", some key, "ttl", [.text key]⟩
  | flush => ⟨"flush", none, "flushdb", []⟩
  | ping => ⟨"ping", none, "ping", []⟩
  | shutdown => ⟨"shutdown", none, "aclose", []⟩

/-- The failure that a cache raises in place of a store fault. -/
structure Wraps (errand : Errand) (fault : StoreFault) (text : String) (f : Failure) : Prop where
  name : f.name = "CacheOperationException"
  message : f.text = "Cache operation \x27" ++ errand.name ++ "\x27 failed"
  code : f.code = some "CACHE_OPERATION_ERROR"
  cause : f.cause = some (.store fault text)
  operation : f.details.lookup "operation" = some (.text errand.name)
  key : f.details.lookup "key" = errand.key?.map Value.text
  originalError : f.details.lookup "original_error" = some (.text text)
  originalErrorType : f.details.lookup "original_error_type" = some (.text fault.name)

/-- The warning that a cache logs about a store fault; without a key it shows none. -/
structure Warns (errand : Errand) (text : String) (r : Log.Record) : Prop where
  origin : r.origin = .cache
  level : r.level = .warning
  message : r.message = "Cache operation failed: " ++ errand.name
  operation : r.extra.lookup "operation" = some (.text errand.name)
  key : r.extra.lookup "key" = some (Value.ofText? errand.key?)
  error : r.extra.lookup "error" = some (.text text)

def ReportsFailure (r : Log.Record) : Prop := ∃ op, r.message = "Cache operation failed: " ++ op

/-- What a reply comes to. Only the time to live has to be read as a number, which may fail after the
round trip is over. -/
def Returns (op : Operation) (reply : Value) (result : Outcome) : Prop :=
  (∃ v, result = .ok v) ∨
    ∃ key problem, op = .ttl key ∧ reply.toInteger = .error problem ∧ result = .error (.reply problem)

/-- A step of an open cache, by what the client's one call came to. -/
def Translated (op : Operation) (step : Step σ) : Outcome → Prop
  | .ok reply =>
    spans step.trace = [op.span (some .ok)] ∧ Returns op reply step.result ∧
      ∀ r ∈ logs step.trace, ¬ ReportsFailure r
  | .error (.store fault text) =>
    ∃ f r, step.result = .error f ∧ Wraps op.errand fault text f ∧
      logs step.trace = [r] ∧ Warns op.errand text r
  | .error e => step.result = .error e ∧ logs step.trace = []

theorem name_errand (op : Operation) : op.errand.name = op.name := by
  unfold Operation.errand
  split <;> rfl

theorem key?_errand (op : Operation) : op.errand.key? = op.key? := by
  unfold Operation.errand
  split <;> rfl

theorem command_errand (op : Operation) :
    op.command.word = op.errand.word ∧ op.command.arguments = op.errand.arguments := by
  unfold Operation.errand
  split
  case h_3 key value seconds dated =>
    have positive : seconds ≠ 0 := fun zero => dated zero
    simp [Operation.command, positive, Command.word, Command.arguments]
  all_goals exact ⟨rfl, rfl⟩

theorem wraps_errand (errand : Errand) (fault : StoreFault) (text : String) :
    Wraps errand fault text (.operation errand.name errand.key? (some (.store fault text))) := by
  obtain ⟨name, key?, word, arguments⟩ := errand
  cases key? <;> exact ⟨rfl, rfl, rfl, rfl, rfl, rfl, rfl, rfl⟩

theorem wraps_operation (op : Operation) (fault : StoreFault) (text : String) :
    Wraps op.errand fault text (.operation op.name op.key? (some (.store fault text))) := by
  rw [← name_errand, ← key?_errand]
  exact wraps_errand op.errand fault text

theorem warns_failureRecord (op : Operation) (fault : StoreFault) (text : String) :
    Warns op.errand text (op.failureRecord (.store fault text)) := by
  refine ⟨rfl, rfl, ?_, ?_, ?_, rfl⟩
  · rw [name_errand]
    rfl
  · rw [name_errand]
    rfl
  · rw [key?_errand]
    rfl

theorem returns_result (op : Operation) (reply : Value) : Returns op reply (op.result reply) := by
  cases op with
  | ttl key =>
    cases read : reply.toInteger with
    | ok i => exact .inl ⟨.int i, by simp only [Operation.result, read]⟩
    | error problem => exact .inr ⟨key, problem, rfl, read, by simp only [Operation.result, read]⟩
  | _ => exact .inl ⟨_, rfl⟩

theorem doneRecord?_silent (op : Operation) (r : Log.Record) (done : op.doneRecord? = some r) :
    ¬ ReportsFailure r := by
  rintro ⟨other, message⟩
  have letters := congrArg (fun s => s.toList.take 7) message
  cases op <;> cases done <;> simp at letters

theorem logs_observe_ok (op : Operation) (reply : Value) :
    logs (observe op (.ok reply)) = op.doneRecord?.toList := by
  cases op <;> rfl

theorem spans_observe_ok (op : Operation) (reply : Value) :
    spans (observe op (.ok reply)) = [op.span (some .ok)] := by
  cases op <;> rfl

/-- An operation of an open cache makes one call, the one of its errand, and leaves the client as
that call leaves it. What the call came to decides what the caller gets and what is logged. -/
theorem perform_translates (client : Client σ) (ttl : Int) (state : σ) (op : Operation) :
    ∃ command, command.word = op.errand.word ∧ command.arguments = op.errand.arguments ∧
      calls (perform client (live ttl false) state op).trace = [command] ∧
      (perform client (live ttl false) state op).state = (client.answer state command).2 ∧
      Translated op (perform client (live ttl false) state op) (client.answer state command).1 := by
  obtain ⟨word, arguments⟩ := command_errand op
  refine ⟨op.command, word, arguments, calls_perform client (live ttl false) state op, rfl, ?_⟩
  rw [perform_open]
  simp only [roundTrip]
  cases (client.answer state op.command).1 with
  | ok reply =>
    refine ⟨spans_observe_ok op reply, returns_result op reply, fun r logged => ?_⟩
    rw [logs_observe_ok, Option.mem_toList] at logged
    exact doneRecord?_silent op r logged
  | error e =>
    cases e with
    | store fault text =>
      exact ⟨_, _, rfl, wraps_operation op fault text, rfl, warns_failureRecord op fault text⟩
    | _ => exact ⟨rfl, rfl⟩

-- A lost connection is wrapped if the store reports it, and not if the system does.
example : settle (.get "seat") (.error (.store .connection "down")) =
      .error (.operation "get" (some "seat") (some (.store .connection "down"))) ∧
    settle (.get "seat") (.error (.system .connection "down")) = .error (.system .connection "down") :=
  ⟨rfl, rfl⟩

end GatedCache.Cache
