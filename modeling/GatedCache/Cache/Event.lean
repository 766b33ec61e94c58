import GatedCache.Cache.Operation
import GatedCache.Log.Record

/-!
What can be seen of a cache at work: the commands it sends, the spans it opens around them, and the
records it logs, in the order in which they happen.
-/
namespace GatedCache.Cache

inductive SpanStatus where
  | ok
  | error (description : String)
  deriving DecidableEq

structure Span where
  name : String
  attributes : List (String × String)
  status : Option SpanStatus
  deriving DecidableEq

def Operation.span (op : Operation) (status : Option SpanStatus) : Span :=
  { name := "cache." ++ op.name
    attributes := [("db.system", "redis"), ("cache.operation", op.name)] ++
      (match op.key? with
        | some key => [("cache.key", key)]
        | none => [])
    status := status }

def Operation.failureRecord (op : Operation) (e : Failure) : Log.Record :=
  { origin := .cache
    level := .warning
    message := "Cache operation failed: " ++ op.name
    extra := [("operation", .text op.name), ("key", Value.ofText? op.key?), ("error", .text e.text)] }

def Operation.doneRecord? : Operation → Option Log.Record
  | .flush => some ⟨.cache, .warning, "Cache flushed: all keys in the logical database deleted", []⟩
  | .shutdown => some ⟨.cache, .info, "Redis cache connection closed", []⟩
  | _ => none

inductive Event where
  | call (command : Command)
  | span (span : Span)
  | log (record : Log.Record)

namespace Event

def call? : Event → Option Command
  | call c => some c
  | _ => none

def span? : Event → Option Span
  | span s => some s
  | _ => none

def log? : Event → Option Log.Record
  | log r => some r
  | _ => none

end Event

def calls (trace : List Event) : List Command := trace.filterMap Event.call?

def spans (trace : List Event) : List Span := trace.filterMap Event.span?

def logs (trace : List Event) : List Log.Record := trace.filterMap Event.log?

end GatedCache.Cache
