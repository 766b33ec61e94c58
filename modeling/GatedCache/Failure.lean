import GatedCache.Value.Integer

/-!
What can go wrong around the cache. A store client reports store faults; the operating system
reports system faults; the two families share some names and are otherwise unrelated. The cache's
own failures carry a message, a code and details, and keep the fault that caused them.
-/
namespace GatedCache

inductive StoreFault where
  | general
  | connection
  | timeout
  | authentication
  | authorization
  | busyLoading
  | maxConnections
  | response
  | noScript
  | outOfMemory
  | readOnly
  | noPermission
  | invalidResponse
  | data
  | pubSub
  | watch
  | cluster
  | lock
  /-- Another fault, by its name, with the kind that it stands right under. -/
  | named (name : String) (above : StoreFault)
  deriving DecidableEq

namespace StoreFault

def name : StoreFault → String
  | general => "RedisError"
  | connection => "ConnectionError"
  | timeout => "TimeoutError"
  | authentication => "AuthenticationError"
  | authorization => "AuthorizationError"
  | busyLoading => "BusyLoadingError"
  | maxConnections => "MaxConnectionsError"
  | response => "ResponseError"
  | noScript => "NoScriptError"
  | outOfMemory => "OutOfMemoryError"
  | readOnly => "ReadOnlyError"
  | noPermission => "NoPermissionError"
  | invalidResponse => "InvalidResponse"
  | data => "DataError"
  | pubSub => "PubSubError"
  | watch => "WatchError"
  | cluster => "ClusterError"
  | lock => "LockError"
  | named name _ => name

def all : List StoreFault :=
  [general, connection, timeout, authentication, authorization, busyLoading, maxConnections,
    response, noScript, outOfMemory, readOnly, noPermission, invalidResponse, data, pubSub, watch,
    cluster, lock]

/-- Faults after which a request may be tried again: of the connection, or a timeout. -/
def isTransient : StoreFault → Bool
  | connection | authentication | authorization | busyLoading | maxConnections | timeout => true
  | named _ above => above.isTransient
  | _ => false

end StoreFault

inductive SystemFault where
  | general
  | connection
  | refused
  | reset
  | aborted
  | brokenPipe
  | timeout
  | blocked
  | childProcess
  | occupied
  | missing
  | interrupted
  | isDirectory
  | notDirectory
  | permission
  | noProcess
  /-- Another fault of the family, by its name. Nothing depends on where in the family it stands. -/
  | named (name : String)
  deriving DecidableEq

namespace SystemFault

def name : SystemFault → String
  | general => "OSError"
  | connection => "ConnectionError"
  | refused => "ConnectionRefusedError"
  | reset => "ConnectionResetError"
  | aborted => "ConnectionAbortedError"
  | brokenPipe => "BrokenPipeError"
  | timeout => "TimeoutError"
  | blocked => "BlockingIOError"
  | childProcess => "ChildProcessError"
  | occupied => "FileExistsError"
  | missing => "FileNotFoundError"
  | interrupted => "InterruptedError"
  | isDirectory => "IsADirectoryError"
  | notDirectory => "NotADirectoryError"
  | permission => "PermissionError"
  | noProcess => "ProcessLookupError"
  | named name => name

def all : List SystemFault :=
  [general, connection, refused, reset, aborted, brokenPipe, timeout, blocked, childProcess,
    occupied, missing, interrupted, isDirectory, notDirectory, permission, noProcess]

end SystemFault

inductive Failure where
  | store (fault : StoreFault) (text : String)
  | system (fault : SystemFault) (text : String)
  | cancelled (text : String)
  | reply (problem : NotInteger)
  /-- Any other error, by the name of its class. -/
  | other (name text : String)
  /-- A stop signal, by the name of its class, came out of steps that it would have ended; it is the
  cause. -/
  | strayStop (steps signal text : String)
  | cache (message : String) (code : Option String) (details : List (String × Value))
  | released (message : String) (operation : Option String)
  /-- A store round trip failed; the cause is kept. -/
  | operation (operation : String) (key : Option String) (cause : Option Failure)

namespace Failure

def name : Failure → String
  | store fault _ => fault.name
  | system fault _ => fault.name
  | cancelled _ => "CancelledError"
  | reply problem => problem.kindName
  | other name _ => name
  | strayStop _ _ _ => "RuntimeError"
  | cache _ _ _ => "CacheException"
  | released _ _ => "CacheConnectionException"
  | operation _ _ _ => "CacheOperationException"

def home : Failure → Option String
  | store _ _ => some "redis.exceptions"
  | cancelled _ => some "asyncio.exceptions"
  | cache _ _ _ | released _ _ | operation _ _ _ =>
    some "lms_cache.infrastructure.cache.exceptions"
  | _ => none

def text : Failure → String
  | store _ text => text
  | system _ text => text
  | cancelled text => text
  | reply problem => problem.message
  | other _ text => text
  | strayStop steps signal _ => steps ++ " raised " ++ signal
  | cache message _ _ => message
  | released message _ => message
  | operation op _ _ => "Cache operation \x27" ++ op ++ "\x27 failed"

/-- The class name with its home, and the text unless that is empty. -/
def summary (e : Failure) : String :=
  let name := match e.home with
    | some home => home ++ "." ++ e.name
    | none => e.name
  if e.text.isEmpty then name else name ++ ": " ++ e.text

def code : Failure → Option String
  | cache _ code _ => code
  | released _ _ => some "CACHE_CONNECTION_ERROR"
  | operation _ _ _ => some "CACHE_OPERATION_ERROR"
  | _ => none

def cause : Failure → Option Failure
  | strayStop _ signal text => some (other signal text)
  | operation _ _ cause => cause
  | _ => none

/-- The details that a cache failure carries: for a released connection the operation, if it is
named; for a failed round trip the operation, the key and the cause. -/
def details : Failure → List (String × Value)
  | cache _ _ details => details
  | released _ (some op) => if op.isEmpty then [] else [("operation", .text op)]
  | operation op key cause =>
    [("operation", .text op)] ++
      (match key with
        | some k => [("key", .text k)]
        | none => []) ++
      (match cause with
        | some e => [("original_error", .text e.text), ("original_error_type", .text e.name)]
        | none => [])
  | _ => []

def isCache : Failure → Bool
  | cache _ _ _ | released _ _ | operation _ _ _ => true
  | _ => false

def isStore : Failure → Bool
  | store _ _ => true
  | _ => false

def isSystem : Failure → Bool
  | system _ _ => true
  | _ => false

def isTransient : Failure → Bool
  | store fault _ => fault.isTransient
  | _ => false

/-- What comes out of steps in place of a failure. The signals that would end these steps come out
as another failure. -/
def outOf (steps : String) (signals : List String) : Failure → Failure
  | other name text => if name ∈ signals then strayStop steps name text else other name text
  | e => e

def outOfCall : Failure → Failure := outOf "coroutine" ["StopIteration"]

def outOfScope : Failure → Failure := outOf "async generator" ["StopIteration", "StopAsyncIteration"]

def releasedText : String := "Redis connection is closed"

/-- The failure of using a cache after its shutdown. -/
def afterShutdown (op : String) : Failure :=
  released ("Cache is shut down; cannot run \x27" ++ op ++ "\x27") (some op)

end Failure
end GatedCache
