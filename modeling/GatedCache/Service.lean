import GatedCache.Cache.Scope
import GatedCache.Log.Setup
import GatedCache.Service.Response

/-!
The service around a cache. It configures the log and opens the cache when it starts, answers
requests about its health, and shuts the cache down when it stops. Each step gives what happened to
the cache and the lines that it wrote; the time of a step is given to it as text.
-/
namespace GatedCache

inductive CreationFault where
  | untitled
  | unversioned
  deriving DecidableEq

namespace CreationFault

def message : CreationFault → String
  | untitled => "A title must be provided for OpenAPI, e.g.: \x27My API\x27"
  | unversioned => "A version must be provided for OpenAPI, e.g.: \x272.1.0\x27"

end CreationFault

/-- A service with the state of its store's client. It has a cache once it was started. -/
structure Service (σ : Type) where
  settings : Settings
  cache : Option Cache
  state : σ
  log : Log.Setup

namespace Service

variable {σ : Type}

/-- A service that was not started yet; its name and its version must not be empty. -/
def create (s : Settings) (state : σ) : Except CreationFault (Service σ) :=
  if s.serviceName.isEmpty then .error .untitled
  else if s.serviceVersion.isEmpty then .error .unversioned
  else .ok ⟨s, none, state, .fresh⟩

structure Step (σ α : Type) where
  result : α
  service : Service σ
  trace : List Cache.Event
  lines : List String

def loggerName : String := "lms_cache.main"

def recordLines (log : Log.Setup) (trace : List Cache.Event) : List String :=
  (Cache.logs trace).flatMap fun r => log.plain ⟨r.level, false⟩ r.message

def announce (log : Log.Setup) (time event : String) (own : Log.Fields) : List String × Log.Setup :=
  let (lines, log) := log.log time
    { logger := loggerName
      method := ⟨.info, false⟩
      event := event
      arguments := []
      bound := []
      own := own
      failure := none }
  (lines.toOption.getD [], log)

def startFields (s : Settings) : Log.Fields :=
  [("version", .text s.serviceVersion), ("environment", .text s.mode.name),
    ("redis_enabled", .bool s.redisEnabled)]

/-- Starts the service. If opening fails, it keeps the cache that it had. -/
def start (client : Client σ) (time : String) (a : Service σ) : Step σ (Except Failure Unit) :=
  let log := (a.log.configure (.text a.settings.logLevel.name) a.settings.logJson).2
  let (first, log) := announce log time "Starting LMS cache service" (startFields a.settings)
  let opening := Cache.enterOpening client a.settings a.state
  { result := opening.result.map fun _ => ()
    service := { a with
      cache := opening.result.toOption.or a.cache
      state := opening.state
      log := log }
    trace := opening.trace
    lines := first ++ recordLines log opening.trace }

/-- Stops the service: its cache is shut down, and it keeps it. -/
def stop (client : Client σ) (time : String) (a : Service σ) : Step σ (Except Failure Unit) :=
  match a.cache with
  | none => ⟨.ok (), a, [], []⟩
  | some cache =>
    let (first, log) := announce a.log time "Shutting down LMS cache service" []
    let left := Cache.leaveOpening client ⟨.ok (), cache, a.state, ()⟩
    let (last, log) := match left.result with
      | .ok _ => announce log time "LMS cache service stopped" []
      | .error _ => ([], log)
    { result := left.result
      service := { a with cache := some left.cache, state := left.state, log := log }
      trace := left.trace
      lines := first ++ recordLines log left.trace ++ last }

structure Reply where
  response : Response
  raised : Option Failure

def quiet (a : Service σ) (response : Response) : Step σ Reply := ⟨⟨response, none⟩, a, [], []⟩

def healthFields (s : Settings) (time : String) : List (String × Value) :=
  [("status", .text "healthy"), ("timestamp", .text time), ("service", .text s.serviceName),
    ("version", .text s.serviceVersion), ("environment", .text s.mode.name)]

def cacheFields (status : String) (enabled : Bool) : List (String × Value) :=
  [("status", .text status), ("enabled", .bool enabled)]

def noCache : Failure := .other "AttributeError" "\x27State\x27 object has no attribute \x27cache\x27"

def failedRecord (e : Failure) : Log.Record :=
  ⟨.health, .error, "Cache health check failed: " ++ e.text, []⟩

def pingReply : Outcome → Reply × List Cache.Event
  | .ok _ => (⟨.ok (cacheFields "healthy" true), none⟩, [])
  | .error e =>
    if e.isCache then (⟨.unavailable e, none⟩, [.log (failedRecord e)])
    else (⟨.internalError, some e⟩, [])

/-- Asks the cache, unless it is disabled. Whatever it replies means that it is healthy. -/
def checkCache (client : Client σ) (a : Service σ) : Step σ Reply :=
  match a.cache with
  | none => ⟨⟨.internalError, some noCache⟩, a, [], []⟩
  | some cache =>
    if cache.isEnabled then
      let step := cache.perform client a.state .ping
      let (reply, more) := pingReply step.result
      let trace := step.trace ++ more
      { result := reply
        service := { a with cache := some step.cache, state := step.state }
        trace := trace
        lines := recordLines a.log trace }
    else a.quiet (.ok (cacheFields "disabled" false))

def handle (client : Client σ) (time : String) (a : Service σ) (r : Request) : Step σ Reply :=
  match route r.method r.path with
  | .endpoint .health => a.quiet (.ok (healthFields a.settings time))
  | .endpoint .cacheHealth => a.checkCache client
  | .wrongMethod => a.quiet .wrongMethod
  | .moved path => a.quiet (.moved (r.address path))
  | .unknown => a.quiet .notFound

end Service
end GatedCache
