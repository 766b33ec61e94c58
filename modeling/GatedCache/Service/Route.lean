import GatedCache.Text.PercentEncoded

/-!
Which request goes where. Two paths are served, for one method and with exact spelling. A path that
differs from one of them only in slashes at its end is moved to it; every other path is unknown.
These are the router's own paths. The pages that the framework adds by itself, to describe the
application, are at paths of their own, which this module does not cover.
-/
namespace GatedCache

/-- A request. The origin is the scheme and the host that it was sent to. -/
structure Request where
  origin : String
  method : String
  path : String
  query : Option String

namespace Service

inductive Endpoint where
  | health
  | cacheHealth
  deriving DecidableEq

namespace Endpoint

def all : List Endpoint := [health, cacheHealth]

def path : Endpoint → String
  | health => "/health/"
  | cacheHealth => "/health/cache"

def at? (path : String) : Option Endpoint :=
  all.find? fun e => e.path == path

end Endpoint

def servedMethod : String := "GET"

inductive Route where
  | endpoint (e : Endpoint)
  | wrongMethod
  | moved (path : String)
  | unknown
  deriving DecidableEq

/-- The path without the slashes at its end if it has any, else with one. -/
def otherSpelling (path : String) : String :=
  let cs := path.toList.reverse
  match cs with
  | '/' :: _ => String.ofList (cs.dropWhile (· == '/')).reverse
  | _ => path ++ "/"

def route (method path : String) : Route :=
  match Endpoint.at? path with
  | some e => if method = servedMethod then .endpoint e else .wrongMethod
  | none =>
    if path ≠ "/" ∧ (Endpoint.at? (otherSpelling path)).isSome then .moved (otherSpelling path)
    else .unknown

end Service

namespace Request

def inAddress (c : Char) : Bool :=
  c.isAlphanum || "_.-~:/%#?=@[]!$&\x27()*+,;".toList.contains c

def address (r : Request) (path : String) : String :=
  let query := match r.query with
    | some q => if q.isEmpty then "" else "?" ++ q
    | none => ""
  Text.percentEncoded inAddress (r.origin ++ path ++ query)

end Request
end GatedCache
