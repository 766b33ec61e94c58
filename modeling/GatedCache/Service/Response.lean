import GatedCache.Failure
import GatedCache.Service.Route

/-!
Responses: a status, the headers that matter, and a body, which is an object or text. A failure of
the cache is reported with its code, its message and its details.
-/
namespace GatedCache

inductive Body where
  | object (v : Value)
  | text (s : String)

structure Response where
  status : Nat
  headers : List (String × String)
  body : Body

namespace Response

def ofValue (status : Nat) (headers : List (String × String)) (v : Value) : Response :=
  ⟨status, headers ++ [("content-type", "application/json")], .object v⟩

def detail (v : Value) : Value := .object [("detail", v)]

def ok (fields : List (String × Value)) : Response := ofValue 200 [] (.object fields)

def notFound : Response := ofValue 404 [] (detail (.text "Not Found"))

def wrongMethod : Response :=
  ofValue 405 [("allow", Service.servedMethod)] (detail (.text "Method Not Allowed"))

def moved (address : String) : Response := ⟨307, [("location", address)], .text ""⟩

def unavailableStatus : Nat := 503

def failureDetail (e : Failure) : Value :=
  .object [("error", Value.ofText? e.code), ("message", .text e.text), ("details", .object e.details)]

def unavailable (e : Failure) : Response := ofValue unavailableStatus [] (detail (failureDetail e))

/-- The response to a request in which any other failure arose; it tells nothing of it. -/
def internalError : Response :=
  ⟨500, [("content-type", "text/plain; charset=utf-8")], .text "Internal Server Error"⟩

end Response
end GatedCache
