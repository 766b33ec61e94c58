import GatedCache.Failure

/-!
Failures by the name of their class. A name with the head `redis` is a store fault, one with the
head `cache` a failure of the cache's own; a bare name is a system fault if it is one of their
family. The text is the argument, with two exceptions that the definitions state.
-/
namespace GatedCache.Failure

/-- A name that is not in the list stands right under the general fault. -/
def storeFault (name : String) : StoreFault :=
  (StoreFault.all.find? fun f => f.name == name).getD (.named name .general)

/-- A store fault: without an argument only the lock fault has a text. -/
def ofStoreName (name : String) (argument : Option String) : Failure :=
  let fault := storeFault name
  store fault (argument.getD (if fault = .lock then "None" else ""))

def ofCacheName (name : String) (argument : Option String) : Failure :=
  if name = "CacheConnectionException" then released (argument.getD releasedText) none
  else if name = "CacheOperationException" then operation (argument.getD "") none none
  else cache (argument.getD "") none []

/-- A failure by its bare name; a missing key is shown as a literal. -/
def ofBareName (name : String) (argument : Option String) : Failure :=
  let text := argument.getD ""
  if name = "CancelledError" then cancelled text
  else if name = "KeyError" then other name ((argument.map Text.quoted).getD "")
  else if name = "IOError" || name = "EnvironmentError" then system .general text
  else match SystemFault.all.find? fun f => f.name == name with
    | some fault => system fault text
    | none => other name text

def ofName (name : String) (argument : Option String) : Failure :=
  match name.splitOn "." with
  | ["redis", rest] => ofStoreName rest argument
  | ["cache", rest] => ofCacheName rest argument
  | _ => ofBareName name argument

/-- The failure that a call of the client ends in when it raises one of that class. -/
def ofCall (name : String) (argument : Option String) : Failure := (ofName name argument).outOfCall

end GatedCache.Failure
