import GatedCache.Service.Launch
import GatedCache.Settings.Shown

/-!
The command: loads the settings from the environment and from the file of bindings beside it, and
says what would be served where. It fails, with a line for each reason, if nothing can be served.
-/
namespace GatedCache

def bindingsFile : String := ".env"

def readEnvironment : List String → IO (List (String × String))
  | [] => return []
  | name :: names => do
    let rest ← readEnvironment names
    match ← IO.getEnv name with
    | some value => return (name, value) :: rest
    | none => return rest

def readBindings : IO (Option String) := do
  try
    return some (← IO.FS.readFile bindingsFile)
  catch _ => return none

end GatedCache

open GatedCache in
def main : IO UInt32 := do
  let file ← readBindings
  let referenced := (file.map EnvFile.referencedNames).getD []
  let environment ← readEnvironment (Field.all.map Field.name ++ referenced)
  match Launch.ofSources ⟨[], environment, file⟩ Store.empty with
  | .ok launch =>
    IO.println (launch.service.settings.serviceName ++ " " ++ launch.service.settings.serviceVersion ++
      " on " ++ launch.host ++ ":" ++ toString launch.tcpPort)
    IO.println launch.service.settings.plain
    return 0
  | .error fault =>
    for line in fault.lines do
      IO.eprintln line
    return 1
