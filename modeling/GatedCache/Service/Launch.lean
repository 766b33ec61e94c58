import GatedCache.Service

/-!
Launching a service from its sources: the settings are loaded, the service is made, and it is bound
to an address on which every interface of the machine is served.
-/
namespace GatedCache

inductive LaunchFault where
  | settings (problems : List Problem)
  | creation (fault : CreationFault)

def LaunchFault.lines : LaunchFault → List String
  | settings problems =>
    Problem.headline problems :: problems.map fun p => p.field.name ++ ": " ++ p.fault.message
  | creation fault => [fault.message]

structure Launch (σ : Type) where
  service : Service σ
  host : String
  tcpPort : Nat

namespace Launch

def allInterfaces : String := "0.0.0.0"
def standardTcpPort : Nat := 8000

def ofSources {σ : Type} (sources : Settings.Sources) (state : σ) : Except LaunchFault (Launch σ) :=
  match Settings.load sources with
  | .error problems => .error (.settings problems)
  | .ok s =>
    match Service.create s state with
    | .error fault => .error (.creation fault)
    | .ok service => .ok ⟨service, allInterfaces, standardTcpPort⟩

end Launch
end GatedCache
