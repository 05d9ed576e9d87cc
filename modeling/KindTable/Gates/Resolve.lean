import KindTable.Disk.Access
import KindTable.Gates.File

namespace KindTable

variable {m : Type → Type} [Monad m] [FileAccess m]

def loadGatesFile (path : String) : ExceptT GateFault m GateSet :=
  ExceptT.mk do
    match ← readText path with
    | .ok source => return parseGatesFile path source
    | .error fault => return .error (.unreadableFile path fault)

def resolveGates (defaults : GateSet) (file : Option String) (settings : List String) :
    ExceptT GateFault m GateSet := do
  let values ← match file with
    | none => pure none
    | some path => some <$> loadGatesFile path
  ExceptT.mk (pure (layerGates defaults values settings))

end KindTable
