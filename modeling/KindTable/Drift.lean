import KindTable.Disk.Access
import KindTable.FileSet
import KindTable.Text.Diff

namespace KindTable

structure AccessError where
  path : String
  fault : DiskFault
  deriving DecidableEq, Repr

def AccessError.message (e : AccessError) : String := "cannot access `" ++ e.path ++ "`: " ++ e.fault.message

structure Drift where
  file : String
  actual : Option String
  expected : String
  deriving DecidableEq, Repr

namespace Drift

def isMissing (d : Drift) : Bool := d.actual.isNone

def diff (d : Drift) : String := lineDiff (d.actual.getD "") d.expected

end Drift

variable {m : Type → Type} [Monad m] [FileAccess m]

def guardAccess {α : Type} (path : String) (access : m (Except DiskFault α)) : ExceptT AccessError m α :=
  ExceptT.mk do return (← access).mapError (AccessError.mk path)

def readExisting (path : String) : ExceptT AccessError m (Option String) :=
  ExceptT.mk do
    match ← readText path with
    | .ok text => return .ok (some text)
    | .error .missing => return .ok none
    | .error fault => return .error ⟨path, fault⟩

namespace FileSet

def driftOf (directory : String) : List (String × String) → ExceptT AccessError m (List Drift)
  | [] => return []
  | (name, expected) :: rest => do
    let actual ← readExisting (joinPath directory name)
    let drifts ← driftOf directory rest
    return if actual = some expected then drifts else ⟨name, actual, expected⟩ :: drifts

def driftFrom (s : FileSet) (directory : String) : ExceptT AccessError m (List Drift) := driftOf directory s.files

def writeFiles (directory : String) : List (String × String) → ExceptT AccessError m (List String)
  | [] => return []
  | (name, text) :: rest => do
    let path := joinPath directory name
    let actual ← readExisting path
    if actual = some text then writeFiles directory rest
    else
      guardAccess path (writeText path text)
      return path :: (← writeFiles directory rest)

def writeTo (s : FileSet) (directory : String) : ExceptT AccessError m (List String) := do
  guardAccess directory (makeDirectories directory)
  writeFiles directory s.files

end FileSet

end KindTable
