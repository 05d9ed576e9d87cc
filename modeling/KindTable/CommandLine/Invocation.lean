import KindTable.Config

namespace KindTable

inductive UsageError where
  | missingCommand
  | invalidCommand
  | missingArgument
  | unknownArgument
  | repeatedArgument
  | invalidValue
  | unneededValue
  | helpRequested
  | versionRequested
  deriving DecidableEq, Repr

def UsageError.exitCode : UsageError → Nat
  | helpRequested => 0
  | versionRequested => 0
  | _ => 2

structure TableArguments where
  table : Option String
  settings : List String
  gatesFile : Option String
  fallback : SoftFallback
  deriving DecidableEq, Repr

structure GenerateArguments where
  directory : String
  reserveSlots : Bool
  outputs : List Output
  check : Bool
  diff : Bool
  deriving DecidableEq, Repr

inductive Invocation where
  | generate (table : TableArguments) (options : GenerateArguments)
  | list (table : TableArguments)
  | check (table : TableArguments)
  deriving DecidableEq, Repr

end KindTable
