import KindTable.Bundled
import KindTable.CommandLine.Invocation
import KindTable.Drift
import KindTable.Gates.Resolve
import KindTable.Listing
import KindTable.Report.Render

namespace KindTable

inductive CommandError where
  | tableOutOfReach (path : String) (fault : DiskFault)
  | tableTooLarge (path : String) (size : Nat)
  | tableUnreadable (path : String) (fault : DiskFault)
  | gates (fault : GateFault)
  | generation (error : GenerationError)
  | access (error : AccessError)
  | outOfDate (drifted total : Nat)
  deriving DecidableEq, Repr

def largestTable : Nat := 16 * 1024 * 1024

namespace CommandError

def message : CommandError → String
  | tableOutOfReach path fault => "Cannot access table '" ++ path ++ "': " ++ fault.message
  | tableTooLarge path size =>
    "Table '" ++ path ++ "' is too large (" ++ toString size ++ " bytes, max " ++ toString largestTable ++ " bytes)"
  | tableUnreadable path fault => "Error reading table '" ++ path ++ "': " ++ fault.message
  | gates fault => errorLine fault.message
  | generation error => error.render
  | access error => errorLine error.message
  | outOfDate drifted total =>
    "\n" ++ toString drifted ++ " of " ++ toString total ++
      " file(s) out of date; rerun without --check to regenerate"

end CommandError

structure TableSource where
  origin : String
  source : String
  defaults : GateSet

def TableSource.bundled : TableSource := ⟨Bundled.origin, Bundled.source, Bundled.defaults⟩

structure Outcome where
  printed : String
  failure : Option CommandError
  deriving DecidableEq, Repr

namespace Outcome

def succeeded (printed : String) : Outcome := ⟨printed, none⟩

def failed (error : CommandError) : Outcome := ⟨"", some error⟩

def exitCode (o : Outcome) : Nat := if o.failure.isSome then 1 else 0

end Outcome

variable {m : Type → Type} [Monad m] [FileAccess m]

def readTable (path : String) : ExceptT CommandError m TableSource :=
  ExceptT.mk do
    match ← fileSize path with
    | .error fault => return .error (.tableOutOfReach path fault)
    | .ok size =>
      if largestTable < size then return .error (.tableTooLarge path size)
      else
        match ← readText path with
        | .error fault => return .error (.tableUnreadable path fault)
        | .ok source => return .ok ⟨path, source, .empty⟩

namespace TableArguments

def source (a : TableArguments) : ExceptT CommandError m TableSource :=
  match a.table with
  | some path => readTable path
  | none => pure .bundled

def gates (a : TableArguments) (t : TableSource) : ExceptT CommandError m GateSet :=
  (resolveGates t.defaults a.gatesFile a.settings).adapt .gates

def prepare (a : TableArguments) : ExceptT CommandError m (TableSource × Config) := do
  let t ← a.source
  let gates ← a.gates t
  return (t, { Config.standard with gates := gates, fallback := a.fallback })

end TableArguments

def liftGeneration {α : Type} (result : Except GenerationError α) : ExceptT CommandError m α :=
  ExceptT.mk (pure (result.mapError .generation))

def driftText (options : GenerateArguments) (d : Drift) : String :=
  let path := joinPath options.directory d.file
  if d.isMissing then "Missing: " ++ path ++ "\n"
  else
    "Out of date: " ++ path ++ "\n" ++
      (if options.diff then "--- " ++ path ++ "\n" ++ d.diff ++ "\n" else "")

def checkOutcome (options : GenerateArguments) (files : FileSet) (drifts : List Drift) : Outcome :=
  if drifts.isEmpty then .succeeded ("✓ " ++ toString files.size ++ " file(s) up to date\n")
  else ⟨.join (drifts.map (driftText options)), some (.outOfDate drifts.length files.size)⟩

def writtenText (files : FileSet) (written : List String) : String :=
  .join (written.map fun path => "Generated: " ++ path ++ "\n") ++
    "\n✓ " ++ toString written.length ++ " file(s) written, " ++ toString (files.size - written.length) ++
      " unchanged\n"

def slotPolicy (options : GenerateArguments) : SlotPolicy := if options.reserveSlots then .reserve else .compact

def GenerateArguments.adjust (options : GenerateArguments) (c : Config) : Config :=
  Config.withOutputs { c with policy := slotPolicy options } options.outputs

def GenerateArguments.onlyChecks (options : GenerateArguments) : Bool := options.check || options.diff

def runGenerate (a : TableArguments) (options : GenerateArguments) : ExceptT CommandError m Outcome := do
  let (t, config) ← a.prepare
  let files ← liftGeneration ((options.adjust config).generate t.origin t.source)
  if options.onlyChecks then
    return checkOutcome options files (← (files.driftFrom options.directory).adapt .access)
  else
    return .succeeded (writtenText files (← (files.writeTo options.directory).adapt .access))

def runList (a : TableArguments) : ExceptT CommandError m Outcome := do
  let (t, config) ← a.prepare
  let loaded ← liftGeneration (config.load t.origin t.source)
  let selection ← liftGeneration (config.select loaded.registry)
  return .succeeded selection.listing

def runCheck (a : TableArguments) : ExceptT CommandError m Outcome := do
  let (t, config) ← a.prepare
  let loaded ← liftGeneration (config.load t.origin t.source)
  let selection ← liftGeneration (config.select loaded.registry)
  let _ ← liftGeneration (config.emit selection)
  return .succeeded ("✓ " ++ t.origin ++ ": " ++ toString loaded.registry.size ++ " declared, " ++
    toString selection.size ++ " active\n")

def Invocation.run : Invocation → ExceptT CommandError m Outcome
  | generate a options => runGenerate a options
  | list a => runList a
  | check a => runCheck a

def Invocation.execute (i : Invocation) : m Outcome := do
  match ← i.run.run with
  | .ok outcome => return outcome
  | .error error => return .failed error

end KindTable
