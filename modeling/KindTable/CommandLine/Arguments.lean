import KindTable.CommandLine.Invocation
import KindTable.Text.Split

namespace KindTable

inductive Command where
  | generate
  | list
  | check
  deriving DecidableEq, Repr

def Command.ofName? : String → Option Command
  | "generate" => some generate
  | "list" => some list
  | "check" => some check
  | _ => none

inductive Parameter where
  | setting
  | gatesFile
  | fallback
  | directory
  | outputs
  deriving DecidableEq, Repr

inductive Switch where
  | reserveSlots
  | check
  | diff
  | help
  deriving DecidableEq, Repr

def parameter? (command : Command) : String → Option Parameter
  | "gate" => some .setting
  | "gates" => some .gatesFile
  | "soft-fallback" => some .fallback
  | "out" => if command = .generate then some .directory else none
  | "only" => if command = .generate then some .outputs else none
  | _ => none

def switch? (command : Command) : String → Option Switch
  | "help" => some .help
  | "reserve-slots" => if command = .generate then some .reserveSlots else none
  | "check" => if command = .generate then some .check else none
  | "diff" => if command = .generate then some .diff else none
  | _ => none

inductive Pending where
  | parameter (parameter : Parameter) (value : Option String)
  | table (value : String)
  deriving DecidableEq, Repr

structure Gathered where
  table : Option String
  settings : List String
  gatesFile : Option String
  fallback : Option SoftFallback
  directory : Option String
  outputs : List Output
  switches : List Switch
  deriving DecidableEq, Repr

namespace Gathered

def empty : Gathered := ⟨none, [], none, none, none, [], []⟩

def path (value : String) : Except UsageError String :=
  if value.isEmpty then .error .invalidValue else .ok value

def fallbackOf : String → Except UsageError SoftFallback
  | "include" => .ok .keep
  | "exclude" => .ok .drop
  | _ => .error .invalidValue

def outputsOf (value : String) : Except UsageError (List Output) :=
  (splitAt ',' value.toList).mapM fun word =>
    match Output.ofText? (.ofList word) with
    | some o => .ok o
    | none => .error .invalidValue

def once {α : Type} (known : Option α) : Except UsageError Unit :=
  if known.isSome then .error .repeatedArgument else .ok ()

def setParameter (g : Gathered) (value : String) : Parameter → Except UsageError Gathered
  | .setting => .ok { g with settings := g.settings ++ [value] }
  | .gatesFile => do
    once g.gatesFile
    return { g with gatesFile := some (← path value) }
  | .fallback => do
    once g.fallback
    return { g with fallback := some (← fallbackOf value) }
  | .directory => do
    once g.directory
    return { g with directory := some (← path value) }
  | .outputs => do return { g with outputs := g.outputs ++ (← outputsOf value) }

def settle (g : Gathered) : Option Pending → Except UsageError Gathered
  | none => .ok g
  | some (.parameter _ none) => .error .invalidValue
  | some (.parameter p (some value)) => g.setParameter value p
  | some (.table value) => do return { g with table := some (← path value) }

def setSwitch (g : Gathered) (s : Switch) : Except UsageError Gathered :=
  if s = .help then .error .helpRequested
  else if g.switches.contains s then .error .repeatedArgument
  else .ok { g with switches := g.switches ++ [s] }

def has (g : Gathered) (s : Switch) : Bool := g.switches.contains s

end Gathered

structure ArgumentReader where
  gathered : Gathered
  pending : Option Pending
  tableSeen : Bool
  onlyTables : Bool
  deriving DecidableEq, Repr

namespace ArgumentReader

def start : ArgumentReader := ⟨.empty, none, false, false⟩

def settle (r : ArgumentReader) : Except UsageError ArgumentReader := do
  return { r with gathered := ← r.gathered.settle r.pending, pending := none }

def splitLong (text : List Char) : String × Option String :=
  match text.dropWhile (· != '=') with
  | [] => (.ofList text, none)
  | _ :: value => (.ofList (text.takeWhile (· != '=')), some (.ofList value))

def readLong (command : Command) (text : List Char) (r : ArgumentReader) : Except UsageError ArgumentReader :=
  let (name, value) := splitLong text
  match parameter? command name with
  | some p => do
    let r ← r.settle
    match value with
    | some v => return { r with gathered := ← r.gathered.setParameter v p }
    | none => return { r with pending := some (.parameter p none) }
  | none =>
    match switch? command name with
    | none => .error .unknownArgument
    | some s =>
      if value.isSome then .error .unneededValue
      else do
        let r ← r.settle
        return { r with gathered := ← r.gathered.setSwitch s }

def readShort (first : Char) (r : ArgumentReader) : Except UsageError ArgumentReader :=
  if first = 'h' then do
    let r ← r.settle
    return { r with gathered := ← r.gathered.setSwitch .help }
  else .error .unknownArgument

def readTable (text : String) (r : ArgumentReader) : Except UsageError ArgumentReader :=
  if r.tableSeen then .error .unknownArgument
  else do
    let r ← r.settle
    return { r with pending := some (.table text), tableSeen := true }

def readPlain (text : String) (r : ArgumentReader) : Except UsageError ArgumentReader :=
  match r.pending with
  | some (.parameter p none) => .ok { r with pending := some (.parameter p (some text)) }
  | _ => r.readTable text

def read (command : Command) (r : ArgumentReader) (text : String) : Except UsageError ArgumentReader :=
  if r.onlyTables then r.readTable text
  else
    match text.toList with
    | ['-', '-'] => .ok { r with onlyTables := true }
    | '-' :: '-' :: rest => r.readLong command rest
    | '-' :: first :: _ => r.readShort first
    | _ => r.readPlain text

end ArgumentReader

namespace Gathered

def tableArguments (g : Gathered) : TableArguments :=
  ⟨g.table, g.settings, g.gatesFile, g.fallback.getD .drop⟩

def invocation (g : Gathered) : Command → Except UsageError Invocation
  | .list => .ok (.list g.tableArguments)
  | .check => .ok (.check g.tableArguments)
  | .generate =>
    match g.directory with
    | none => .error .missingArgument
    | some directory =>
      .ok (.generate g.tableArguments
        ⟨directory, g.has .reserveSlots, g.outputs, g.has .check, g.has .diff⟩)

end Gathered

def readCommand (command : Command) (arguments : List String) : Except UsageError Invocation := do
  let reader ← arguments.foldlM (ArgumentReader.read command) .start
  let reader ← reader.settle
  reader.gathered.invocation command

def isCommandName (text : String) : Bool := text == "help" || (Command.ofName? text).isSome

def readHelp : List String → UsageError
  | [] => .helpRequested
  | [name] => if isCommandName name then .helpRequested else .invalidCommand
  | _ :: _ :: _ => .invalidCommand

def readGlobalLong (text : List Char) : UsageError :=
  match ArgumentReader.splitLong text with
  | ("help", none) => .helpRequested
  | ("version", none) => .versionRequested
  | ("help", some _) => .unneededValue
  | ("version", some _) => .unneededValue
  | _ => .unknownArgument

def readGlobalShort : Char → UsageError
  | 'h' => .helpRequested
  | 'V' => .versionRequested
  | _ => .unknownArgument

def readAfterDashes : List String → UsageError
  | [] => .missingCommand
  | name :: _ => if isCommandName name then .unknownArgument else .invalidCommand

def parseArguments : List String → Except UsageError Invocation
  | [] => .error .missingCommand
  | first :: rest =>
    match Command.ofName? first with
    | some command => readCommand command rest
    | none =>
      if first = "help" then .error (readHelp rest)
      else
        match first.toList with
        | ['-', '-'] => .error (readAfterDashes rest)
        | '-' :: '-' :: text => .error (readGlobalLong text)
        | '-' :: short :: _ => .error (readGlobalShort short)
        | _ => .error .invalidCommand

end KindTable
