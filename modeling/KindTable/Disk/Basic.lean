import KindTable.Disk.Access
import KindTable.Text.Split

namespace KindTable

inductive Content where
  | bytes (data : ByteArray)
  | zeros (count : Nat)

namespace Content

def ofText (text : String) : Content := bytes text.toUTF8

def size : Content → Nat
  | bytes data => data.size
  | zeros count => count

def text? : Content → Option String
  | bytes data => String.fromUTF8? data
  | zeros count => some ("".pushn '\x00' count)

theorem text?_ofText (text : String) : (ofText text).text? = some text := by
  simp only [ofText, text?, String.fromUTF8?, String.toUTF8_eq_toByteArray, dif_pos text.isValidUTF8]
  rfl

end Content

abbrev Location := List String

inductive DiskNode where
  | file (content : Content)
  | directory

/-- Files and directories by their places below the root. The working directory is there, and so are those above it. -/
structure Disk where
  workingDirectory : Location
  nodes : List (Location × DiskNode)

namespace Disk

def node? (d : Disk) (p : Location) : Option DiskNode :=
  if p.isPrefixOf d.workingDirectory then some .directory else d.nodes.lookup p

def put (d : Disk) (p : Location) (n : DiskNode) : Disk :=
  { d with nodes := (p, n) :: d.nodes.filter (·.1 != p) }

inductive Target where
  | directory (place : Location)
  | entry (place : Location)
  deriving DecidableEq, Repr

def longestName : Nat := 255

def longestPath : Nat := 4095

def walk (d : Disk) (here : Location) : List String → Except DiskFault Target
  | [] => .ok (.directory here)
  | name :: rest =>
    if name = "" || name = "." then walk d here rest
    else if name = ".." then walk d here.dropLast rest
    else if longestName < name.utf8ByteSize then .error .nameTooLong
    else if rest.isEmpty then .ok (.entry (here ++ [name]))
    else
      match d.node? (here ++ [name]) with
      | none => .error .missing
      | some (.file _) => .error .notDirectory
      | some .directory => walk d (here ++ [name]) rest

def pathNames (path : String) : List String := (splitAt '/' path.toList).map .ofList

def isRooted (path : String) : Bool := path.toList.head? == some '/'

def pathFault? (path : String) : Option DiskFault :=
  if path.toList.contains '\x00' then some (.other "file name contained an unexpected NUL byte")
  else if longestPath < path.utf8ByteSize then some .nameTooLong
  else none

def startOf (d : Disk) (path : String) : Location := if isRooted path then [] else d.workingDirectory

def locate (d : Disk) (path : String) : Except DiskFault Target :=
  match pathFault? path with
  | some fault => .error fault
  | none => if path.isEmpty then .error .missing else d.walk (d.startOf path) (pathNames path)

def find (d : Disk) (path : String) : Except DiskFault DiskNode := do
  match ← d.locate path with
  | .directory _ => return .directory
  | .entry place =>
    match d.node? place with
    | none => throw .missing
    | some n => return n

def size (d : Disk) (path : String) : Except DiskFault Nat := do
  match ← d.find path with
  | .directory => return 0
  | .file content => return content.size

def read (d : Disk) (path : String) : Except DiskFault String := do
  match ← d.find path with
  | .directory => throw .isDirectory
  | .file content =>
    match content.text? with
    | some text => return text
    | none => throw .notText

theorem read_of_find {d : Disk} {path text : String} (h : d.find path = .ok (.file (.ofText text))) :
    d.read path = .ok text := by
  rw [read, h]
  simp only [bind, Except.bind, Content.text?_ofText]
  rfl

theorem size_of_find {d : Disk} {path : String} {content : Content} (h : d.find path = .ok (.file content)) :
    d.size path = .ok content.size := by
  rw [size, h]
  rfl

def write (d : Disk) (path : String) (content : Content) : Except DiskFault Disk := do
  match ← d.locate path with
  | .directory _ => throw .isDirectory
  | .entry place =>
    match d.node? place with
    | some .directory => throw .isDirectory
    | _ => return d.put place (.file content)

def isDirectory (d : Disk) (path : String) : Bool :=
  match d.find path with
  | .ok .directory => true
  | _ => false

def trimmedNames (path : String) : List String := ((pathNames path).reverse.dropWhile (· == "")).reverse

def makeDirectory (d : Disk) (path : String) : Except DiskFault Disk := do
  if let some fault := pathFault? path then throw fault
  if path.isEmpty then throw .missing
  match ← d.walk (d.startOf path) (trimmedNames path) with
  | .directory _ => throw .taken
  | .entry place =>
    match d.node? place with
    | some _ => throw .taken
    | none => return d.put place .directory

def significantNames (path : String) : List String :=
  match pathNames path with
  | [] => []
  | first :: rest => (first :: rest.filter (· != ".")).filter (· != "")

def pathOfNames (names : List String) : String := "/".intercalate names

def orDirectory (d : Disk) (path : String) : Except DiskFault Disk → Except DiskFault Disk
  | .ok made => .ok made
  | .error fault => if d.isDirectory path then .ok d else .error fault

def rootNames (path : String) : List String := if isRooted path then [""] else []

def pathsAbove (path : String) : List String :=
  let names := significantNames path
  ((List.range names.length).tail.map fun count => pathOfNames (rootNames path ++ names.take count)).reverse

def makeTree (d : Disk) (path : String) : (above : List String) → Except DiskFault Unit × Disk
  | [] =>
    match d.orDirectory path (d.makeDirectory path) with
    | .ok made => (.ok (), made)
    | .error fault => (.error fault, d)
  | parent :: above =>
    match d.makeDirectory path with
    | .ok made => (.ok (), made)
    | .error .missing =>
      match d.makeTree parent above with
      | (.error fault, made) => (.error fault, made)
      | (.ok (), made) =>
        match made.orDirectory path (made.makeDirectory path) with
        | .ok final => (.ok (), final)
        | .error fault => (.error fault, made)
    | .error fault => if d.isDirectory path then (.ok (), d) else (.error fault, d)

def makeDirectories (d : Disk) (path : String) : Except DiskFault Unit × Disk :=
  if path.isEmpty then (.ok (), d) else d.makeTree path (pathsAbove path)

end Disk

instance : FileAccess (StateM Disk) where
  fileSize path := do return (← get).size path
  readText path := do return (← get).read path
  makeDirectories path := modifyGet (·.makeDirectories path)
  writeText path text := do
    match (← get).write path (.ofText text) with
    | .ok d =>
      set d
      return .ok ()
    | .error fault => return .error fault

end KindTable
