import KindTable.CommandLine.Arguments
import KindTable.CommandLine.Execute

namespace KindTable

def faultOfError : IO.Error → DiskFault
  | .noFileOrDirectory _ _ _ => .missing
  | .alreadyExists _ _ _ => .taken
  | .inappropriateType _ number _ => if number = 20 then .notDirectory else .isDirectory
  | e => .other (toString e)

def attempt {α : Type} (access : IO α) : IO (Except DiskFault α) := do
  match ← access.toBaseIO with
  | .ok a => return .ok a
  | .error e => return .error (faultOfError e)

def readBytes (path : String) : IO (Except DiskFault ByteArray) := attempt (IO.FS.readBinFile ⟨path⟩)

instance : FileAccess IO where
  fileSize path := do
    match ← readBytes path with
    | .ok data => return .ok data.size
    | .error .isDirectory => return .ok 0
    | .error fault => return .error fault
  readText path := do
    match ← readBytes path with
    | .error fault => return .error fault
    | .ok data =>
      match String.fromUTF8? data with
      | some text => return .ok text
      | none => return .error .notText
  makeDirectories path := attempt (IO.FS.createDirAll ⟨path⟩)
  writeText path text := attempt (IO.FS.writeFile ⟨path⟩ text)

def usageText : String :=
  "usage: nodekind generate [TABLE] --out DIR [--reserve-slots] [--only OUTPUTS] [--check] [--diff]\n" ++
    "       nodekind list [TABLE]\n       nodekind check [TABLE]\n" ++
    "every command takes --gate NAME=VALUE, --gates FILE and --soft-fallback include|exclude"

def explain : UsageError → IO Unit
  | .helpRequested => IO.println usageText
  | .versionRequested => IO.println generator
  | _ => IO.eprintln usageText

end KindTable

open KindTable

def main (arguments : List String) : IO UInt32 := do
  match parseArguments arguments with
  | .error error =>
    explain error
    return error.exitCode.toUInt32
  | .ok invocation =>
    let outcome : Outcome ← invocation.execute
    IO.print outcome.printed
    if let some error := outcome.failure then IO.eprintln error.message
    return outcome.exitCode.toUInt32
