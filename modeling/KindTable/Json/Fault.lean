import KindTable.Source.Span
import KindTable.Text.Quoted

namespace KindTable

inductive JsonFound where
  | null
  | boolean (value : Bool)
  | integer (value : Int)
  | float (written : String)
  | text (value : String)
  | sequence
  | map
  deriving DecidableEq, Repr

def JsonFound.describe : JsonFound → String
  | null => "null"
  | boolean value => "boolean `" ++ (if value then "true" else "false") ++ "`"
  | integer value => "integer `" ++ toString value ++ "`"
  | float written => "floating point `" ++ written ++ "`"
  | text value => "string " ++ quote value
  | sequence => "sequence"
  | map => "map"

inductive JsonFault where
  | endOfObject
  | endOfString
  | endOfValue
  | missingColon
  | missingComma
  | unknownWord
  | missingValue
  | badEscape
  | badNumber
  | numberOutOfRange
  | controlCharacter
  | keyNotText
  | loneSurrogate
  | trailingComma
  | trailingText
  | brokenPair
  | unexpected (found : JsonFound) (expected : String)
  deriving DecidableEq, Repr

def JsonFault.describe : JsonFault → String
  | endOfObject => "EOF while parsing an object"
  | endOfString => "EOF while parsing a string"
  | endOfValue => "EOF while parsing a value"
  | missingColon => "expected `:`"
  | missingComma => "expected `,` or `\x7d`"
  | unknownWord => "expected ident"
  | missingValue => "expected value"
  | badEscape => "invalid escape"
  | badNumber => "invalid number"
  | numberOutOfRange => "number out of range"
  | controlCharacter => "control character (\\u0000-\\u001F) found while parsing a string"
  | keyNotText => "key must be a string"
  | loneSurrogate => "lone leading surrogate in hex escape"
  | trailingComma => "trailing comma"
  | trailingText => "trailing characters"
  | brokenPair => "unexpected end of hex escape"
  | unexpected found expected => "invalid type: " ++ found.describe ++ ", expected " ++ expected

structure JsonError where
  fault : JsonFault
  offset : Nat
  deriving DecidableEq, Repr

structure JsonDefect where
  fault : JsonFault
  line : Nat
  column : Nat
  deriving DecidableEq, Repr

def JsonDefect.message (d : JsonDefect) : String :=
  d.fault.describe ++ " at line " ++ toString d.line ++ " column " ++ toString d.column

def advancePlace (line column bytes : Nat) : List Char → Nat × Nat
  | [] => (line, column)
  | c :: rest =>
    if bytes = 0 then (line, column)
    else if c = '\n' then advancePlace (line + 1) 0 (bytes - 1) rest
    else if bytes < c.utf8Size then (line, column + bytes)
    else advancePlace line (column + c.utf8Size) (bytes - c.utf8Size) rest

def JsonError.locate (e : JsonError) (source : String) : JsonDefect :=
  let (line, column) := advancePlace 1 0 e.offset source.toList
  ⟨e.fault, line, column⟩

end KindTable
