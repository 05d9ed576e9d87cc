import KindTable.Text.Pad

namespace KindTable

inductive JsonValue where
  | boolean (value : Bool)
  | number (value : Nat)
  | text (value : String)
  | array (items : List JsonValue)
  | object (fields : List (String × JsonValue))

namespace JsonValue

def hexDigit (n : Nat) : Char := Nat.digitChar n

def escape (c : Char) : String :=
  if c = '"' then "\\\""
  else if c = '\\' then "\\\\"
  else if c = '\n' then "\\n"
  else if c = '\r' then "\\r"
  else if c = '\t' then "\\t"
  else if c = '\x08' then "\\b"
  else if c = '\x0c' then "\\f"
  else if c.toNat < 0x20 then "\\u00" ++ .ofList [hexDigit (c.toNat / 16), hexDigit (c.toNat % 16)]
  else c.toString

def quoted (text : String) : String := "\"" ++ .join (text.toList.map escape) ++ "\""

def lineAt (depth : Nat) : String := "\n" ++ blanks (2 * depth)

mutual

def prettyAt (depth : Nat) : JsonValue → String
  | boolean value => if value then "true" else "false"
  | number value => toString value
  | text value => quoted value
  | array [] => "[]"
  | array (item :: items) =>
    "[" ++ lineAt (depth + 1) ++ prettyAt (depth + 1) item ++ prettyItems (depth + 1) items ++ lineAt depth ++ "]"
  | object [] => "\x7b\x7d"
  | object ((name, value) :: fields) =>
    "\x7b" ++ lineAt (depth + 1) ++ quoted name ++ ": " ++ prettyAt (depth + 1) value ++
      prettyFields (depth + 1) fields ++ lineAt depth ++ "\x7d"

def prettyItems (depth : Nat) : List JsonValue → String
  | [] => ""
  | item :: items => "," ++ lineAt depth ++ prettyAt depth item ++ prettyItems depth items

def prettyFields (depth : Nat) : List (String × JsonValue) → String
  | [] => ""
  | (name, value) :: fields =>
    "," ++ lineAt depth ++ quoted name ++ ": " ++ prettyAt depth value ++ prettyFields depth fields

end

def pretty (v : JsonValue) : String := v.prettyAt 0

end JsonValue

end KindTable
