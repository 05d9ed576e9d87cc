import KindTable.Json.Booleans
import KindTable.Json.Value
import KindTable.Text.Numeral

namespace KindTable

namespace JsonReader

def skipBlanks (text : List Char) : List Char := text.dropWhile JsonCursor.isJsonBlank

def readWord (word text : List Char) : Option (List Char) :=
  ((JsonCursor.mk 0 text).readWord word).toOption.map (·.rest)

def readString (text : List Char) : Option (String × List Char) :=
  (JsonCursor.mk 0 text).readText.toOption.map fun r => (r.1, r.2.rest)

def readColon (text : List Char) : Option (List Char) :=
  match skipBlanks text with
  | ':' :: after => some after
  | _ => none

def readName (text : List Char) : Option (String × List Char) :=
  match skipBlanks text with
  | '"' :: rest => do
    let (name, after) ← readString rest
    return (name, ← readColon after)
  | _ => none

mutual

-- Every call stands behind a character of its own, so the length of the text is fuel enough.
def readValue : Nat → List Char → Option (JsonValue × List Char)
  | 0, _ => none
  | fuel + 1, text =>
    match skipBlanks text with
    | [] => none
    | c :: rest =>
      if c.isDigit then
        let (value, after) := readNumeral (c :: rest)
        some (.number value, after)
      else
        match c with
        | '"' => (readString rest).map fun r => (.text r.1, r.2)
        | '[' =>
          match skipBlanks rest with
          | ']' :: after => some (.array [], after)
          | _ => (readItems fuel (',' :: rest)).map fun r => (.array r.1, r.2)
        | '\x7b' =>
          match skipBlanks rest with
          | '\x7d' :: after => some (.object [], after)
          | _ => (readFields fuel (',' :: rest)).map fun r => (.object r.1, r.2)
        | 't' => (readWord ['r', 'u', 'e'] rest).map (.boolean true, ·)
        | 'f' => (readWord ['a', 'l', 's', 'e'] rest).map (.boolean false, ·)
        | _ => none

def readItems : Nat → List Char → Option (List JsonValue × List Char)
  | 0, _ => none
  | fuel + 1, text =>
    match skipBlanks text with
    | ']' :: after => some ([], after)
    | ',' :: rest => do
      let (item, after) ← readValue fuel rest
      let (items, after) ← readItems fuel after
      return (item :: items, after)
    | _ => none

def readFields : Nat → List Char → Option (List (String × JsonValue) × List Char)
  | 0, _ => none
  | fuel + 1, text =>
    match skipBlanks text with
    | '\x7d' :: after => some ([], after)
    | ',' :: rest => do
      let (name, after) ← readName rest
      let (value, after) ← readValue fuel after
      let (fields, after) ← readFields fuel after
      return ((name, value) :: fields, after)
    | _ => none

end

end JsonReader

namespace JsonValue

open JsonReader in
def read? (text : String) : Option JsonValue := do
  let (value, after) ← readValue text.length text.toList
  if (skipBlanks after).isEmpty then some value else none

def member? (name : String) : JsonValue → Option JsonValue
  | .object fields => fields.lookup name
  | _ => none

def asBoolean? : JsonValue → Option Bool
  | .boolean value => some value
  | _ => none

def asNumber? : JsonValue → Option Nat
  | .number value => some value
  | _ => none

def asText? : JsonValue → Option String
  | .text value => some value
  | _ => none

def asItems? : JsonValue → Option (List JsonValue)
  | .array items => some items
  | _ => none

def asFields? : JsonValue → Option (List (String × JsonValue))
  | .object fields => some fields
  | _ => none

end JsonValue

end KindTable
