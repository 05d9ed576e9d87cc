import KindTable.Unicode.Printable

namespace KindTable

def hexText (n : Nat) : String := .ofList (Nat.toDigits 16 n)

def isPrintable (c : Char) : Bool :=
  if c.toNat < 128 then 0x20 ≤ c.toNat && c.toNat < 0x7f else !Unicode.unprintable.contains c

def escapeChar (c : Char) : String :=
  if c = '\x00' then "\\0"
  else if c = '\t' then "\\t"
  else if c = '\n' then "\\n"
  else if c = '\r' then "\\r"
  else if c = '"' then "\\\""
  else if c = '\\' then "\\\\"
  else if isPrintable c then c.toString
  else "\\u\x7b" ++ hexText c.toNat ++ "\x7d"

def quote (text : String) : String := "\"" ++ .join (text.toList.map escapeChar) ++ "\""

def isOctalDigit (c : Char) : Bool := '0' ≤ c && c ≤ '7'

def escapeLiteral : List Char → String
  | [] => ""
  | ['\x00'] => "\\0"
  | '\x00' :: next :: rest =>
    (if isOctalDigit next then "\\x00" else "\\0") ++ escapeLiteral (next :: rest)
  | c :: rest => escapeChar c ++ escapeLiteral rest

def stringLiteral (text : String) : String := "\"" ++ escapeLiteral text.toList ++ "\""

end KindTable
