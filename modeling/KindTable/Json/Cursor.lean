import KindTable.Json.Fault

namespace KindTable

structure JsonCursor where
  offset : Nat
  rest : List Char
  deriving DecidableEq, Repr

namespace JsonCursor

def start (source : String) : JsonCursor := ⟨0, source.toList⟩

def head? (c : JsonCursor) : Option Char := c.rest.head?

def next (c : JsonCursor) : JsonCursor :=
  match c.rest with
  | [] => c
  | char :: rest => ⟨c.offset + char.utf8Size, rest⟩

def here (c : JsonCursor) (fault : JsonFault) : JsonError := ⟨fault, c.offset⟩

def ahead (c : JsonCursor) (fault : JsonFault) : JsonError :=
  ⟨fault, if c.rest.isEmpty then c.offset else c.offset + 1⟩

def isJsonBlank (c : Char) : Bool := c == ' ' || c == '\n' || c == '\t' || c == '\r'

def skipBlanks (c : JsonCursor) : JsonCursor :=
  let skipped := c.rest.takeWhile isJsonBlank
  ⟨c.offset + skipped.length, c.rest.dropWhile isJsonBlank⟩

theorem length_rest_skipBlanks (c : JsonCursor) : c.skipBlanks.rest.length ≤ c.rest.length := by
  simp only [skipBlanks]
  exact (List.dropWhile_suffix isJsonBlank).length_le

theorem length_rest_next {c : JsonCursor} (h : c.rest ≠ []) : c.next.rest.length < c.rest.length := by
  cases hrest : c.rest with
  | nil => contradiction
  | cons char rest => simp [next, hrest]

end JsonCursor

end KindTable
