import KindTable.Text.Split

namespace KindTable.Unicode

structure Ranges where
  bounds : Array (Nat × Nat)

def hexValue (c : Char) : Nat :=
  if c.isDigit then c.toNat - '0'.toNat else c.toNat - 'a'.toNat + 10

def readHex (digits : List Char) : Nat := digits.foldl (fun n c => 16 * n + hexValue c) 0

namespace Ranges

def ofText (lines : List String) : Ranges :=
  ⟨((lines.flatMap fun line => splitAt ' ' line.toList).map fun word =>
    match splitAt '-' word with
    | [first, last] => (readHex first, readHex last)
    | _ => (readHex word, readHex word)).toArray⟩

def search (bounds : Array (Nat × Nat)) (point low high : Nat) : Option (Nat × Nat) :=
  if low < high then
    let middle := (low + high) / 2
    match bounds[middle]? with
    | none => none
    | some (first, last) =>
      if point < first then search bounds point low middle
      else if last < point then search bounds point (middle + 1) high
      else some (first, last)
  else none
termination_by high - low

def contains (r : Ranges) (c : Char) : Bool := (search r.bounds c.toNat 0 r.bounds.size).isSome

end Ranges

end KindTable.Unicode
