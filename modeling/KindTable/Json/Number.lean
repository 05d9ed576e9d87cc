import KindTable.Decimal.Shortest
import KindTable.Json.Cursor

namespace KindTable

inductive JsonNumber where
  | integer (value : Int)
  | double (value : Float)

def JsonNumber.found : JsonNumber → JsonFound
  | integer value => .integer value
  | double value => .float (Decimal.textOfBits value.toBits.toNat)

namespace JsonCursor

def largestWord : Nat := 0xffffffffffffffff

def appendDigits (number : Nat) : List Char → Nat × Nat
  | [] => (number, 0)
  | d :: rest =>
    let longer := 10 * number + (d.toNat - '0'.toNat)
    if largestWord < longer then (number, 0)
    else
      let (final, taken) := appendDigits longer rest
      (final, taken + 1)

def digits (c : JsonCursor) : List Char := c.rest.takeWhile Char.isDigit

def skip (c : JsonCursor) (count : Nat) : JsonCursor := ⟨c.offset + count, c.rest.drop count⟩

def powerOfTen (exponent : Nat) : Float := Float.ofScientific 1 false exponent

def scaleDown (f : Float) (exponent : Nat) : Float :=
  if exponent ≤ 308 then f / powerOfTen exponent
  else if f == 0 then f
  else scaleDown (f / powerOfTen 308) (exponent - 308)
termination_by exponent

def scaleUp? (f : Float) (exponent : Nat) : Option Float :=
  if exponent ≤ 308 then
    let scaled := f * powerOfTen exponent
    if scaled.isInf then none else some scaled
  else if f == 0 then some f
  else none

def signed (isNegative : Bool) (f : Float) : Float := if isNegative then -f else f

def scaled? (isNegative : Bool) (significand : Nat) (exponent : Int) : Option Float :=
  let f := (UInt64.ofNat significand).toFloat
  (if exponent < 0 then some (scaleDown f exponent.natAbs) else scaleUp? f exponent.natAbs).map (signed isNegative)

def makeDouble (isNegative : Bool) (significand : Nat) (exponent : Int) (c : JsonCursor) :
    Except JsonError (JsonNumber × JsonCursor) :=
  match scaled? isNegative significand exponent with
  | some f => .ok (.double f, c)
  | none => .error (c.here .numberOutOfRange)

def largestExponent : Nat := 0x7fffffff

def exponentOverflow? (number taken : Nat) : List Char → Option Nat
  | [] => none
  | d :: rest =>
    let longer := 10 * number + (d.toNat - '0'.toNat)
    if largestExponent < longer then some (taken + 1) else exponentOverflow? longer (taken + 1) rest

def readExponent (isNegative : Bool) (significand : Nat) (exponent : Int) (c : JsonCursor) :
    Except JsonError (JsonNumber × JsonCursor) :=
  let isSign := c.head? == some '+' || c.head? == some '-'
  let isDown := c.head? == some '-'
  let c := if isSign then c.next else c
  let ds := c.digits
  if c.rest.isEmpty then .error (c.here .endOfValue)
  else if ds.isEmpty then .error (c.ahead .badNumber)
  else
    let after := c.skip ds.length
    match exponentOverflow? 0 0 ds with
    | some taken =>
      if significand != 0 && !isDown then .error ((c.skip taken).here .numberOutOfRange)
      else .ok (.double (signed isNegative 0), after)
    | none =>
      let shift : Int := (appendDigits 0 ds).1
      after.makeDouble isNegative significand (if isDown then exponent - shift else exponent + shift)

def isExponentMark (char : Option Char) : Bool := char == some 'e' || char == some 'E'

def readFraction (isNegative : Bool) (significand : Nat) (exponent : Nat) (c : JsonCursor) :
    Except JsonError (JsonNumber × JsonCursor) :=
  let ds := c.digits
  if ds.isEmpty then .error (c.ahead (if c.rest.isEmpty then .endOfValue else .badNumber))
  else
    let (significand, taken) := appendDigits significand ds
    let after := c.skip ds.length
    let exponent : Int := exponent - taken
    if isExponentMark after.head? then after.next.readExponent isNegative significand exponent
    else after.makeDouble isNegative significand exponent

def wholeNumber (isNegative : Bool) (value : Nat) : JsonNumber :=
  if !isNegative then .integer value
  else if value = 0 || 1 <<< 63 < value then .double (signed true (UInt64.ofNat value).toFloat)
  else .integer (-value)

def readNumber (isNegative : Bool) (c : JsonCursor) : Except JsonError (JsonNumber × JsonCursor) :=
  let ds := c.digits
  if c.rest.isEmpty then .error (c.here .endOfValue)
  else if ds.isEmpty then .error (c.ahead .badNumber)
  else if ds.head? == some '0' && ds.length != 1 then .error (c.next.ahead .badNumber)
  else
    let (significand, taken) := appendDigits 0 ds
    let dropped := ds.length - taken
    let after := c.skip ds.length
    if after.head? == some '.' then after.next.readFraction isNegative significand dropped
    else if isExponentMark after.head? then after.next.readExponent isNegative significand dropped
    else if dropped = 0 then .ok (wholeNumber isNegative significand, after)
    else after.makeDouble isNegative significand dropped

end JsonCursor

end KindTable
