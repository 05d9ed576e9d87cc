namespace KindTable.Decimal

structure Binary where
  significand : Nat
  exponent : Int
  isNarrowBelow : Bool
  deriving DecidableEq, Repr

namespace Binary

def hiddenBit : Nat := 1 <<< 52

def ofBits (bits : Nat) : Binary :=
  let fraction := bits % hiddenBit
  let biased := bits / hiddenBit % 2048
  if biased = 0 then ⟨fraction, -1074, false⟩
  else ⟨hiddenBit + fraction, (biased : Int) - 1075, fraction == 0 && biased != 1⟩

def step (b : Binary) : Rat := (2 : Rat) ^ b.exponent

def value (b : Binary) : Rat := b.significand * b.step

def lower (b : Binary) : Rat := b.value - b.step / (if b.isNarrowBelow then 4 else 2)

def upper (b : Binary) : Rat := b.value + b.step / 2

def isNearest (b : Binary) (x : Rat) : Bool :=
  if b.significand % 2 = 0 then b.lower ≤ x && x ≤ b.upper else b.lower < x && x < b.upper

end Binary

structure Scaled where
  digits : Nat
  exponent : Int
  deriving DecidableEq, Repr

def Scaled.value (s : Scaled) : Rat := s.digits * (10 : Rat) ^ s.exponent

def magnitude (x : Rat) : Int :=
  if 1 ≤ x then (Nat.toDigits 10 x.floor.toNat).length - 1
  else
    match (List.range 330).find? fun k => 1 ≤ x * (10 : Rat) ^ (k + 1) with
    | some k => -(k + 1 : Int)
    | none => -330

def closest (b : Binary) (low high : Scaled) : Option Scaled :=
  match b.isNearest low.value, b.isNearest high.value with
  | false, false => none
  | true, false => some low
  | false, true => some high
  | true, true =>
    let below := b.value - low.value
    let above := high.value - b.value
    if below < above then some low
    else if above < below then some high
    else if low.digits % 2 = 0 then some low else some high

def withDigits (b : Binary) (count : Nat) : Option Scaled :=
  let exponent := magnitude b.value - count
  let low := (b.value / (10 : Rat) ^ exponent).floor.toNat
  closest b ⟨low, exponent⟩ ⟨low + 1, exponent⟩

def shortest (b : Binary) : Scaled := ((List.range 17).findSome? (withDigits b)).getD ⟨b.significand, 0⟩

def trimZeros (digits : List Char) : List Char := (digits.reverse.dropWhile (· == '0')).reverse

def zeros (count : Nat) : List Char := List.replicate count '0'

def positional (digits : List Char) (exponent : Int) : List Char :=
  if exponent < 0 then '0' :: '.' :: zeros (-exponent - 1).toNat ++ digits
  else
    let whole := exponent.toNat + 1
    digits.take whole ++ zeros (whole - digits.length) ++ '.' ::
      (if digits.length ≤ whole then ['0'] else digits.drop whole)

def exponential (digits : List Char) (exponent : Int) : List Char :=
  digits.take 1 ++ (if digits.length ≤ 1 then [] else '.' :: digits.drop 1) ++
    'e' :: (if exponent < 0 then '-' else '+') :: Nat.toDigits 10 exponent.natAbs

def textOfScaled (s : Scaled) : String :=
  let all := Nat.toDigits 10 s.digits
  let exponent := s.exponent + all.length - 1
  let digits := trimZeros all
  .ofList (if -5 ≤ exponent ∧ exponent ≤ 15 then positional digits exponent else exponential digits exponent)

def textOfBits (bits : Nat) : String :=
  let b := Binary.ofBits bits
  let magnitude := if b.significand = 0 then "0.0" else textOfScaled (shortest b)
  if bits.testBit 63 then "-" ++ magnitude else magnitude

end KindTable.Decimal
