import KindTable.Text.Pad
import KindTable.Text.Split

namespace KindTable

inductive DiffLine where
  | old (number : Nat) (text : String)
  | new (number : Nat) (text : String)
  deriving DecidableEq, Repr

def DiffLine.text : DiffLine → String
  | old number text => "-" ++ padLeft 4 (toString number) ++ " | " ++ text
  | new number text => "+" ++ padLeft 4 (toString number) ++ " | " ++ text

def diffLines (number : Nat) : List String → List String → List DiffLine
  | [], [] => []
  | a :: as, [] => .old number a :: diffLines (number + 1) as []
  | [], b :: bs => .new number b :: diffLines (number + 1) [] bs
  | a :: as, b :: bs =>
    if a = b then diffLines (number + 1) as bs
    else .old number a :: .new number b :: diffLines (number + 1) as bs

def lineDiff (old new : String) : String :=
  joinLines ((diffLines 1 (textLines old) (textLines new)).map DiffLine.text)

end KindTable
