import KindTable.Layout
import KindTable.Text.Quoted
import KindTable.Text.Split

namespace KindTable

def dropTrailingBlanks (line : List Char) : List Char := (line.reverse.dropWhile (· == ' ')).reverse

def trimLineEnds : List (List Char) → List (List Char)
  | [] => []
  | [last] => [last]
  | line :: rest => dropTrailingBlanks line :: trimLineEnds rest

def closesComments : (depth : Nat) → List Char → Bool
  | depth, [] => depth == 0
  | depth, '/' :: '*' :: rest => closesComments (depth + 1) rest
  | depth, '*' :: '/' :: rest => depth != 0 && closesComments (depth - 1) rest
  | depth, _ :: rest => closesComments depth rest

def fitsBlockComment (doc : List Char) : Bool :=
  closesComments 0 doc && doc.getLast? != some '/' && doc.head? != some '*' && doc.head? != some '/'

def docComment (doc : String) : String :=
  let text := doc.toList
  if !text.contains '\n' && text.head? != some '/' then "///" ++ .ofList (dropTrailingBlanks text)
  else if fitsBlockComment text then
    "/**" ++ .ofList (List.intercalate ['\n'] (trimLineEnds (splitAt '\n' text))) ++ "*/"
  else "#[doc = " ++ stringLiteral doc ++ "]"

end KindTable
