import KindTable.Unicode.Word
import KindTable.Unicode.Case

namespace KindTable

inductive WordCase where
  | uncased
  | lower
  | upper
  deriving DecidableEq, Repr

def WordCase.after (case : WordCase) (c : Char) : WordCase :=
  if Unicode.isLowercase c then .lower else if Unicode.isUppercase c then .upper else case

def wordsOfRun : (case : WordCase) → (word : List Char) → List Char → List (List Char)
  | _, word, [] => if word.isEmpty then [] else [word]
  | _, word, [c] => [word ++ [c]]
  | case, word, c :: next :: rest =>
    if case.after c = .lower && Unicode.isUppercase next then (word ++ [c]) :: wordsOfRun .uncased [] (next :: rest)
    else if case = .upper && Unicode.isUppercase c && Unicode.isLowercase next then
      word :: wordsOfRun .uncased [c] (next :: rest)
    else wordsOfRun (case.after c) (word ++ [c]) (next :: rest)

def alphanumericRuns (text : List Char) : List (List Char) :=
  (text.foldr
    (fun c runs =>
      match runs with
      | [] => [[c]]
      | run :: rest => if Unicode.isAlphanumeric c then (c :: run) :: rest else [] :: run :: rest)
    [[]])

def lowerWord : List Char → List Char
  | [] => []
  | ['Σ'] => ['ς']
  | c :: rest => Unicode.toLowercase c ++ lowerWord rest

def snakeCase (text : String) : String :=
  "_".intercalate (((alphanumericRuns text.toList).flatMap (wordsOfRun .uncased [])).map (.ofList ∘ lowerWord))

end KindTable
