import KindTable.Source.Defect

namespace KindTable

inductive Lexeme where
  | token (token : Token)
  | stray (char : Char) (span : Span)
  deriving DecidableEq, Repr

def isLayout (c : Char) : Bool := c == ' ' || c == '\t' || c == '\r'

def lineEnd (occupied : Bool) (start stop : Nat) : List Lexeme :=
  if occupied then [.token ⟨.newline, ⟨start, stop⟩⟩] else []

theorem length_dropWhile_le {α : Type} (p : α → Bool) (xs : List α) :
    (xs.dropWhile p).length ≤ xs.length := by
  induction xs with
  | nil => simp
  | cons x xs ih =>
    rw [List.dropWhile_cons]
    split
    · exact Nat.le_succ_of_le ih
    · exact Nat.le_refl _

def lexFrom (offset : Nat) (occupied : Bool) : List Char → List Lexeme
  | [] => lineEnd occupied offset offset ++ [.token ⟨.endOfFile, ⟨offset, offset⟩⟩]
  | c :: cs =>
    if c = '#' then
      lexFrom (offset + c.utf8Size + utf8Length (cs.takeWhile (· != '\n'))) occupied (cs.dropWhile (· != '\n'))
    else if c = '\n' then lineEnd occupied offset (offset + c.utf8Size) ++ lexFrom (offset + c.utf8Size) false cs
    else if isLayout c then lexFrom (offset + c.utf8Size) occupied cs
    else if c = '(' then
      .token ⟨.openParen, ⟨offset, offset + c.utf8Size⟩⟩ :: lexFrom (offset + c.utf8Size) true cs
    else if c = ')' then
      .token ⟨.closeParen, ⟨offset, offset + c.utf8Size⟩⟩ :: lexFrom (offset + c.utf8Size) true cs
    else if isWordChar c then
      .token ⟨.word (.ofList (c :: cs.takeWhile isWordChar)),
          ⟨offset, offset + utf8Length (c :: cs.takeWhile isWordChar)⟩⟩ ::
        lexFrom (offset + utf8Length (c :: cs.takeWhile isWordChar)) true (cs.dropWhile isWordChar)
    else .stray c ⟨offset, offset + c.utf8Size⟩ :: lexFrom (offset + c.utf8Size) occupied cs
termination_by text => text.length
decreasing_by
  all_goals first | exact Nat.lt_succ_of_le (length_dropWhile_le _ _) | simp

def Lexeme.toExcept : Lexeme → Except Defect Token
  | token t => .ok t
  | stray char span => .error (.unexpectedCharacter char span)

def lex (source : String) : Except (List Defect) (List Token) :=
  collect ((lexFrom 0 false source.toList).map Lexeme.toExcept)

end KindTable
