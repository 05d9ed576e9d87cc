namespace KindTable

structure Span where
  start : Nat
  stop : Nat
  deriving DecidableEq, Repr, Inhabited

namespace Span

def length (s : Span) : Nat := s.stop - s.start

def merge (s t : Span) : Span := ⟨min s.start t.start, max s.stop t.stop⟩

end Span

def utf8Length (text : List Char) : Nat := text.foldr (fun c length => c.utf8Size + length) 0

@[simp] theorem utf8Length_nil : utf8Length [] = 0 := rfl

@[simp] theorem utf8Length_cons {c : Char} {text : List Char} :
    utf8Length (c :: text) = c.utf8Size + utf8Length text := rfl

@[simp] theorem utf8Length_append {first second : List Char} :
    utf8Length (first ++ second) = utf8Length first + utf8Length second := by
  induction first with
  | nil => simp
  | cons c first ih => simp [ih, Nat.add_assoc]

end KindTable
