namespace KindTable

def reservedWords : List String :=
  ["as", "break", "const", "continue", "crate", "else", "enum", "extern", "false", "fn", "for", "if", "impl",
    "in", "let", "loop", "match", "mod", "move", "mut", "pub", "ref", "return", "static", "struct", "super",
    "trait", "true", "type", "unsafe", "use", "where", "while", "async", "await", "dyn", "abstract", "become",
    "box", "do", "final", "macro", "override", "priv", "typeof", "unsized", "virtual", "yield", "try", "gen",
    "self", "Self", "_"]

def isReserved (text : String) : Bool := reservedWords.contains text

def opensIdentifier (c : Char) : Bool := c.isAlpha || c == '_'

def isWordChar (c : Char) : Bool := c.isAlphanum || c == '_'

def isIdentifier (text : String) : Bool :=
  match text.toList with
  | [] => false
  | c :: cs => opensIdentifier c && cs.all isWordChar && !isReserved text

theorem isWordChar_of_opensIdentifier {c : Char} (h : opensIdentifier c = true) : isWordChar c = true := by
  simp only [opensIdentifier, isWordChar, Char.isAlphanum, Bool.or_eq_true] at h ⊢
  rcases h with h | h
  · exact .inl (.inl h)
  · exact .inr h

structure Identifier where
  text : String
  valid : isIdentifier text = true
  deriving DecidableEq

namespace Identifier

def ofText? (text : String) : Option Identifier :=
  if h : isIdentifier text = true then some ⟨text, h⟩ else none

theorem ofText?_eq_some_iff {text : String} {i : Identifier} : ofText? text = some i ↔ i.text = text := by
  unfold ofText?
  constructor
  · intro h
    split at h
    · simpa using congrArg Identifier.text (Option.some.inj h).symm
    · simp at h
  · intro h
    subst h
    simp [i.valid]

theorem ofText?_eq_none_iff {text : String} : ofText? text = none ↔ isIdentifier text = false := by
  unfold ofText?
  split <;> simp_all

theorem exists_chars (i : Identifier) :
    ∃ c cs, i.text.toList = c :: cs ∧ isWordChar c = true ∧ ∀ a ∈ cs, isWordChar a = true := by
  have h := i.valid
  unfold isIdentifier at h
  split at h
  · cases h
  · rename_i c cs htext
    simp only [Bool.and_eq_true, List.all_eq_true] at h
    exact ⟨c, cs, htext, isWordChar_of_opensIdentifier h.1.1, h.1.2⟩

theorem toList_ne_nil (i : Identifier) : i.text.toList ≠ [] := by
  obtain ⟨c, cs, htext, -⟩ := i.exists_chars
  rw [htext]
  exact List.cons_ne_nil c cs

theorem isWordChar_of_mem (i : Identifier) : ∀ c ∈ i.text.toList, isWordChar c = true := by
  obtain ⟨c, cs, htext, hc, hcs⟩ := i.exists_chars
  rw [htext]
  exact List.forall_mem_cons.mpr ⟨hc, hcs⟩

end Identifier

end KindTable
