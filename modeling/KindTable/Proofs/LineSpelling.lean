import Mathlib.Data.List.TakeWhile
import KindTable.Proofs.SourceLines

namespace KindTable

inductive Spelled : List TokenKind → List Char → Prop where
  | nil : Spelled [] []
  | layout {kinds : List TokenKind} {text : List Char} {c : Char} :
    isLayout c = true → Spelled kinds text → Spelled kinds (c :: text)
  | openParen {kinds : List TokenKind} {text : List Char} :
    Spelled kinds text → Spelled (.openParen :: kinds) ('(' :: text)
  | closeParen {kinds : List TokenKind} {text : List Char} :
    Spelled kinds text → Spelled (.closeParen :: kinds) (')' :: text)
  | word {kinds : List TokenKind} {text word : List Char} :
    word ≠ [] → (∀ c ∈ word, isWordChar c = true) → (∀ c, text.head? = some c → isWordChar c = false) →
    Spelled kinds text → Spelled (.word (.ofList word) :: kinds) (word ++ text)

theorem Spelled.open_of_mem {kinds : List TokenKind} {text : List Char} (h : Spelled kinds text) :
    ∀ k ∈ kinds, k.closesLine = false := by
  induction h with
  | nil => simp
  | layout hc h ih => exact ih
  | openParen h ih => exact List.forall_mem_cons.mpr ⟨rfl, ih⟩
  | closeParen h ih => exact List.forall_mem_cons.mpr ⟨rfl, ih⟩
  | word hne hword hend h ih => exact List.forall_mem_cons.mpr ⟨rfl, ih⟩

def lineContent (line : List Char) : List Char := line.takeWhile (· != '#')

theorem lineContent_cons {c : Char} {line : List Char} (h : c ≠ '#') :
    lineContent (c :: line) = c :: lineContent line := by
  simp [lineContent, h]

theorem ne_hash_of_isWordChar {c : Char} (h : isWordChar c = true) : c ≠ '#' := by
  rintro rfl
  cases h

theorem isLayout_eq_false_of_isWordChar {c : Char} (h : isWordChar c = true) : isLayout c = false := by
  cases hlayout : isLayout c with
  | false => rfl
  | true =>
    simp only [isLayout, Bool.or_eq_true, beq_iff_eq] at hlayout
    rcases hlayout with (rfl | rfl) | rfl <;> cases h

theorem lineContent_word {word line : List Char} (h : ∀ c ∈ word, isWordChar c = true) :
    lineContent (word ++ line) = word ++ lineContent line := by
  apply List.takeWhile_append_of_pos
  intro c hc
  simpa using ne_hash_of_isWordChar (h c hc)

theorem head?_lineContent {line : List Char} {c : Char} (h : (lineContent line).head? = some c) :
    line.head? = some c := by
  cases line with
  | nil => cases h
  | cons a line =>
    by_cases ha : a = '#'
    · simp [lineContent, ha] at h
    · rw [lineContent_cons ha] at h
      exact h

theorem head?_dropWhile {p : Char → Bool} {text : List Char} {c : Char}
    (h : (text.dropWhile p).head? = some c) : p c = false := by
  have hnot := List.head?_dropWhile_not p text
  rw [h] at hnot
  exact hnot

theorem forall_mem_run {p : Char → Bool} {c : Char} (h : p c = true) (cs : List Char) :
    ∀ a ∈ c :: cs.takeWhile p, p a = true :=
  List.forall_mem_cons.mpr ⟨h, fun _ ha => List.mem_takeWhile_imp ha⟩

theorem spelled_of_lineLexemes {offset : Nat} {line : List Char} :
    ∀ {tokens : List Token}, lineLexemes offset line = tokens.map .token →
      Spelled (tokens.map Token.kind) (lineContent line) := by
  fun_induction lineLexemes offset line with
  | case1 offset =>
    intro tokens h
    obtain rfl := List.map_eq_nil_iff.mp h.symm
    exact .nil
  | case2 offset cs =>
    intro tokens h
    obtain rfl := List.map_eq_nil_iff.mp h.symm
    exact .nil
  | case3 offset c cs hc hlayout ih =>
    intro tokens h
    rw [lineContent_cons hc]
    exact .layout hlayout (ih h)
  | case4 offset cs hc hlayout ih =>
    intro tokens h
    obtain ⟨t, rest, rfl, ht, hrest⟩ := List.map_eq_cons_iff.mp h.symm
    obtain rfl := Lexeme.token.inj ht
    rw [lineContent_cons hc]
    exact .openParen (ih hrest.symm)
  | case5 offset cs hc hlayout hopen ih =>
    intro tokens h
    obtain ⟨t, rest, rfl, ht, hrest⟩ := List.map_eq_cons_iff.mp h.symm
    obtain rfl := Lexeme.token.inj ht
    rw [lineContent_cons hc]
    exact .closeParen (ih hrest.symm)
  | case6 offset c cs hc hlayout hopen hclose hword ih =>
    intro tokens h
    obtain ⟨t, rest, rfl, ht, hrest⟩ := List.map_eq_cons_iff.mp h.symm
    obtain rfl := Lexeme.token.inj ht
    have hchars : ∀ a ∈ c :: cs.takeWhile isWordChar, isWordChar a = true := forall_mem_run hword cs
    rw [← run_append_dropWhile isWordChar c cs, lineContent_word hchars]
    exact .word (List.cons_ne_nil c _) hchars (fun a ha => head?_dropWhile (head?_lineContent ha)) (ih hrest.symm)
  | case7 offset c cs hc hlayout hopen hclose hword ih =>
    intro tokens h
    obtain ⟨t, rest, rfl, ht, hrest⟩ := List.map_eq_cons_iff.mp h.symm
    cases ht

-- What follows the spelled text is a comment, so it neither lengthens the last word nor adds a token.
theorem exists_lineLexemes_of_spelled {kinds : List TokenKind} {text tail : List Char} (offset : Nat)
    (h : Spelled kinds text) (htail : ∀ c, tail.head? = some c → c = '#') :
    ∃ tokens : List Token, lineLexemes offset (text ++ tail) = tokens.map .token ∧ tokens.map Token.kind = kinds := by
  induction h generalizing offset with
  | nil =>
    refine ⟨[], ?_, rfl⟩
    cases tail with
    | nil => rw [List.nil_append, lineLexemes]; rfl
    | cons c tail =>
      obtain rfl := htail c rfl
      rw [List.nil_append, lineLexemes, if_pos rfl]
      rfl
  | @layout kinds text c hc h ih =>
    obtain ⟨tokens, hlexemes, hkinds⟩ := ih (offset + c.utf8Size)
    refine ⟨tokens, ?_, hkinds⟩
    have hhash : c ≠ '#' := by
      rintro rfl
      cases hc
    rw [List.cons_append, lineLexemes, if_neg hhash, if_pos hc, hlexemes]
  | @openParen kinds text h ih =>
    obtain ⟨tokens, hlexemes, hkinds⟩ := ih (offset + '('.utf8Size)
    refine ⟨⟨.openParen, ⟨offset, offset + '('.utf8Size⟩⟩ :: tokens, ?_, by rw [List.map_cons, hkinds]⟩
    rw [List.cons_append, lineLexemes, if_neg (by decide), if_neg (by decide), if_pos rfl, hlexemes, List.map_cons]
  | @closeParen kinds text h ih =>
    obtain ⟨tokens, hlexemes, hkinds⟩ := ih (offset + ')'.utf8Size)
    refine ⟨⟨.closeParen, ⟨offset, offset + ')'.utf8Size⟩⟩ :: tokens, ?_, by rw [List.map_cons, hkinds]⟩
    rw [List.cons_append, lineLexemes, if_neg (by decide), if_neg (by decide), if_neg (by decide), if_pos rfl,
      hlexemes, List.map_cons]
  | @word kinds text word hne hword hend h ih =>
    obtain ⟨c, cs, rfl⟩ := List.exists_cons_of_ne_nil hne
    obtain ⟨hc, hcs⟩ := List.forall_mem_cons.mp hword
    obtain ⟨tokens, hlexemes, hkinds⟩ := ih (offset + utf8Length (c :: cs))
    have hstop : ∀ a, (text ++ tail).head? = some a → isWordChar a = false := by
      intro a ha
      cases text with
      | nil =>
        rw [htail a ha]
        rfl
      | cons b text => exact hend a ha
    have htake : (cs ++ (text ++ tail)).takeWhile isWordChar = cs := by
      rw [takeWhile_append_stop hstop, List.takeWhile_eq_self_iff]
      exact hcs
    have hdrop : (cs ++ (text ++ tail)).dropWhile isWordChar = text ++ tail := by
      rw [dropWhile_append_stop hstop, List.dropWhile_eq_nil_iff.mpr hcs, List.nil_append]
    have hparens : c ≠ '(' ∧ c ≠ ')' := by
      constructor <;> rintro rfl <;> cases hc
    refine ⟨⟨.word (.ofList (c :: cs)), ⟨offset, offset + utf8Length (c :: cs)⟩⟩ :: tokens, ?_, ?_⟩
    · rw [List.append_assoc, List.cons_append, lineLexemes, if_neg (ne_hash_of_isWordChar hc),
        if_neg (by simp [isLayout_eq_false_of_isWordChar hc]), if_neg hparens.1, if_neg hparens.2, if_pos hc]
      simp only [htake, hdrop, hlexemes, List.map_cons]
    · rw [List.map_cons, hkinds]

end KindTable
