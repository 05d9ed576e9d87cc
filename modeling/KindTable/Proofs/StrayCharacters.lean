import KindTable.Proofs.LexemePlaces

namespace KindTable

def StrayAt (text : List Char) (c : Char) (span : Span) : Prop :=
  ∃ before after, text = before ++ c :: after ∧ '#' ∉ currentLine before ∧ IsForeign c ∧
    span = ⟨utf8Length before, utf8Length before + c.utf8Size⟩

theorem stray_mem_iff {text : List Char} {c : Char} {span : Span} :
    .stray c span ∈ lexFrom 0 false text ↔ StrayAt text c span := by
  rw [mem_lexFrom_iff]
  constructor
  · rintro ⟨before, after, htext, hstands⟩
    cases hstands with
    | stray hfree hc => exact ⟨before, _, htext, hfree, hc, rfl⟩
  · rintro ⟨before, after, htext, hfree, hc, rfl⟩
    exact ⟨before, c :: after, htext, .stray hfree hc⟩

def Lexeme.defect? : Lexeme → Option Defect
  | token _ => none
  | stray c span => some (.unexpectedCharacter c span)

theorem Lexeme.defect?_eq_some_iff {l : Lexeme} {defect : Defect} :
    l.defect? = some defect ↔ ∃ c span, l = .stray c span ∧ defect = .unexpectedCharacter c span := by
  cases l with
  | token t => simp [defect?]
  | stray c span => simp [defect?, eq_comm]

theorem errorsOf_lexemes (lexemes : List Lexeme) :
    errorsOf (lexemes.map Lexeme.toExcept) = lexemes.filterMap Lexeme.defect? := by
  induction lexemes with
  | nil => rfl
  | cons l rest ih =>
    cases l with
    | token t => exact ih
    | stray c span => exact congrArg (Defect.unexpectedCharacter c span :: ·) ih

theorem lex_eq_error_iff {source : String} {defects : List Defect} : lex source = .error defects ↔
    (lexFrom 0 false source.toList).filterMap Lexeme.defect? = defects ∧ defects ≠ [] := by
  rw [lex, collect_eq_error_iff, errorsOf_lexemes]

structure StrayReport (text : List Char) (defects : List Defect) : Prop where
  listed : ∀ defect, defect ∈ defects ↔
    ∃ c span, defect = .unexpectedCharacter c span ∧ StrayAt text c span
  ordered : defects.Pairwise fun defect later => defect.span.start < later.span.start

theorem mem_defects_iff {text : List Char} {defect : Defect} :
    defect ∈ (lexFrom 0 false text).filterMap Lexeme.defect? ↔
      ∃ c span, defect = .unexpectedCharacter c span ∧ StrayAt text c span := by
  simp only [List.mem_filterMap, Lexeme.defect?_eq_some_iff, ← stray_mem_iff]
  constructor
  · rintro ⟨l, hl, c, span, rfl, hdefect⟩
    exact ⟨c, span, hdefect, hl⟩
  · rintro ⟨c, span, hdefect, hl⟩
    exact ⟨_, hl, c, span, rfl, hdefect⟩

theorem pairwise_defects (text : List Char) :
    ((lexFrom 0 false text).filterMap Lexeme.defect?).Pairwise fun defect later =>
      defect.span.start < later.span.start := by
  refine List.pairwise_filterMap.mpr ((inOrder_lexFrom 0 false text).pairwise.imp_of_mem ?_)
  intro l m hl _ horder defect hdefect later hlater
  obtain ⟨c, span, rfl, rfl⟩ := Lexeme.defect?_eq_some_iff.mp hdefect
  obtain ⟨d, laterSpan, rfl, rfl⟩ := Lexeme.defect?_eq_some_iff.mp hlater
  have hreads : Reads text span [c] := @lexFrom_reads 0 false text [] rfl _ hl
  exact Nat.lt_of_lt_of_le (hreads.start_lt (List.cons_ne_nil _ _)) horder

theorem strayReport_of_lex {source : String} {defects : List Defect} (h : lex source = .error defects) :
    StrayReport source.toList defects := by
  obtain ⟨rfl, -⟩ := lex_eq_error_iff.mp h
  exact ⟨fun defect => mem_defects_iff, pairwise_defects source.toList⟩

theorem exists_lex_error_iff {source : String} :
    (∃ defects, lex source = .error defects) ↔ ∃ c span, StrayAt source.toList c span := by
  constructor
  · rintro ⟨defects, h⟩
    obtain ⟨hlisted, hne⟩ := lex_eq_error_iff.mp h
    obtain ⟨defect, rest, rfl⟩ := List.exists_cons_of_ne_nil hne
    obtain ⟨c, span, -, hstray⟩ := ((strayReport_of_lex h).listed defect).mp List.mem_cons_self
    exact ⟨c, span, hstray⟩
  · rintro ⟨c, span, hstray⟩
    have hlisted : .unexpectedCharacter c span ∈ (lexFrom 0 false source.toList).filterMap Lexeme.defect? :=
      mem_defects_iff.mpr ⟨c, span, rfl, hstray⟩
    exact ⟨_, lex_eq_error_iff.mpr ⟨rfl, List.ne_nil_of_mem hlisted⟩⟩

theorem strays_reported (source : String) :
    ((∃ defects, lex source = .error defects) ↔ ∃ c span, StrayAt source.toList c span) ∧
      ∀ defects, lex source = .error defects → StrayReport source.toList defects :=
  ⟨exists_lex_error_iff, fun _ h => strayReport_of_lex h⟩

theorem strays_reported_wideCharacters :
    lex "é# é?\nA-\u00a0B\n" = .error [.unexpectedCharacter 'é' ⟨0, 2⟩, .unexpectedCharacter '-' ⟨9, 10⟩,
        .unexpectedCharacter '\u00a0' ⟨10, 12⟩] ∧
      StrayReport "é# é?\nA-\u00a0B\n".toList [.unexpectedCharacter 'é' ⟨0, 2⟩, .unexpectedCharacter '-' ⟨9, 10⟩,
        .unexpectedCharacter '\u00a0' ⟨10, 12⟩] := by
  have hlex : lex "é# é?\nA-\u00a0B\n" = .error [.unexpectedCharacter 'é' ⟨0, 2⟩, .unexpectedCharacter '-' ⟨9, 10⟩,
      .unexpectedCharacter '\u00a0' ⟨10, 12⟩] := by decide +kernel
  exact ⟨hlex, (strays_reported _).2 _ hlex⟩

end KindTable
