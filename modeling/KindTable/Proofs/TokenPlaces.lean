import KindTable.Proofs.WholeLines

namespace KindTable

def Reads (text : List Char) (span : Span) (piece : List Char) : Prop :=
  ∃ before after, text = before ++ (piece ++ after) ∧
    span = ⟨utf8Length before, utf8Length before + utf8Length piece⟩

theorem Reads.stop_eq {text piece : List Char} {span : Span} (h : Reads text span piece) :
    span.stop = span.start + utf8Length piece := by
  obtain ⟨before, after, -, rfl⟩ := h
  rfl

theorem Reads.stop_le {text piece : List Char} {span : Span} (h : Reads text span piece) :
    span.stop ≤ utf8Length text := by
  obtain ⟨before, after, rfl, rfl⟩ := h
  simp only [utf8Length_append]
  omega

theorem utf8Length_pos {text : List Char} (h : text ≠ []) : 0 < utf8Length text := by
  obtain ⟨c, rest, rfl⟩ := List.exists_cons_of_ne_nil h
  have hc := c.utf8Size_pos
  rw [utf8Length_cons]
  omega

theorem Reads.start_lt {text piece : List Char} {span : Span} (h : Reads text span piece) (hne : piece ≠ []) :
    span.start < span.stop := by
  have hlength := utf8Length_pos hne
  have hstop := h.stop_eq
  omega

inductive TokenReads (text : List Char) : Token → Prop where
  | word {word : String} {span : Span} :
    word.toList ≠ [] → Reads text span word.toList → TokenReads text ⟨.word word, span⟩
  | openParen {span : Span} : Reads text span ['('] → TokenReads text ⟨.openParen, span⟩
  | closeParen {span : Span} : Reads text span [')'] → TokenReads text ⟨.closeParen, span⟩
  | newline {span : Span} : Reads text span ['\n'] → TokenReads text ⟨.newline, span⟩
  | cutShort {span : Span} : Reads text span [] → span.start = utf8Length text → TokenReads text ⟨.newline, span⟩
  | endOfFile {span : Span} : Reads text span [] → span.start = utf8Length text → TokenReads text ⟨.endOfFile, span⟩

def Lexeme.Reads (text : List Char) : Lexeme → Prop
  | token t => TokenReads text t
  | stray c span => KindTable.Reads text span [c]

theorem reads_at (before after piece : List Char) :
    Reads (before ++ (piece ++ after)) ⟨utf8Length before, utf8Length before + utf8Length piece⟩ piece :=
  ⟨before, after, rfl, rfl⟩

theorem lineEnd_reads {text before : List Char} {occupied : Bool} {stop : Nat} {l : Lexeme}
    (h : TokenReads text ⟨.newline, ⟨utf8Length before, stop⟩⟩) (hl : l ∈ lineEnd occupied (utf8Length before) stop) :
    l.Reads text := by
  unfold lineEnd at hl
  split at hl
  · obtain rfl := List.mem_singleton.mp hl
    exact h
  · cases hl

theorem reads_char (before cs : List Char) (c : Char) :
    Reads (before ++ c :: cs) ⟨utf8Length before, utf8Length before + c.utf8Size⟩ [c] :=
  reads_at before cs [c]

-- `before` is the text already passed: each step moves a piece of the rest to its end.
theorem lexFrom_reads {offset : Nat} {occupied : Bool} {rest : List Char} (before : List Char)
    (hoffset : offset = utf8Length before) :
    ∀ l ∈ lexFrom offset occupied rest, l.Reads (before ++ rest) := by
  fun_induction lexFrom offset occupied rest generalizing before with
  | case1 offset occupied =>
    subst hoffset
    intro l hl
    have hend : Reads (before ++ []) ⟨utf8Length before, utf8Length before⟩ [] := ⟨before, [], rfl, rfl⟩
    rcases List.mem_append.mp hl with hl | hl
    · exact lineEnd_reads (.cutShort hend (by simp)) hl
    · obtain rfl := List.mem_singleton.mp hl
      exact .endOfFile hend (by simp)
  | case2 offset occupied cs ih =>
    rw [← run_append_dropWhile (· != '\n') '#' cs, ← List.append_assoc]
    exact ih _ (by simp [hoffset, Nat.add_assoc])
  | case3 offset occupied cs hc ih =>
    subst hoffset
    intro l hl
    rcases List.mem_append.mp hl with hl | hl
    · exact lineEnd_reads (.newline (reads_char before cs '\n')) hl
    · rw [List.append_cons]
      exact ih _ (by simp) l hl
  | case4 offset occupied c cs hc hfeed hlayout ih =>
    rw [List.append_cons]
    exact ih _ (by simp [hoffset])
  | case5 offset occupied cs hc hfeed hlayout ih =>
    subst hoffset
    intro l hl
    rcases List.mem_cons.mp hl with rfl | hl
    · exact .openParen (reads_char before cs '(')
    · rw [List.append_cons]
      exact ih _ (by simp) l hl
  | case6 offset occupied cs hc hfeed hlayout hopen ih =>
    subst hoffset
    intro l hl
    rcases List.mem_cons.mp hl with rfl | hl
    · exact .closeParen (reads_char before cs ')')
    · rw [List.append_cons]
      exact ih _ (by simp) l hl
  | case7 offset occupied c cs hc hfeed hlayout hopen hclose hword ih =>
    subst hoffset
    intro l hl
    rw [← run_append_dropWhile isWordChar c cs]
    rcases List.mem_cons.mp hl with rfl | hl
    · have hreads := reads_at before (cs.dropWhile isWordChar) (c :: cs.takeWhile isWordChar)
      refine .word ?_ ?_
      · rw [String.toList_ofList]
        exact List.cons_ne_nil _ _
      · rw [String.toList_ofList]
        exact hreads
    · rw [← List.append_assoc]
      exact ih _ (by simp) l hl
  | case8 offset occupied c cs hc hfeed hlayout hopen hclose hword ih =>
    subst hoffset
    intro l hl
    rcases List.mem_cons.mp hl with rfl | hl
    · exact reads_char before cs c
    · rw [List.append_cons]
      exact ih _ (by simp) l hl

def Lexeme.span : Lexeme → Span
  | token t => t.span
  | stray _ span => span

inductive InOrder : Nat → List Lexeme → Prop where
  | nil {offset : Nat} : InOrder offset []
  | cons {offset : Nat} {l : Lexeme} {rest : List Lexeme} :
    offset ≤ l.span.start → l.span.start ≤ l.span.stop → InOrder l.span.stop rest → InOrder offset (l :: rest)

theorem InOrder.mono {first offset : Nat} {lexemes : List Lexeme} (h : InOrder offset lexemes)
    (hle : first ≤ offset) : InOrder first lexemes := by
  cases h with
  | nil => exact .nil
  | cons hstart hspan hrest => exact .cons (Nat.le_trans hle hstart) hspan hrest

theorem InOrder.start_le {offset : Nat} {lexemes : List Lexeme} (h : InOrder offset lexemes) :
    ∀ l ∈ lexemes, offset ≤ l.span.start := by
  induction h with
  | nil => simp
  | cons hstart hspan hrest ih =>
    refine List.forall_mem_cons.mpr ⟨hstart, ?_⟩
    intro l hl
    exact Nat.le_trans hstart (Nat.le_trans hspan (ih l hl))

theorem InOrder.pairwise {offset : Nat} {lexemes : List Lexeme} (h : InOrder offset lexemes) :
    lexemes.Pairwise fun l m => l.span.stop ≤ m.span.start := by
  induction h with
  | nil => exact .nil
  | cons hstart hspan hrest ih => exact .cons hrest.start_le ih

theorem inOrder_lineEnd {start stop : Nat} {rest : List Lexeme} (occupied : Bool) (hle : start ≤ stop)
    (h : InOrder stop rest) : InOrder start (lineEnd occupied start stop ++ rest) := by
  cases occupied with
  | false => exact h.mono hle
  | true => exact .cons (Nat.le_refl _) hle h

theorem inOrder_lexFrom (offset : Nat) (occupied : Bool) (rest : List Char) :
    InOrder offset (lexFrom offset occupied rest) := by
  fun_induction lexFrom offset occupied rest with
  | case1 offset occupied =>
    exact inOrder_lineEnd occupied (Nat.le_refl _) (.cons (Nat.le_refl _) (Nat.le_refl _) .nil)
  | case2 offset occupied cs ih => exact ih.mono (by omega)
  | case3 offset occupied cs hc ih => exact inOrder_lineEnd occupied (Nat.le_add_right _ _) ih
  | case4 offset occupied c cs hc hfeed hlayout ih => exact ih.mono (Nat.le_add_right _ _)
  | case5 offset occupied cs hc hfeed hlayout ih => exact .cons (Nat.le_refl _) (Nat.le_add_right _ _) ih
  | case6 offset occupied cs hc hfeed hlayout hopen ih => exact .cons (Nat.le_refl _) (Nat.le_add_right _ _) ih
  | case7 offset occupied c cs hc hfeed hlayout hopen hclose hword ih =>
    exact .cons (Nat.le_refl _) (Nat.le_add_right _ _) ih
  | case8 offset occupied c cs hc hfeed hlayout hopen hclose hword ih =>
    exact .cons (Nat.le_refl _) (Nat.le_add_right _ _) (ih.mono (Nat.le_refl _))

theorem lexFrom_of_lex {source : String} {tokens : List Token} (h : lex source = .ok tokens) :
    lexFrom 0 false source.toList = tokens.map .token := by
  rw [lex, collect_eq_ok_iff, map_toExcept_eq_iff] at h
  exact h

theorem tokenReads_of_lex {source : String} {tokens : List Token} (h : lex source = .ok tokens) :
    ∀ t ∈ tokens, TokenReads source.toList t := by
  intro t ht
  apply @lexFrom_reads 0 false source.toList [] rfl (.token t)
  rw [lexFrom_of_lex h]
  exact List.mem_map_of_mem ht

theorem pairwise_of_lex {source : String} {tokens : List Token} (h : lex source = .ok tokens) :
    tokens.Pairwise fun t u => t.span.stop ≤ u.span.start := by
  have horder := (inOrder_lexFrom 0 false source.toList).pairwise
  rw [lexFrom_of_lex h, List.pairwise_map] at horder
  exact horder

theorem stray_of_lex {source : String} {defects : List Defect} (h : lex source = .error defects) :
    defects ≠ [] ∧ ∀ defect ∈ defects, ∃ c span, defect = .unexpectedCharacter c span ∧
      Reads source.toList span [c] := by
  obtain ⟨rfl, hne⟩ := collect_eq_error_iff.mp h
  refine ⟨hne, ?_⟩
  intro defect hdefect
  obtain ⟨l, hl, hexcept⟩ := List.mem_map.mp (mem_errorsOf.mp hdefect)
  cases l with
  | token t => cases hexcept
  | stray c span =>
    cases hexcept
    exact ⟨c, span, rfl, @lexFrom_reads 0 false source.toList [] rfl _ hl⟩

structure LexedLines (text : List Char) (lines : List (List Token)) : Prop where
  whole : ∀ line ∈ lines, WholeLine line
  reads : ∀ line ∈ lines, ∀ t ∈ line, TokenReads text t
  ordered : lines.flatten.Pairwise fun t u => t.span.stop ≤ u.span.start

theorem lexedLines_of_lex {source : String} {tokens : List Token} (h : lex source = .ok tokens) :
    HasEnd tokens ∧ LexedLines source.toList (closedLines tokens) := by
  have hreads := tokenReads_of_lex h
  have horder := pairwise_of_lex h
  obtain ⟨lines, hlines, rfl⟩ := lex_eq_ok_iff.mp h
  have hwhole := wholeLine_of_lineTokens (lineTokens_of_linesLexemes hlines)
  refine ⟨hasEnd_append rfl, ?_⟩
  rw [closedLines_flatten rfl hwhole]
  constructor
  case whole =>
    intro line hline
    obtain ⟨hline, hne⟩ := List.mem_filter.mp hline
    exact hwhole line hline (by simpa using hne)
  case reads =>
    intro line hline t ht
    have hmem : t ∈ lines.flatten := List.mem_flatten.mpr ⟨line, (List.mem_filter.mp hline).1, ht⟩
    exact hreads t (List.mem_append_left _ hmem)
  case ordered =>
    rw [List.flatten_filter_not_isEmpty]
    exact (List.pairwise_append.mp horder).1

end KindTable
