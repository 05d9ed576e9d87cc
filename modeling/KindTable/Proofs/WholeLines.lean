import KindTable.Proofs.LineSpelling

namespace KindTable

def closedKinds (kinds : List TokenKind) : List TokenKind :=
  if kinds.isEmpty then [] else kinds ++ [.newline]

def LineTokens (line : List Char) (tokens : List Token) : Prop :=
  ∃ kinds, Spelled kinds (lineContent line) ∧ tokens.map Token.kind = closedKinds kinds

theorem eq_of_closedKinds_append {kinds body : List TokenKind} {close : TokenKind}
    (h : closedKinds kinds = body ++ [close]) : kinds = body := by
  unfold closedKinds at h
  split at h
  · simp at h
  · exact List.append_inj_left' h rfl

theorem any_isToken_map (tokens : List Token) :
    (tokens.map Lexeme.token).any Lexeme.isToken = !tokens.isEmpty := by
  cases tokens <;> rfl

theorem lineTokens_of_lexemes {offset start stop : Nat} {line : List Char} {tokens : List Token}
    (h : lineLexemes offset line ++ lineEnd ((lineLexemes offset line).any Lexeme.isToken) start stop =
      tokens.map .token) : LineTokens line tokens := by
  obtain ⟨body, ends, rfl, hbody, hends⟩ := List.map_eq_append_iff.mp h.symm
  refine ⟨body.map Token.kind, spelled_of_lineLexemes hbody.symm, ?_⟩
  rw [← hbody, any_isToken_map] at hends
  cases body with
  | nil =>
    obtain rfl := List.map_eq_nil_iff.mp hends
    rfl
  | cons t rest =>
    obtain ⟨last, rfl, hlast⟩ := List.map_eq_singleton_iff.mp hends
    rw [Lexeme.token.inj hlast, List.map_append]
    rfl

theorem exists_lexemes_of_spelled {kinds : List TokenKind} {line : List Char} (offset start stop : Nat)
    (h : Spelled kinds (lineContent line)) :
    ∃ tokens : List Token,
      lineLexemes offset line ++ lineEnd ((lineLexemes offset line).any Lexeme.isToken) start stop =
        tokens.map .token ∧ tokens.map Token.kind = closedKinds kinds := by
  have hcomment : ∀ c, (line.dropWhile (· != '#')).head? = some c → c = '#' := by
    intro c hc
    simpa using head?_dropWhile hc
  obtain ⟨body, hbody, rfl⟩ := exists_lineLexemes_of_spelled offset h hcomment
  rw [lineContent, List.takeWhile_append_dropWhile] at hbody
  rw [hbody, any_isToken_map]
  cases body with
  | nil => exact ⟨[], rfl, rfl⟩
  | cons t rest =>
    refine ⟨t :: rest ++ [⟨.newline, ⟨start, stop⟩⟩], ?_, ?_⟩
    · rw [List.map_append]
      rfl
    · rw [List.map_append]
      rfl

theorem lineTokens_of_linesLexemes {offset : Nat} {pieces : List (List Char)} {lines : List (List Token)}
    (h : linesLexemes offset pieces = lines.map (·.map Lexeme.token)) : List.Forall₂ LineTokens pieces lines := by
  induction pieces generalizing offset lines with
  | nil =>
    obtain rfl := List.map_eq_nil_iff.mp h.symm
    exact .nil
  | cons line rest ih =>
    cases rest with
    | nil =>
      obtain ⟨tokens, rfl, htokens⟩ := List.map_eq_singleton_iff.mp h.symm
      exact .cons (lineTokens_of_lexemes htokens.symm) .nil
    | cons next rest =>
      rw [linesLexemes_cons (List.cons_ne_nil next rest)] at h
      obtain ⟨tokens, later, rfl, htokens, hlater⟩ := List.map_eq_cons_iff.mp h.symm
      exact .cons (lineTokens_of_lexemes htokens.symm) (ih hlater.symm)

theorem exists_linesLexemes_of_spelled {pieces : List (List Char)} {kindss : List (List TokenKind)} (offset : Nat)
    (h : List.Forall₂ (fun line kinds => Spelled kinds (lineContent line)) pieces kindss) :
    ∃ lines : List (List Token), linesLexemes offset pieces = lines.map (·.map Lexeme.token) ∧
      lines.map (·.map Token.kind) = kindss.map closedKinds := by
  induction h generalizing offset with
  | nil => exact ⟨[], rfl, rfl⟩
  | @cons line kinds rest kindss hline hrest ih =>
    cases hrest with
    | nil =>
      obtain ⟨tokens, htokens, hkinds⟩ :=
        exists_lexemes_of_spelled offset (offset + utf8Length line) (offset + utf8Length line) hline
      exact ⟨[tokens], congrArg (fun lexemes => [lexemes]) htokens, congrArg (fun kinds => [kinds]) hkinds⟩
    | @cons next nextKinds rest kindss hnext hrest =>
      obtain ⟨tokens, htokens, hkinds⟩ :=
        exists_lexemes_of_spelled offset (offset + utf8Length line) (offset + utf8Length line + 1) hline
      obtain ⟨lines, hlines, hkindss⟩ := ih (offset + utf8Length line + 1)
      refine ⟨tokens :: lines, ?_, ?_⟩
      · rw [linesLexemes_cons (List.cons_ne_nil next rest), htokens, hlines, List.map_cons]
      · rw [List.map_cons, hkinds, hkindss]
        rfl

def WholeLine (line : List Token) : Prop :=
  ∃ body t, line = body ++ [t] ∧ t.kind = .newline ∧ ∀ a ∈ body, a.kind.closesLine = false

theorem wholeLine_of_kinds {line : List Token} {kinds : List TokenKind} (hne : line ≠ [])
    (hopen : ∀ k ∈ kinds, k.closesLine = false) (h : line.map Token.kind = closedKinds kinds) : WholeLine line := by
  unfold closedKinds at h
  split at h
  · exact absurd (List.map_eq_nil_iff.mp h) hne
  · obtain ⟨body, ends, rfl, rfl, hends⟩ := List.map_eq_append_iff.mp h
    obtain ⟨t, rfl, ht⟩ := List.map_eq_singleton_iff.mp hends
    refine ⟨body, t, rfl, ht, ?_⟩
    intro a ha
    exact hopen a.kind (List.mem_map_of_mem ha)

theorem WholeLine.ne_endOfFile {line : List Token} (h : WholeLine line) : ∀ t ∈ line, t.kind ≠ .endOfFile := by
  obtain ⟨body, newline, rfl, hnewline, hopen⟩ := h
  intro t ht hend
  rcases List.mem_append.mp ht with ht | ht
  · have hopen := hopen t ht
    rw [hend] at hopen
    cases hopen
  · obtain rfl := List.mem_singleton.mp ht
    rw [hnewline] at hend
    cases hend

theorem WholeLine.firstLine_append {line rest : List Token} (h : WholeLine line) : firstLine (line ++ rest) = line := by
  obtain ⟨body, t, rfl, ht, hopen⟩ := h
  rw [List.append_assoc, List.singleton_append, KindTable.firstLine_append hopen, firstLine, if_pos (by rw [ht]; rfl)]

theorem WholeLine.skipLine_append {line rest : List Token} (h : WholeLine line) : skipLine (line ++ rest) = rest := by
  obtain ⟨body, t, rfl, ht, hopen⟩ := h
  rw [List.append_assoc, List.singleton_append, KindTable.skipLine_append hopen, skipLine, ht]

theorem closedLines_append {line rest : List Token} (h : WholeLine line) (hrest : HasEnd rest) :
    closedLines (line ++ rest) = line :: closedLines rest := by
  have hne : line ≠ [] := by
    obtain ⟨body, t, rfl, -⟩ := h
    simp
  obtain ⟨a, after, hline⟩ := List.exists_cons_of_ne_nil hne
  have ha : a.kind ≠ .endOfFile := h.ne_endOfFile a (hline ▸ List.mem_cons_self)
  have hends : HasEnd (a :: (after ++ rest)) := by
    obtain ⟨t, ht, hend⟩ := hrest
    exact ⟨t, List.mem_cons_of_mem a (List.mem_append_right after ht), hend⟩
  have hlines := closedLines_cons hends ha
  rw [← List.cons_append, ← hline, h.firstLine_append, h.skipLine_append] at hlines
  exact hlines

theorem hasEnd_append {tokens : List Token} {t : Token} (h : t.kind = .endOfFile) : HasEnd (tokens ++ [t]) :=
  ⟨t, List.mem_append_right tokens List.mem_cons_self, h⟩

theorem closedLines_flatten_append {lines : List (List Token)} {rest : List Token} (hrest : HasEnd rest)
    (h : ∀ line ∈ lines, line ≠ [] → WholeLine line) :
    closedLines (lines.flatten ++ rest) = lines.filter (!·.isEmpty) ++ closedLines rest := by
  induction lines with
  | nil => rfl
  | cons line later ih =>
    obtain ⟨hline, hlater⟩ := List.forall_mem_cons.mp h
    by_cases hne : line = []
    · subst hne
      exact ih hlater
    · obtain ⟨t, ht, hend⟩ := hrest
      have hbehind : HasEnd (later.flatten ++ rest) := ⟨t, List.mem_append_right _ ht, hend⟩
      rw [List.flatten_cons, List.append_assoc, closedLines_append (hline hne) hbehind, ih hlater,
        List.filter_cons_of_pos (by simpa using hne), List.cons_append]

theorem closedLines_flatten {lines : List (List Token)} {last : Token} (hlast : last.kind = .endOfFile)
    (h : ∀ line ∈ lines, line ≠ [] → WholeLine line) :
    closedLines (lines.flatten ++ [last]) = lines.filter (!·.isEmpty) := by
  rw [closedLines_flatten_append ⟨last, List.mem_singleton_self last, hlast⟩ h, closedLines_of_end hlast,
    List.append_nil]

theorem wholeLine_of_lineTokens {pieces : List (List Char)} {lines : List (List Token)}
    (h : List.Forall₂ LineTokens pieces lines) : ∀ line ∈ lines, line ≠ [] → WholeLine line := by
  induction h with
  | nil => simp
  | cons hline hrest ih =>
    obtain ⟨kinds, hspelled, hkinds⟩ := hline
    exact List.forall_mem_cons.mpr ⟨fun hne => wholeLine_of_kinds hne hspelled.open_of_mem hkinds, ih⟩

end KindTable
