import KindTable.Proofs.Displacement
import KindTable.Proofs.WholeLines

namespace KindTable

section

variable {ε ε' α β : Type}

def faultsOf : Except (List ε) (List α) → List ε
  | .ok _ => []
  | .error faults => faults

def joined (first later : Except (List ε) (List α)) : Except (List ε) (List α) :=
  match first, later with
  | .ok as, .ok bs => .ok (as ++ bs)
  | _, _ => .error (faultsOf first ++ faultsOf later)

def mapEach (f : ε → ε') (g : α → β) : Except (List ε) (List α) → Except (List ε') (List β)
  | .ok as => .ok (as.map g)
  | .error faults => .error (faults.map f)

theorem collect_append (first later : List (Except ε α)) :
    collect (first ++ later) = joined (collect first) (collect later) := by
  have herrors : errorsOf (first ++ later) = errorsOf first ++ errorsOf later := List.filterMap_append
  have hvalues : valuesOf (first ++ later) = valuesOf first ++ valuesOf later := List.filterMap_append
  rw [collect_eq, collect_eq first, collect_eq later, herrors, hvalues]
  cases errorsOf first <;> cases errorsOf later <;> rfl

theorem collect_map {f : ε → ε'} {g : α → β} {h : Except ε α → Except ε' β} (hok : ∀ a, h (.ok a) = .ok (g a))
    (herror : ∀ e, h (.error e) = .error (f e)) (results : List (Except ε α)) :
    collect (results.map h) = mapEach f g (collect results) := by
  induction results with
  | nil => rfl
  | cons result rest ih =>
    cases result with
    | ok a =>
      rw [List.map_cons, hok, collect, collect, ih]
      cases collect rest <;> rfl
    | error e =>
      rw [List.map_cons, herror, collect, collect, ih]
      cases collect rest <;> rfl

theorem map_dropLast_joined (first : Except (List ε) (List α)) (a : α) :
    (joined first (.ok [a])).map List.dropLast = first := by
  cases first with
  | ok as => simp [joined, Except.map]
  | error faults => simp [joined, faultsOf, Except.map]

end

def shiftedTokens (n : Nat) : Except (List Defect) (List Token) → Except (List Defect) (List Token) :=
  mapEach (.shift n) (.shift n)

def shiftedTable (n : Nat) : Except (List Defect) (List Declaration) → Except (List Defect) (List Declaration) :=
  mapEach (.shift n) (.shift n)

def EndsLine (text : List Char) : Prop := text = [] ∨ text.getLast? = some '\n'

instance (text : List Char) : Decidable (EndsLine text) := inferInstanceAs (Decidable (_ ∨ _))

theorem EndsLine.behind {line later : List Char} (h : EndsLine (line ++ '\n' :: later)) : EndsLine later := by
  rcases h with hempty | hlast
  · simp at hempty
  · cases later with
    | nil => exact .inl rfl
    | cons c cs =>
      right
      rwa [List.getLast?_append_of_ne_nil _ (by simp), List.getLast?_cons_cons] at hlast

theorem lexFrom_append (offset : Nat) {text : List Char} (h : EndsLine text) :
    ∃ body, ∀ rest, lexFrom offset false (text ++ rest) = body ++ lexFrom (offset + utf8Length text) false rest := by
  by_cases hempty : text = []
  · subst hempty
    exact ⟨[], fun rest => rfl⟩
  · have hfeed : '\n' ∈ text := List.mem_of_getLast? (h.resolve_left hempty)
    obtain ⟨line, later, htext, hline⟩ := List.eq_append_cons_of_mem hfeed
    have hshorter : later.length < text.length := by
      rw [htext, List.length_append, List.length_cons]
      omega
    obtain ⟨body, hbody⟩ := lexFrom_append (offset + utf8Length line + 1) (htext ▸ h).behind
    refine ⟨lineLexemes offset line ++ (lineEnd ((lineLexemes offset line).any Lexeme.isToken)
      (offset + utf8Length line) (offset + utf8Length line + 1) ++ body), fun rest => ?_⟩
    have hstart : ∀ c, ('\n' :: (later ++ rest)).head? = some c → c = '\n' := by simp
    have hlength : offset + utf8Length text = offset + utf8Length line + 1 + utf8Length later := by
      rw [htext, utf8Length_append, utf8Length_cons, Nat.add_assoc, Nat.add_assoc]
      rfl
    rw [hlength, htext, List.append_assoc, List.cons_append, lexFrom_line offset false hline hstart, lexFrom,
      if_neg (by decide), if_pos rfl]
    simp only [Bool.false_or, List.append_assoc]
    rw [← hbody]
    rfl
termination_by text.length

theorem collect_toExcept_shift (n : Nat) (lexemes : List Lexeme) :
    collect ((lexemes.map (.shift n)).map Lexeme.toExcept) =
      shiftedTokens n (collect (lexemes.map Lexeme.toExcept)) := by
  let moved : Except Defect Token → Except Defect Token
    | .ok t => .ok (t.shift n)
    | .error defect => .error (defect.shift n)
  have hmoved : (lexemes.map (.shift n)).map Lexeme.toExcept = (lexemes.map Lexeme.toExcept).map moved := by
    rw [List.map_map, List.map_map]
    apply List.map_congr_left
    intro l _
    cases l <;> rfl
  rw [hmoved]
  exact collect_map (h := moved) (fun _ => rfl) (fun _ => rfl) _

theorem lex_append {first : String} (h : EndsLine first.toList) (later : String) :
    lex (first ++ later) =
      joined ((lex first).map List.dropLast) (shiftedTokens (utf8Length first.toList) (lex later)) := by
  obtain ⟨body, hbody⟩ := lexFrom_append 0 h
  have hfirst : lex first = joined (collect (body.map Lexeme.toExcept))
      (.ok [⟨.endOfFile, ⟨utf8Length first.toList, utf8Length first.toList⟩⟩]) := by
    have hends := hbody []
    rw [List.append_nil, Nat.zero_add] at hends
    rw [lex, hends, List.map_append, collect_append, lexFrom]
    rfl
  have hshift := lexFrom_shift (utf8Length first.toList) 0 false later.toList
  rw [Nat.add_zero] at hshift
  rw [hfirst, map_dropLast_joined, lex, lex, String.toList_append, hbody, Nat.zero_add, hshift, List.map_append,
    collect_append, collect_toExcept_shift]

theorem lines_of_lex {source : String} {tokens : List Token} (h : lex source = .ok tokens) :
    ∃ lines : List (List Token), (∀ line ∈ lines, line ≠ [] → WholeLine line) ∧
      tokens = lines.flatten ++ [⟨.endOfFile, ⟨utf8Length source.toList, utf8Length source.toList⟩⟩] := by
  obtain ⟨lines, hlines, htokens⟩ := lex_eq_ok_iff.mp h
  exact ⟨lines, wholeLine_of_lineTokens (lineTokens_of_linesLexemes hlines), htokens⟩

theorem outcomes_eq {tokens : List Token} (h : HasEnd tokens) {os : List (Except Defect Declaration)}
    (hos : List.Forall₂ LineOutcome (closedLines tokens) os) : outcomes tokens = os := by
  have hunique : Relator.RightUnique LineOutcome := fun _ _ _ => LineOutcome.unique
  exact hunique.forall₂ (lineOutcomes h) hos

theorem outcomes_append {n : Nat} {lines : List (List Token)} {last : Token} {later : List Token}
    (hlast : last.kind = .endOfFile) (hlines : ∀ line ∈ lines, line ≠ [] → WholeLine line) (hlater : HasEnd later) :
    outcomes (lines.flatten ++ later.map (Token.shift n)) =
      outcomes (lines.flatten ++ [last]) ++ (outcomes later).map (shiftOutcome n) := by
  have hshifted : HasEnd (later.map (Token.shift n)) := by
    obtain ⟨t, ht, hend⟩ := hlater
    exact ⟨t.shift n, List.mem_map_of_mem ht, hend⟩
  have hends : HasEnd (lines.flatten ++ later.map (Token.shift n)) := by
    obtain ⟨t, ht, hend⟩ := hshifted
    exact ⟨t, List.mem_append_right _ ht, hend⟩
  apply outcomes_eq hends
  rw [closedLines_flatten_append hshifted hlines, ← closedLines_flatten hlast hlines, closedLines_shift]
  refine List.rel_append (lineOutcomes (hasEnd_append hlast)) ?_
  rw [List.forall₂_map_left_iff, List.forall₂_map_right_iff]
  exact (lineOutcomes hlater).imp fun _ _ => LineOutcome.shift

theorem parseTable_append {first later : String} {tokens laterTokens : List Token} (h : lex first = .ok tokens)
    (hlater : lex later = .ok laterTokens) (n : Nat) :
    parseTable (tokens.dropLast ++ laterTokens.map (Token.shift n)) =
      joined (parseTable tokens) (shiftedTable n (parseTable laterTokens)) := by
  obtain ⟨lines, hlines, rfl⟩ := lines_of_lex h
  obtain ⟨laterLines, -, rfl⟩ := lines_of_lex hlater
  have hend : (Token.mk .endOfFile ⟨utf8Length first.toList, utf8Length first.toList⟩).kind = .endOfFile := rfl
  rw [List.dropLast_concat, parseTable, outcomes_append hend hlines (hasEnd_append rfl), collect_append,
    collect_map (h := shiftOutcome n) (fun _ => rfl) fun _ => rfl]
  rfl

theorem reading_distributes {first : String} (h : EndsLine first.toList) (later : String) :
    (∀ tokens, lex first = .ok tokens →
      tokens.getLast? = some ⟨.endOfFile, ⟨utf8Length first.toList, utf8Length first.toList⟩⟩) ∧
    lex (first ++ later) =
      joined ((lex first).map List.dropLast) (shiftedTokens (utf8Length first.toList) (lex later)) ∧
    ∀ tokens laterTokens, lex first = .ok tokens → lex later = .ok laterTokens →
      lex (first ++ later) = .ok (tokens.dropLast ++ laterTokens.map (.shift (utf8Length first.toList))) ∧
      parseTable (tokens.dropLast ++ laterTokens.map (.shift (utf8Length first.toList))) =
        joined (parseTable tokens) (shiftedTable (utf8Length first.toList) (parseTable laterTokens)) := by
  refine ⟨?_, lex_append h later, ?_⟩
  · intro tokens htokens
    obtain ⟨lines, -, rfl⟩ := lines_of_lex htokens
    exact List.getLast?_concat
  · intro tokens laterTokens htokens hlater
    refine ⟨?_, parseTable_append htokens hlater _⟩
    rw [lex_append h, htokens, hlater]
    rfl

theorem reading_distributes_wideLine :
    EndsLine "é # é\n".toList ∧
      lex ("é # é\n" ++ "?") = .error [.unexpectedCharacter 'é' ⟨0, 2⟩, .unexpectedCharacter '?' ⟨8, 9⟩] ∧
      EndsLine "A # é\nB when\n".toList ∧
      ∃ tokens, lex ("A # é\nB when\n" ++ "C\n(D") = .ok tokens ∧ parseTable tokens =
        .error [.unknownMode "when" ⟨9, 13⟩, .unexpectedToken .kindName .openParen ⟨16, 17⟩] := by
  have hwide : EndsLine "é # é\n".toList := by decide
  have hstrays : lex "é # é\n" = .error [.unexpectedCharacter 'é' ⟨0, 2⟩] := by decide +kernel
  have hstray : lex "?" = .error [.unexpectedCharacter '?' ⟨0, 1⟩] := by decide +kernel
  have hlines : EndsLine "A # é\nB when\n".toList := by decide
  have hfirst : lex "A # é\nB when\n" = .ok [⟨.word "A", ⟨0, 1⟩⟩, ⟨.newline, ⟨6, 7⟩⟩, ⟨.word "B", ⟨7, 8⟩⟩,
      ⟨.word "when", ⟨9, 13⟩⟩, ⟨.newline, ⟨13, 14⟩⟩, ⟨.endOfFile, ⟨14, 14⟩⟩] := by decide +kernel
  have hlater : lex "C\n(D" = .ok [⟨.word "C", ⟨0, 1⟩⟩, ⟨.newline, ⟨1, 2⟩⟩, ⟨.openParen, ⟨2, 3⟩⟩,
      ⟨.word "D", ⟨3, 4⟩⟩, ⟨.newline, ⟨4, 4⟩⟩, ⟨.endOfFile, ⟨4, 4⟩⟩] := by decide +kernel
  have hparse : parseTable [⟨.word "A", ⟨0, 1⟩⟩, ⟨.newline, ⟨6, 7⟩⟩, ⟨.word "B", ⟨7, 8⟩⟩, ⟨.word "when", ⟨9, 13⟩⟩,
      ⟨.newline, ⟨13, 14⟩⟩, ⟨.endOfFile, ⟨14, 14⟩⟩] = .error [.unknownMode "when" ⟨9, 13⟩] := by decide +kernel
  have hlaterParse : parseTable [⟨.word "C", ⟨0, 1⟩⟩, ⟨.newline, ⟨1, 2⟩⟩, ⟨.openParen, ⟨2, 3⟩⟩, ⟨.word "D", ⟨3, 4⟩⟩,
      ⟨.newline, ⟨4, 4⟩⟩, ⟨.endOfFile, ⟨4, 4⟩⟩] = .error [.unexpectedToken .kindName .openParen ⟨2, 3⟩] := by
    decide +kernel
  obtain ⟨-, hjoined, -⟩ := reading_distributes hwide "?"
  rw [hstrays, hstray] at hjoined
  obtain ⟨-, -, hread⟩ := reading_distributes hlines "C\n(D"
  obtain ⟨hlex, htable⟩ := hread _ _ hfirst hlater
  rw [hparse, hlaterParse] at htable
  exact ⟨hwide, hjoined, hlines, _, hlex, htable⟩

end KindTable
