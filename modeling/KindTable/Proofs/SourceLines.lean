import KindTable.Proofs.Recovery
import KindTable.Source.Lexer

namespace KindTable

def Lexeme.isToken : Lexeme → Bool
  | token _ => true
  | stray _ _ => false

def lineLexemes (offset : Nat) : List Char → List Lexeme
  | [] => []
  | c :: cs =>
    if c = '#' then []
    else if isLayout c then lineLexemes (offset + c.utf8Size) cs
    else if c = '(' then
      .token ⟨.openParen, ⟨offset, offset + c.utf8Size⟩⟩ :: lineLexemes (offset + c.utf8Size) cs
    else if c = ')' then
      .token ⟨.closeParen, ⟨offset, offset + c.utf8Size⟩⟩ :: lineLexemes (offset + c.utf8Size) cs
    else if isWordChar c then
      .token ⟨.word (.ofList (c :: cs.takeWhile isWordChar)),
          ⟨offset, offset + utf8Length (c :: cs.takeWhile isWordChar)⟩⟩ ::
        lineLexemes (offset + utf8Length (c :: cs.takeWhile isWordChar)) (cs.dropWhile isWordChar)
    else .stray c ⟨offset, offset + c.utf8Size⟩ :: lineLexemes (offset + c.utf8Size) cs
termination_by text => text.length
decreasing_by
  all_goals first | exact Nat.lt_succ_of_le (length_dropWhile_le _ _) | simp

theorem run_append_dropWhile (p : Char → Bool) (c : Char) (cs : List Char) :
    c :: cs.takeWhile p ++ cs.dropWhile p = c :: cs := by
  rw [List.cons_append, List.takeWhile_append_dropWhile]

theorem takeWhile_append_stop {p : Char → Bool} {xs tail : List Char} (h : ∀ c, tail.head? = some c → p c = false) :
    (xs ++ tail).takeWhile p = xs.takeWhile p := by
  induction xs with
  | nil =>
    cases tail with
    | nil => rfl
    | cons c tail => simp [h c rfl]
  | cons x xs ih => simp only [List.cons_append, List.takeWhile_cons, ih]

theorem dropWhile_append_stop {p : Char → Bool} {xs tail : List Char} (h : ∀ c, tail.head? = some c → p c = false) :
    (xs ++ tail).dropWhile p = xs.dropWhile p ++ tail := by
  induction xs with
  | nil =>
    cases tail with
    | nil => rfl
    | cons c tail => simp [h c rfl]
  | cons x xs ih =>
    simp only [List.cons_append, List.dropWhile_cons, ih]
    split <;> rfl

-- The induction follows the line alone; what stands behind it stays outside, since every run stops at its line feed.
theorem lexFrom_line {line tail : List Char} (offset : Nat) (occupied : Bool) (h : '\n' ∉ line)
    (htail : ∀ c, tail.head? = some c → c = '\n') :
    lexFrom offset occupied (line ++ tail) = lineLexemes offset line ++
      lexFrom (offset + utf8Length line) (occupied || (lineLexemes offset line).any Lexeme.isToken) tail := by
  fun_induction lineLexemes offset line generalizing occupied with
  | case1 offset => simp
  | case2 offset cs =>
    have hcs : ∀ a ∈ cs, (a != '\n') = true := by
      intro a ha
      simpa using fun e : a = '\n' => h (List.mem_cons_of_mem _ (e ▸ ha))
    have hstop : ∀ c, tail.head? = some c → (c != '\n') = false := by
      intro c hc
      simp [htail c hc]
    have htake : (cs ++ tail).takeWhile (· != '\n') = cs := by
      rw [List.takeWhile_append_of_pos hcs, ← List.nil_append tail, takeWhile_append_stop hstop]
      simp
    have hdrop : (cs ++ tail).dropWhile (· != '\n') = tail := by
      rw [List.dropWhile_append_of_pos hcs, ← List.nil_append tail, dropWhile_append_stop hstop]
      simp
    rw [List.cons_append, lexFrom, if_pos rfl, htake, hdrop]
    simp [Nat.add_assoc]
  | case3 offset c cs hc hlayout ih =>
    have hfeed : c ≠ '\n' := fun e => h (e ▸ List.mem_cons_self)
    rw [List.cons_append, lexFrom, if_neg hc, if_neg hfeed, if_pos hlayout,
      ih occupied fun hmem => h (List.mem_cons_of_mem _ hmem)]
    simp [Nat.add_assoc]
  | case4 offset cs hc hlayout ih =>
    rw [List.cons_append, lexFrom, if_neg hc, if_neg (by decide), if_neg hlayout, if_pos rfl,
      ih true fun hmem => h (List.mem_cons_of_mem _ hmem)]
    simp [Nat.add_assoc, Lexeme.isToken]
  | case5 offset cs hc hlayout hopen ih =>
    rw [List.cons_append, lexFrom, if_neg hc, if_neg (by decide), if_neg hlayout, if_neg hopen, if_pos rfl,
      ih true fun hmem => h (List.mem_cons_of_mem _ hmem)]
    simp [Nat.add_assoc, Lexeme.isToken]
  | case6 offset c cs hc hlayout hopen hclose hword ih =>
    have hfeed : c ≠ '\n' := fun e => h (e ▸ List.mem_cons_self)
    have hstop : ∀ c, tail.head? = some c → isWordChar c = false := by
      intro c hc
      rw [htail c hc]
      rfl
    have hrest : '\n' ∉ cs.dropWhile isWordChar := fun hmem =>
      h (List.mem_cons_of_mem _ ((List.dropWhile_sublist _).subset hmem))
    have hlength : utf8Length (c :: cs) =
        utf8Length (c :: cs.takeWhile isWordChar) + utf8Length (cs.dropWhile isWordChar) := by
      rw [← utf8Length_append, run_append_dropWhile]
    rw [List.cons_append, lexFrom, if_neg hc, if_neg hfeed, if_neg hlayout, if_neg hopen, if_neg hclose,
      if_pos hword, takeWhile_append_stop hstop, dropWhile_append_stop hstop, hlength]
    change _ :: lexFrom (offset + utf8Length (c :: cs.takeWhile isWordChar)) true (_ ++ tail) = _
    rw [ih true hrest]
    simp [Nat.add_assoc, Lexeme.isToken]
  | case7 offset c cs hc hlayout hopen hclose hword ih =>
    have hfeed : c ≠ '\n' := fun e => h (e ▸ List.mem_cons_self)
    rw [List.cons_append, lexFrom, if_neg hc, if_neg hfeed, if_neg hlayout, if_neg hopen, if_neg hclose,
      if_neg hword, ih occupied fun hmem => h (List.mem_cons_of_mem _ hmem)]
    simp [Nat.add_assoc, Lexeme.isToken]

def linesLexemes (offset : Nat) : List (List Char) → List (List Lexeme)
  | [] => []
  | [last] =>
    let stop := offset + utf8Length last
    [lineLexemes offset last ++ lineEnd ((lineLexemes offset last).any Lexeme.isToken) stop stop]
  | line :: rest =>
    let stop := offset + utf8Length line
    (lineLexemes offset line ++ lineEnd ((lineLexemes offset line).any Lexeme.isToken) stop (stop + 1)) ::
      linesLexemes (stop + 1) rest

theorem linesLexemes_cons {offset : Nat} {line : List Char} {rest : List (List Char)} (h : rest ≠ []) :
    linesLexemes offset (line :: rest) =
      (lineLexemes offset line ++ lineEnd ((lineLexemes offset line).any Lexeme.isToken)
        (offset + utf8Length line) (offset + utf8Length line + 1)) ::
      linesLexemes (offset + utf8Length line + 1) rest := by
  cases rest with
  | nil => exact absurd rfl h
  | cons next rest => rfl

theorem lexFrom_eq_lines (offset : Nat) (text : List Char) :
    lexFrom offset false text = (linesLexemes offset (text.splitOn '\n')).flatten ++
      [.token ⟨.endOfFile, ⟨offset + utf8Length text, offset + utf8Length text⟩⟩] := by
  by_cases h : '\n' ∈ text
  · obtain ⟨line, rest, htext, hline⟩ := List.eq_append_cons_of_mem h
    have hshorter : rest.length < text.length := by
      rw [htext, List.length_append, List.length_cons]
      omega
    have hstart : ∀ c, ('\n' :: rest).head? = some c → c = '\n' := by simp
    rw [htext, lexFrom_line offset false hline hstart, List.splitOn_append_cons_self_of_not_mem hline]
    have hfeed (occupied : Bool) : lexFrom (offset + utf8Length line) occupied ('\n' :: rest) =
        lineEnd occupied (offset + utf8Length line) (offset + utf8Length line + 1) ++
          lexFrom (offset + utf8Length line + 1) false rest := by
      rw [lexFrom, if_neg (by decide), if_pos rfl]
      rfl
    have hlength : offset + utf8Length (line ++ '\n' :: rest) = offset + utf8Length line + 1 + utf8Length rest := by
      rw [utf8Length_append, utf8Length_cons, Nat.add_assoc, Nat.add_assoc]
      rfl
    rw [hfeed, lexFrom_eq_lines _ rest, linesLexemes_cons (List.splitOn_ne_nil _ _), hlength]
    simp
  · have hend : ∀ c, ([] : List Char).head? = some c → c = '\n' := by simp
    rw [← List.append_nil text, lexFrom_line offset false h hend, List.append_nil, List.splitOn_eq_singleton h]
    simp [linesLexemes, lexFrom]
termination_by text.length

theorem map_toExcept_eq_iff {lexemes : List Lexeme} {tokens : List Token} :
    lexemes.map Lexeme.toExcept = tokens.map .ok ↔ lexemes = tokens.map .token := by
  constructor
  · intro h
    induction lexemes generalizing tokens with
    | nil => simpa using h
    | cons l rest ih =>
      cases tokens with
      | nil => simp at h
      | cons t tokens =>
        simp only [List.map_cons, List.cons.injEq] at h
        cases l with
        | token t' =>
          obtain rfl : t' = t := by simpa [Lexeme.toExcept] using h.1
          rw [ih h.2, List.map_cons]
        | stray c span => simp [Lexeme.toExcept] at h
  · rintro rfl
    rw [List.map_map]
    rfl

theorem exists_pieces_of_flatten {α β : Type} {f : α → β} {pieces : List (List β)} {as : List α}
    (h : pieces.flatten = as.map f) : ∃ parts : List (List α), pieces = parts.map (·.map f) ∧ as = parts.flatten := by
  induction pieces generalizing as with
  | nil => exact ⟨[], rfl, by simpa using h.symm⟩
  | cons piece rest ih =>
    rw [List.flatten_cons] at h
    obtain ⟨first, later, rfl, hfirst, hlater⟩ := List.map_eq_append_iff.mp h.symm
    obtain ⟨parts, rfl, rfl⟩ := ih hlater.symm
    exact ⟨first :: parts, by simp [hfirst], rfl⟩

theorem lex_eq_ok_iff {source : String} {tokens : List Token} :
    lex source = .ok tokens ↔ ∃ lines : List (List Token),
      linesLexemes 0 (source.toList.splitOn '\n') = lines.map (·.map Lexeme.token) ∧
      tokens = lines.flatten ++ [⟨.endOfFile, ⟨utf8Length source.toList, utf8Length source.toList⟩⟩] := by
  rw [lex, collect_eq_ok_iff, map_toExcept_eq_iff, lexFrom_eq_lines, Nat.zero_add]
  constructor
  · intro h
    obtain ⟨body, ends, rfl, hbody, hends⟩ := List.map_eq_append_iff.mp h.symm
    obtain ⟨lines, hlines, rfl⟩ := exists_pieces_of_flatten hbody.symm
    obtain ⟨last, rfl, hlast⟩ := List.map_eq_singleton_iff.mp hends
    rw [Lexeme.token.inj hlast]
    exact ⟨lines, hlines, rfl⟩
  · rintro ⟨lines, hlines, rfl⟩
    rw [hlines]
    simp [List.map_flatten]

end KindTable
