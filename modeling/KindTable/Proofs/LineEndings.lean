import KindTable.Text.Split

namespace KindTable

inductive IsEnding : List Char → List Char → Prop where
  | feed {line : List Char} : line.getLast? ≠ some '\r' → IsEnding line ['\n']
  | returnFeed {line : List Char} : IsEnding line ['\r', '\n']

inductive Lined : List String → List Char → Prop where
  | nil : Lined [] []
  | unfinished {line : String} : line ≠ "" → '\n' ∉ line.toList → Lined [line] line.toList
  | line {line : String} {rest : List String} {ending text : List Char} : '\n' ∉ line.toList →
    IsEnding line.toList ending → Lined rest text → Lined (line :: rest) (line.toList ++ ending ++ text)

theorem Lined.ofList {line ending text : List Char} {rest : List String} (hline : '\n' ∉ line)
    (hending : IsEnding line ending) (h : Lined rest text) : Lined (.ofList line :: rest) (line ++ ending ++ text) := by
  have hlined := @Lined.line (.ofList line) rest ending text
  rw [String.toList_ofList] at hlined
  exact hlined hline hending h

theorem linesOfPieces_cons {piece : List Char} {rest : List (List Char)} (h : rest ≠ []) :
    linesOfPieces (piece :: rest) = .ofList (dropCarriageReturn piece) :: linesOfPieces rest := by
  rw [linesOfPieces]
  exact h

theorem dropCarriageReturn_ending {line ending : List Char} (hfeed : '\n' ∉ line) (h : IsEnding line ending) :
    ∃ piece, line ++ ending = piece ++ ['\n'] ∧ '\n' ∉ piece ∧ dropCarriageReturn piece = line := by
  cases h with
  | feed hlast => exact ⟨line, rfl, hfeed, if_neg hlast⟩
  | returnFeed => exact ⟨line ++ ['\r'], by simp, by simpa using hfeed, by simp [dropCarriageReturn]⟩

theorem lines_of_lined {lines : List String} {text : List Char} (h : Lined lines text) :
    linesOfPieces (splitAt '\n' text) = lines := by
  induction h with
  | nil => rfl
  | unfinished hfilled hfeed =>
    rw [splitAt_eq_splitOn, List.splitOn_eq_singleton hfeed, linesOfPieces, if_neg (by simpa using hfilled),
      String.ofList_toList]
  | @line line rest ending text hfeed hending _ ih =>
    obtain ⟨piece, htext, hpiece, hdropped⟩ := dropCarriageReturn_ending hfeed hending
    rw [htext, List.append_assoc, List.singleton_append, splitAt_eq_splitOn,
      List.splitOn_append_cons_self_of_not_mem hpiece, ← splitAt_eq_splitOn, linesOfPieces_cons splitAt_ne_nil, ih,
      hdropped, String.ofList_toList]

theorem exists_ending (piece : List Char) :
    ∃ ending, IsEnding (dropCarriageReturn piece) ending ∧
      piece ++ ['\n'] = dropCarriageReturn piece ++ ending := by
  by_cases hlast : piece.getLast? = some '\r'
  · obtain ⟨line, rfl⟩ := List.getLast?_eq_some_iff.mp hlast
    exact ⟨['\r', '\n'], .returnFeed, by simp [dropCarriageReturn]⟩
  · refine ⟨['\n'], ?_, ?_⟩
    · rw [dropCarriageReturn, if_neg hlast]
      exact .feed hlast
    · rw [dropCarriageReturn, if_neg hlast]

theorem lined_of_pieces {pieces : List (List Char)} (h : ∀ piece ∈ pieces, '\n' ∉ piece) :
    Lined (linesOfPieces pieces) (['\n'].intercalate pieces) := by
  fun_induction linesOfPieces pieces with
  | case1 => exact .nil
  | case2 last hempty =>
    obtain rfl := List.isEmpty_iff.mp hempty
    exact .nil
  | case3 last hfilled =>
    have hlined : Lined [.ofList last] (String.ofList last).toList := by
      apply Lined.unfinished
      · simpa using hfilled
      · rw [String.toList_ofList]
        exact h last List.mem_cons_self
    rw [List.intercalate_singleton]
    rwa [String.toList_ofList] at hlined
  | case4 piece rest hmore ih =>
    obtain ⟨hpiece, hrest⟩ := List.forall_mem_cons.mp h
    obtain ⟨ending, hending, htext⟩ := exists_ending piece
    have hline : '\n' ∉ dropCarriageReturn piece :=
      fun hfeed => hpiece ((dropCarriageReturn_sublist piece).subset hfeed)
    cases rest with
    | nil => exact (hmore rfl).elim
    | cons next later =>
      rw [List.intercalate_cons_cons, htext]
      exact .ofList hline hending (ih hrest)

theorem lined_iff {lines : List String} {text : String} : Lined lines text.toList ↔ textLines text = lines := by
  constructor
  · exact lines_of_lined
  · rintro rfl
    have hlined := lined_of_pieces (@not_mem_of_mem_splitAt '\n' text.toList)
    rwa [splitAt_eq_splitOn, List.intercalate_splitOn, ← splitAt_eq_splitOn] at hlined

theorem textLines_join {lines : List String} {ending : String}
    (h : ∀ line ∈ lines, '\n' ∉ line.toList ∧ IsEnding line.toList ending.toList) :
    textLines (.join (lines.map (· ++ ending))) = lines := by
  rw [← lined_iff]
  induction lines with
  | nil => exact .nil
  | cons line rest ih =>
    obtain ⟨⟨hfeed, hending⟩, hrest⟩ := List.forall_mem_cons.mp h
    have hlined := Lined.line hfeed hending (ih hrest)
    rwa [List.map_cons, String.join_cons, String.toList_append, String.toList_append]

theorem textLines_joinLines {lines : List String}
    (h : ∀ line ∈ lines, '\n' ∉ line.toList ∧ line.toList.getLast? ≠ some '\r') : textLines (joinLines lines) = lines :=
  textLines_join fun line hline => ⟨(h line hline).1, .feed (h line hline).2⟩

end KindTable
