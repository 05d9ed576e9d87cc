namespace KindTable

def splitStep (separator c : Char) : List (List Char) → List (List Char)
  | [] => if c = separator then [[], []] else [[c]]
  | piece :: rest => if c = separator then [] :: piece :: rest else (c :: piece) :: rest

def splitAt (separator : Char) (text : List Char) : List (List Char) :=
  text.foldr (splitStep separator) [[]]

theorem splitAt_cons {separator c : Char} {cs : List Char} :
    splitAt separator (c :: cs) = splitStep separator c (splitAt separator cs) := rfl

theorem splitStep_ne_nil {separator c : Char} {pieces : List (List Char)} :
    splitStep separator c pieces ≠ [] := by
  cases pieces <;> by_cases h : c = separator <;> simp [splitStep, h]

theorem splitAt_ne_nil {separator : Char} {text : List Char} : splitAt separator text ≠ [] := by
  cases text with
  | nil => simp [splitAt]
  | cons c cs => exact splitStep_ne_nil

theorem splitAt_eq_splitOn (separator : Char) (text : List Char) :
    splitAt separator text = text.splitOn separator := by
  induction text with
  | nil => simp [splitAt]
  | cons c cs ih =>
    rw [splitAt_cons, List.splitOn_cons_eq_if_modifyHead, ih]
    cases h : cs.splitOn separator with
    | nil => exact absurd h (List.splitOn_ne_nil _ _)
    | cons piece rest => by_cases hc : c = separator <;> simp [splitStep, hc]

theorem not_mem_of_mem_splitAt {separator : Char} {text : List Char} :
    ∀ piece ∈ splitAt separator text, separator ∉ piece := by
  induction text with
  | nil => simp [splitAt]
  | cons c cs ih =>
    rw [splitAt_cons]
    cases h : splitAt separator cs with
    | nil => exact absurd h splitAt_ne_nil
    | cons first rest =>
      rw [h] at ih
      obtain ⟨hfirst, hrest⟩ := List.forall_mem_cons.mp ih
      by_cases hc : c = separator
      · rw [splitStep, if_pos hc]
        exact List.forall_mem_cons.mpr ⟨by simp, List.forall_mem_cons.mpr ⟨hfirst, hrest⟩⟩
      · rw [splitStep, if_neg hc]
        exact List.forall_mem_cons.mpr ⟨by simp [Ne.symm hc, hfirst], hrest⟩

theorem not_mem_of_mem_splitOn {separator : Char} {text : List Char} :
    ∀ piece ∈ text.splitOn separator, separator ∉ piece := by
  rw [← splitAt_eq_splitOn]
  exact not_mem_of_mem_splitAt

theorem sublist_intercalate {separator : List Char} {words others : List (List Char)} (h : words.Sublist others) :
    (List.intercalate separator words).Sublist (List.intercalate separator others) := by
  induction h with
  | slnil => exact .refl _
  | @cons words others word h ih =>
    cases others with
    | nil =>
      obtain rfl := List.sublist_nil.mp h
      simp [List.intercalate]
    | cons first later =>
      rw [List.intercalate_cons_cons]
      exact ih.trans (List.sublist_append_right _ _)
  | @cons_cons words others word h ih =>
    cases others with
    | nil =>
      obtain rfl := List.sublist_nil.mp h
      exact .refl _
    | cons first later =>
      rw [List.intercalate_cons_cons]
      cases words with
      | nil => simp [List.intercalate]
      | cons next rest =>
        rw [List.intercalate_cons_cons]
        exact ih.append_left _

theorem sublist_of_mem_splitOn {separator : Char} {text piece : List Char} (h : piece ∈ text.splitOn separator) :
    piece.Sublist text := by
  have hjoined := @sublist_intercalate [separator] _ _ (List.singleton_sublist.mpr h)
  rwa [List.intercalate_splitOn, List.intercalate_singleton] at hjoined

def dropCarriageReturn (line : List Char) : List Char :=
  if line.getLast? = some '\r' then line.dropLast else line

def linesOfPieces : List (List Char) → List String
  | [] => []
  | [last] => if last.isEmpty then [] else [.ofList last]
  | piece :: rest => .ofList (dropCarriageReturn piece) :: linesOfPieces rest

def textLines (text : String) : List String := linesOfPieces (splitAt '\n' text.toList)

def joinLines (lines : List String) : String := .join (lines.map (· ++ "\n"))

theorem dropCarriageReturn_sublist (line : List Char) : (dropCarriageReturn line).Sublist line := by
  rw [dropCarriageReturn]
  split
  · exact List.dropLast_sublist line
  · exact .refl line

theorem sublist_of_mem_linesOfPieces {pieces : List (List Char)} :
    ∀ line ∈ linesOfPieces pieces, ∃ piece ∈ pieces, line.toList.Sublist piece := by
  fun_induction linesOfPieces pieces with
  | case1 => exact fun line h => nomatch h
  | case2 last hempty => exact fun line h => nomatch h
  | case3 last hfilled =>
    intro line h
    obtain rfl := List.mem_singleton.mp h
    have htext : (String.ofList last).toList = last := String.toList_ofList
    exact ⟨last, List.mem_cons_self, htext.symm ▸ .refl last⟩
  | case4 piece rest hmore ih =>
    intro line h
    rcases List.mem_cons.mp h with rfl | h
    · refine ⟨piece, List.mem_cons_self, ?_⟩
      rw [String.toList_ofList]
      exact dropCarriageReturn_sublist piece
    · obtain ⟨other, hother, hline⟩ := ih line h
      exact ⟨other, List.mem_cons_of_mem _ hother, hline⟩

theorem not_mem_of_mem_textLines {text : String} : ∀ line ∈ textLines text, '\n' ∉ line.toList := by
  intro line h hfeed
  obtain ⟨piece, hpiece, hline⟩ := sublist_of_mem_linesOfPieces line h
  exact not_mem_of_mem_splitAt piece hpiece (hline.subset hfeed)

theorem toList_joinLines_cons (line : String) (rest : List String) :
    (joinLines (line :: rest)).toList = line.toList ++ '\n' :: (joinLines rest).toList := by
  simp [joinLines, String.join_cons]

theorem splitAt_joinLines {lines : List String} (h : ∀ line ∈ lines, '\n' ∉ line.toList) :
    splitAt '\n' (joinLines lines).toList = lines.map String.toList ++ [[]] := by
  induction lines with
  | nil => rfl
  | cons line rest ih =>
    obtain ⟨hline, hrest⟩ := List.forall_mem_cons.mp h
    have hsplit := ih hrest
    rw [splitAt_eq_splitOn] at hsplit ⊢
    rw [toList_joinLines_cons, List.splitOn_append_cons_self_of_not_mem hline, hsplit]
    rfl

end KindTable
