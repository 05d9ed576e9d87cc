import Mathlib.Data.List.Basic
import KindTable.Text.Diff
import KindTable.Text.Numeral

namespace KindTable

namespace DiffLine

def number : DiffLine → Nat
  | old number _ => number
  | new number _ => number

def line : DiffLine → String
  | old _ line => line
  | new _ line => line

def swap : DiffLine → DiffLine
  | old number line => new number line
  | new number line => old number line

inductive Before : DiffLine → DiffLine → Prop where
  | earlier {r s : DiffLine} : r.number < s.number → Before r s
  | replaced {number : Nat} {before after : String} : Before (old number before) (new number after)

def ofSign? (sign : Char) (number : Nat) (line : String) : Option DiffLine :=
  if sign = '-' then some (old number line) else if sign = '+' then some (new number line) else none

def read? : List Char → Option DiffLine
  | [] => none
  | sign :: rest =>
    match readNumeral (rest.dropWhile (· == ' ')) with
    | (number, ' ' :: '|' :: ' ' :: line) => ofSign? sign number (.ofList line)
    | _ => none

theorem dropWhile_padLeft (width n : Nat) (rest : List Char) :
    ((padLeft width (toString n)).toList ++ rest).dropWhile (· == ' ') = (toString n).toList ++ rest := by
  have hblanks : ∀ c ∈ List.replicate (width - (toString n).length) ' ', (c == ' ') = true := by
    intro c hc
    simp [List.eq_of_mem_replicate hc]
  rw [padLeft, blanks, String.toList_append, String.toList_ofList, List.append_assoc,
    List.dropWhile_append_of_pos hblanks]
  cases hdigits : (toString n).toList with
  | nil => exact absurd hdigits (toList_toString_ne_nil n)
  | cons c cs =>
    have hdigit : c.isDigit = true := isDigit_of_mem_toString c (hdigits ▸ List.mem_cons_self)
    apply List.dropWhile_cons_of_neg
    rintro hblank
    obtain rfl := beq_iff_eq.mp hblank
    cases hdigit

theorem read?_record (sign : Char) (n : Nat) (line : String) :
    read? (sign :: ((padLeft 4 (toString n)).toList ++ " | ".toList ++ line.toList)) = ofSign? sign n line := by
  have hbar : ∀ c ∈ (" | ".toList ++ line.toList).head?, c.isDigit = false := by
    intro c hc
    cases hc
    rfl
  rw [read?, List.append_assoc, dropWhile_padLeft, readNumeral_toString n hbar]
  change ofSign? sign n (.ofList line.toList) = _
  rw [String.ofList_toList]

theorem read?_text (r : DiffLine) : read? r.text.toList = some r := by
  cases r with
  | old number line =>
    have hread := read?_record '-' number line
    simpa [text, ofSign?] using hread
  | new number line =>
    have hread := read?_record '+' number line
    simpa [text, ofSign?] using hread

end DiffLine

def readDiff (diff : String) : Option (List DiffLine) := (splitAt '\n' diff.toList).dropLast.mapM DiffLine.read?

def changeAt (number : Nat) (before after : Option String) : List DiffLine :=
  if before = after then [] else (before.map (.old number)).toList ++ (after.map (.new number)).toList

theorem flatMap_range_succ {α : Type} (count : Nat) (f : Nat → List α) :
    (List.range (count + 1)).flatMap f = f 0 ++ (List.range count).flatMap fun i => f (i + 1) := by
  rw [List.range_succ_eq_map, List.flatMap_cons, List.flatMap_map]

theorem diffLines_eq (number : Nat) (old new : List String) :
    diffLines number old new =
      (List.range (max old.length new.length)).flatMap fun i => changeAt (number + i) old[i]? new[i]? := by
  fun_induction diffLines number old new with
  | case1 => rfl
  | case2 number a as ih =>
    rw [ih, List.length_cons, List.length_nil, Nat.max_zero, Nat.max_zero, flatMap_range_succ]
    simp [changeAt, Nat.add_assoc, Nat.add_comm 1]
  | case3 number b bs ih =>
    rw [ih, List.length_cons, List.length_nil, Nat.zero_max, Nat.zero_max, flatMap_range_succ]
    simp [changeAt, Nat.add_assoc, Nat.add_comm 1]
  | case4 number as b bs ih =>
    rw [ih, List.length_cons, List.length_cons, Nat.succ_max_succ, flatMap_range_succ]
    simp [changeAt, Nat.add_assoc, Nat.add_comm 1]
  | case5 number a as b bs hne ih =>
    rw [ih, List.length_cons, List.length_cons, Nat.succ_max_succ, flatMap_range_succ]
    simp [changeAt, hne, Nat.add_assoc, Nat.add_comm 1]

section

variable {number n : Nat} {before after : Option String} {old new : List String} {r s : DiffLine} {line : String}

theorem number_of_mem_changeAt (h : r ∈ changeAt n before after) : r.number = n := by
  rw [changeAt] at h
  split at h
  · cases h
  · rcases List.mem_append.mp h with h | h
    · obtain ⟨line, -, rfl⟩ := Option.map_eq_some_iff.mp (Option.mem_toList.mp h)
      rfl
    · obtain ⟨line, -, rfl⟩ := Option.map_eq_some_iff.mp (Option.mem_toList.mp h)
      rfl

theorem old_mem_changeAt_iff : .old n line ∈ changeAt n before after ↔ before = some line ∧ after ≠ some line := by
  rw [changeAt]
  split
  · rename_i hsame
    simp [hsame]
  · rename_i hne
    simp only [List.mem_append, Option.mem_toList, Option.map_eq_some_iff, DiffLine.old.injEq, reduceCtorEq, and_false,
      exists_false, or_false, true_and, exists_eq_right]
    constructor
    · rintro rfl
      exact ⟨rfl, fun hsame => hne hsame.symm⟩
    · exact fun h => h.1

theorem mem_changeAt_swap : r ∈ changeAt n after before ↔ r.swap ∈ changeAt n before after := by
  by_cases hsame : before = after
  · simp [changeAt, hsame]
  · rw [changeAt, changeAt, if_neg hsame, if_neg (Ne.symm hsame)]
    cases r <;> simp [DiffLine.swap, or_comm]

theorem map_number_changeAt : (changeAt n after before).map (·.number) = (changeAt n before after).map (·.number) := by
  by_cases hsame : before = after
  · simp [changeAt, hsame]
  · rw [changeAt, changeAt, if_neg hsame, if_neg (Ne.symm hsame)]
    cases before <;> cases after <;> rfl

theorem exists_mem_changeAt_iff : (∃ r, r ∈ changeAt n before after) ↔ before ≠ after := by
  rw [changeAt]
  split
  · simp_all
  · rename_i hne
    cases before <;> cases after <;> simp_all

theorem pairwise_changeAt : (changeAt n before after).Pairwise DiffLine.Before := by
  rw [changeAt]
  split
  · exact .nil
  · cases before with
    | none => cases after <;> simp
    | some a =>
      cases after with
      | none => simp
      | some b => simp [DiffLine.Before.replaced]

theorem mem_diffLines_iff : r ∈ diffLines number old new ↔ ∃ i, r ∈ changeAt (number + i) old[i]? new[i]? := by
  rw [diffLines_eq, List.mem_flatMap]
  constructor
  · rintro ⟨i, -, hr⟩
    exact ⟨i, hr⟩
  · rintro ⟨i, hr⟩
    refine ⟨i, ?_, hr⟩
    rw [List.mem_range]
    by_contra hi
    have hold : old[i]? = none := List.getElem?_eq_none (by omega)
    have hnew : new[i]? = none := List.getElem?_eq_none (by omega)
    rw [hold, hnew, changeAt, if_pos rfl] at hr
    cases hr

theorem old_mem_diffLines_iff : .old n line ∈ diffLines number old new ↔
    ∃ i, n = number + i ∧ old[i]? = some line ∧ new[i]? ≠ some line := by
  rw [mem_diffLines_iff]
  constructor
  · rintro ⟨i, h⟩
    obtain rfl : n = number + i := number_of_mem_changeAt h
    exact ⟨i, rfl, old_mem_changeAt_iff.mp h⟩
  · rintro ⟨i, rfl, h⟩
    exact ⟨i, old_mem_changeAt_iff.mpr h⟩

theorem mem_diffLines_swap : r ∈ diffLines number new old ↔ r.swap ∈ diffLines number old new := by
  rw [mem_diffLines_iff, mem_diffLines_iff]
  exact exists_congr fun i => mem_changeAt_swap

theorem map_number_diffLines :
    (diffLines number new old).map (·.number) = (diffLines number old new).map (·.number) := by
  rw [diffLines_eq, diffLines_eq, List.map_flatMap, List.map_flatMap, Nat.max_comm]
  simp only [map_number_changeAt]

theorem pairwise_diffLines : (diffLines number old new).Pairwise DiffLine.Before := by
  rw [diffLines_eq, List.pairwise_flatMap]
  refine ⟨fun i _ => pairwise_changeAt, ?_⟩
  refine List.pairwise_lt_range.imp ?_
  intro i j hlt r hr s hs
  apply DiffLine.Before.earlier
  rw [number_of_mem_changeAt hr, number_of_mem_changeAt hs]
  exact Nat.add_lt_add_left hlt number

theorem exists_number_iff {i : Nat} :
    (∃ r ∈ diffLines number old new, r.number = number + i) ↔ old[i]? ≠ new[i]? := by
  rw [← @exists_mem_changeAt_iff (number + i)]
  constructor
  · rintro ⟨r, hr, hnumber⟩
    obtain ⟨j, hj⟩ := mem_diffLines_iff.mp hr
    have hsame := number_of_mem_changeAt hj
    obtain rfl : i = j := by omega
    exact ⟨r, hj⟩
  · rintro ⟨r, hr⟩
    exact ⟨r, mem_diffLines_iff.mpr ⟨i, hr⟩, number_of_mem_changeAt hr⟩

theorem diffLines_eq_nil_iff : diffLines number old new = [] ↔ old = new := by
  constructor
  · intro h
    apply List.ext_getElem?
    intro i
    have hnumber := (@exists_number_iff number old new i).not
    rw [h, not_not] at hnumber
    exact hnumber.mp (by simp)
  · rintro rfl
    rw [List.eq_nil_iff_forall_not_mem]
    intro r hr
    obtain ⟨i, hi⟩ := mem_diffLines_iff.mp hr
    rw [changeAt, if_pos rfl] at hi
    cases hi

end

def applyChanges : List DiffLine → List String → List String
  | [], lines => lines
  | .old n _ :: .new m line :: rest, lines =>
    if n = m then applyChanges rest (lines.set (n - 1) line)
    else applyChanges (.new m line :: rest) (lines.take (n - 1))
  | .old n _ :: rest, lines => applyChanges rest (lines.take (n - 1))
  | .new _ line :: rest, lines => applyChanges rest (lines ++ [line])

theorem applyChanges_added (before new : List String) (number : Nat) :
    applyChanges (diffLines number [] new) before = before ++ new := by
  induction new generalizing before number with
  | nil => simp [diffLines, applyChanges]
  | cons b bs ih => rw [diffLines, applyChanges, ih, List.append_assoc, List.singleton_append]

theorem applyChanges_cons_old (n number : Nat) (line : String) (old lines : List String) :
    applyChanges (.old n line :: diffLines number old []) lines =
      applyChanges (diffLines number old []) (lines.take (n - 1)) := by
  cases old with
  | nil => simp [diffLines, applyChanges]
  | cons a as => simp [diffLines, applyChanges]

theorem applyChanges_removed {before : List String} {number : Nat} (h : before.length < number) (old : List String) :
    applyChanges (diffLines number old []) before = before := by
  induction old generalizing number with
  | nil => simp [diffLines, applyChanges]
  | cons a as ih =>
    have hkept : before.take (number - 1) = before := List.take_of_length_le (by omega)
    rw [diffLines, applyChanges_cons_old, hkept, ih (Nat.lt_succ_of_lt h)]

theorem applyChanges_diffLines (before old new : List String) :
    applyChanges (diffLines (before.length + 1) old new) (before ++ old) = before ++ new := by
  induction old generalizing before new with
  | nil => rw [List.append_nil, applyChanges_added]
  | cons a as ih =>
    cases new with
    | nil =>
      have hkept : (before ++ a :: as).take (before.length + 1 - 1) = before := by simp
      rw [diffLines, applyChanges_cons_old, hkept, applyChanges_removed (by omega), List.append_nil]
    | cons b bs =>
      have hrest := ih (before ++ [b]) bs
      rw [List.length_append, List.length_singleton, List.append_assoc, List.singleton_append, List.append_assoc,
        List.singleton_append] at hrest
      rw [diffLines]
      split
      · rename_i hsame
        rw [hsame]
        exact hrest
      · have hset : (before ++ a :: as).set (before.length + 1 - 1) b = before ++ b :: as := by simp
        rw [applyChanges, if_pos rfl, hset]
        exact hrest

theorem not_mem_padLeft {width n : Nat} : '\n' ∉ (padLeft width (toString n)).toList := by
  rw [padLeft, blanks, String.toList_append, String.toList_ofList, List.mem_append]
  rintro (h | h)
  · cases List.eq_of_mem_replicate h
  · cases isDigit_of_mem_toString _ h

theorem DiffLine.not_mem_text {r : DiffLine} (h : '\n' ∉ r.line.toList) : '\n' ∉ r.text.toList := by
  cases r <;> simp only [DiffLine.text, String.toList_append, List.mem_append, not_or]
  case old => exact ⟨⟨⟨by decide, not_mem_padLeft⟩, by decide⟩, h⟩
  case new => exact ⟨⟨⟨by decide, not_mem_padLeft⟩, by decide⟩, h⟩

theorem not_mem_of_mem_diffLines {old new : List String} (hold : ∀ line ∈ old, '\n' ∉ line.toList)
    (hnew : ∀ line ∈ new, '\n' ∉ line.toList) {number : Nat} :
    ∀ r ∈ diffLines number old new, '\n' ∉ r.line.toList := by
  intro r hr
  cases r with
  | old n line =>
    obtain ⟨i, -, hline, -⟩ := old_mem_diffLines_iff.mp hr
    exact hold line (List.mem_of_getElem? hline)
  | new n line =>
    obtain ⟨i, -, hline, -⟩ := old_mem_diffLines_iff.mp (mem_diffLines_swap.mp hr)
    exact hnew line (List.mem_of_getElem? hline)

theorem splitAt_lineDiff (old new : String) : splitAt '\n' (lineDiff old new).toList =
    (diffLines 1 (textLines old) (textLines new)).map (·.text.toList) ++ [[]] := by
  rw [lineDiff, splitAt_joinLines, List.map_map]
  · rfl
  · intro line hline
    obtain ⟨r, hr, rfl⟩ := List.mem_map.mp hline
    exact r.not_mem_text (not_mem_of_mem_diffLines not_mem_of_mem_textLines not_mem_of_mem_textLines r hr)

theorem mapM_read? (records : List DiffLine) : (records.map (·.text.toList)).mapM DiffLine.read? = some records := by
  induction records with
  | nil => rfl
  | cons r rest ih =>
    rw [List.map_cons, List.mapM_cons, r.read?_text, ih]
    rfl

theorem readDiff_lineDiff (old new : String) :
    readDiff (lineDiff old new) = some (diffLines 1 (textLines old) (textLines new)) := by
  rw [readDiff, splitAt_lineDiff, List.dropLast_concat, mapM_read?]

theorem lineDiff_eq_empty_iff {old new : String} : lineDiff old new = "" ↔ textLines old = textLines new := by
  rw [← @diffLines_eq_nil_iff 1]
  constructor
  · intro h
    have hread := readDiff_lineDiff old new
    rw [h] at hread
    exact (Option.some.inj hread).symm
  · intro h
    rw [lineDiff, h]
    rfl

structure EditScript (old new : List String) (records : List DiffLine) : Prop where
  ordered : records.Pairwise DiffLine.Before
  removed : ∀ number line, .old number line ∈ records ↔
    ∃ i, number = i + 1 ∧ old[i]? = some line ∧ new[i]? ≠ some line
  added : ∀ number line, .new number line ∈ records ↔
    ∃ i, number = i + 1 ∧ new[i]? = some line ∧ old[i]? ≠ some line
  numbers : ∀ i, (∃ r ∈ records, r.number = i + 1) ↔ old[i]? ≠ new[i]?
  applied : applyChanges records old = new

theorem editScript_diffLines (old new : List String) : EditScript old new (diffLines 1 old new) := by
  constructor
  case ordered => exact pairwise_diffLines
  case removed =>
    intro number line
    simp only [old_mem_diffLines_iff, Nat.add_comm 1]
  case added =>
    intro number line
    rw [mem_diffLines_swap, DiffLine.swap]
    simp only [old_mem_diffLines_iff, Nat.add_comm 1]
  case numbers =>
    intro i
    rw [Nat.add_comm i]
    exact exists_number_iff
  case applied => exact applyChanges_diffLines [] old new

theorem lineDiff_is_editScript (old new : String) :
    ∃ records others,
      splitAt '\n' (lineDiff old new).toList = records.map (·.text.toList) ++ [[]] ∧
      readDiff (lineDiff old new) = some records ∧
      EditScript (textLines old) (textLines new) records ∧
      readDiff (lineDiff new old) = some others ∧
      others.map (·.number) = records.map (·.number) ∧
      ∀ r, r ∈ others ↔ r.swap ∈ records :=
  ⟨_, _, splitAt_lineDiff old new, readDiff_lineDiff old new, editScript_diffLines _ _, readDiff_lineDiff new old,
    map_number_diffLines, fun _ => mem_diffLines_swap⟩

end KindTable
