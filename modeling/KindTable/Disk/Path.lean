import Mathlib.Data.List.TakeWhile
import KindTable.Disk.Place

namespace KindTable

variable {directory name : String}

theorem joinPath_cases (directory name : String) :
    directory = "" ∧ joinPath directory name = name ∨
      directory ≠ "" ∧ ((∃ start, directory = start ++ "/" ∧ joinPath directory name = start ++ "/" ++ name) ∨
        joinPath directory name = directory ++ "/" ++ name) := by
  by_cases hempty : directory = ""
  · left
    subst hempty
    exact ⟨rfl, by simp [joinPath]⟩
  · refine .inr ⟨hempty, ?_⟩
    by_cases hlast : directory.toList.getLast? = some '/'
    · left
      obtain ⟨start, hstart⟩ := List.getLast?_eq_some_iff.mp hlast
      have hdirectory : directory = .ofList start ++ "/" := by
        rw [← String.toList_inj, hstart]
        simp
      refine ⟨.ofList start, hdirectory, ?_⟩
      rw [joinPath, if_pos (by simp [hlast]), ← hdirectory]
    · right
      rw [joinPath, if_neg (by simp [hempty, hlast])]

namespace Disk

variable {d : Disk} {path other : String} {names : List String}

theorem pathNames_eq (path : String) : pathNames path = (path.toList.splitOn '/').map .ofList := by
  rw [pathNames, splitAt_eq_splitOn]

theorem pathNames_append (start rest : String) :
    pathNames (start ++ "/" ++ rest) = pathNames start ++ pathNames rest := by
  have hsplit := List.splitOn_append_cons_self (a := '/') start.toList rest.toList
  simp [pathNames_eq, hsplit]

theorem pathNames_of_not_mem (h : '/' ∉ name.toList) : pathNames name = [name] := by
  simp [pathNames_eq, List.splitOn_eq_singleton h]

theorem not_mem_of_mem_pathNames : ∀ n ∈ pathNames path, '/' ∉ n.toList := by
  intro n hn
  obtain ⟨piece, hpiece, rfl⟩ := List.mem_map.mp hn
  rw [String.toList_ofList]
  exact not_mem_of_mem_splitAt piece hpiece

theorem pathOfNames_pathNames (path : String) : pathOfNames (pathNames path) = path := by
  have htexts : (pathNames path).map String.toList = path.toList.splitOn '/' := by
    simp [pathNames_eq, List.map_map, Function.comp_def]
  rw [← String.toList_inj, pathOfNames, String.toList_intercalate, htexts]
  exact List.intercalate_splitOn '/'

theorem pathNames_pathOfNames (hne : names ≠ []) (h : ∀ n ∈ names, '/' ∉ n.toList) :
    pathNames (pathOfNames names) = names := by
  have hsplit : ((pathOfNames names).toList.splitOn '/') = names.map String.toList := by
    rw [pathOfNames, String.toList_intercalate]
    apply List.splitOn_intercalate
    · exact List.forall_mem_map.mpr h
    · simpa using hne
  simp [pathNames_eq, hsplit, List.map_map, Function.comp_def]

theorem pathFault?_eq_none_iff :
    pathFault? path = none ↔ '\x00' ∉ path.toList ∧ path.utf8ByteSize ≤ longestPath := by
  rw [pathFault?]
  split
  · rename_i hnul
    simp [List.contains_iff_mem.mp hnul]
  · rename_i hnul
    have hfree : '\x00' ∉ path.toList := fun hmem => hnul (List.contains_iff_mem.mpr hmem)
    split
    · simp only [reduceCtorEq, hfree, not_false_eq_true, true_and, false_iff]
      omega
    · simp only [hfree, not_false_eq_true, true_and, true_iff]
      omega

theorem pathFault?_of_sublist (hsublist : other.toList.Sublist path.toList) (h : pathFault? path = none) :
    pathFault? other = none := by
  obtain ⟨hfree, hsize⟩ := pathFault?_eq_none_iff.mp h
  have hbytes := String.utf8Len_le_of_sublist hsublist
  rw [← String.utf8ByteSize_ofList, ← String.utf8ByteSize_ofList, String.ofList_toList, String.ofList_toList] at hbytes
  exact pathFault?_eq_none_iff.mpr ⟨fun hmem => hfree (hsublist.subset hmem), by omega⟩

theorem pathFault?_pathOfNames (hsublist : names.Sublist (pathNames path)) (h : pathFault? path = none) :
    pathFault? (pathOfNames names) = none := by
  refine pathFault?_of_sublist ?_ h
  rw [← pathOfNames_pathNames path]
  simp only [pathOfNames, String.toList_intercalate]
  exact sublist_intercalate (hsublist.map String.toList)

theorem locate_eq_walk (hfault : pathFault? path = none) (hne : path ≠ "") :
    d.locate path = d.walk (d.startOf path) (pathNames path) := by
  rw [locate, hfault]
  simp [hne]

theorem isRooted_append (hne : path ≠ "") (rest : String) : isRooted (path ++ rest) = isRooted path := by
  have hlist : path.toList ≠ [] := by simpa using hne
  rw [isRooted, isRooted, String.toList_append, List.head?_append_of_ne_nil _ hlist]

theorem isRooted_of_not_mem (h : '/' ∉ name.toList) : isRooted name = false := by
  rw [isRooted, beq_eq_false_iff_ne]
  exact fun hhead => h (List.mem_of_head? hhead)

theorem isRooted_iff : isRooted path = true ↔ ∃ rest, path = "/" ++ rest := by
  rw [isRooted, beq_iff_eq, List.head?_eq_some_iff]
  constructor
  · rintro ⟨rest, hrest⟩
    refine ⟨.ofList rest, ?_⟩
    rw [← String.toList_inj, hrest]
    simp
  · rintro ⟨rest, rfl⟩
    exact ⟨rest.toList, by simp⟩

theorem pathNames_rooted (rest : String) : pathNames ("/" ++ rest) = "" :: pathNames rest := by
  have hnames := pathNames_append "" rest
  rw [String.empty_append, pathNames_of_not_mem (by simp : '/' ∉ "".toList)] at hnames
  exact hnames

theorem startOf_congr (h : isRooted path = isRooted other) : d.startOf path = d.startOf other := by
  rw [startOf, startOf, h]

def IsFileName (name : String) : Prop := IsPlain name ∧ '/' ∉ name.toList

instance (name : String) : Decidable (IsFileName name) := inferInstanceAs (Decidable (_ ∧ _))

theorem locate_joinPath (hfault : pathFault? (joinPath directory name) = none) (hname : IsFileName name) :
    d.locate (joinPath directory name) = d.walk (d.startOf directory) (pathNames directory ++ [name]) := by
  obtain ⟨hplain, hslash⟩ := hname
  rcases joinPath_cases directory name with ⟨rfl, hjoin⟩ | ⟨hne, ⟨start, rfl, hjoin⟩ | hjoin⟩
  · have hstart : d.startOf name = d.startOf "" := startOf_congr (isRooted_of_not_mem hslash)
    rw [hjoin] at hfault ⊢
    rw [locate_eq_walk hfault hplain.1, hstart, pathNames_of_not_mem hslash]
    exact (walk_skip (.inl rfl)).symm
  · rw [hjoin] at hfault ⊢
    have hnames : pathNames (start ++ "/") = pathNames start ++ [""] := by
      have hblank : pathNames "" = [""] := pathNames_of_not_mem (by simp)
      have hnames := pathNames_append start ""
      rw [String.append_empty, hblank] at hnames
      exact hnames
    -- The empty name behind the last slash is no step of the way.
    have helided : Elided (pathNames start ++ [""]) (pathNames start ++ []) :=
      .append (.refl _) (.drop (.inl rfl) .nil)
    rw [locate_eq_walk hfault (by simp [hplain.1]), startOf_congr (isRooted_append hne _), hnames, helided.walk,
      List.append_nil, pathNames_append, pathNames_of_not_mem hslash]
  · rw [hjoin] at hfault ⊢
    have hstart : d.startOf (directory ++ "/" ++ name) = d.startOf directory := by
      rw [String.append_assoc]
      exact startOf_congr (isRooted_append hne _)
    rw [locate_eq_walk hfault (by simp [hplain.1]), hstart, pathNames_append, pathNames_of_not_mem hslash]

theorem pathNames_eq_trimmed (path : String) :
    ∃ count, pathNames path = trimmedNames path ++ List.replicate count "" := by
  refine ⟨((pathNames path).reverse.takeWhile (· == "")).length, ?_⟩
  have hblanks : (pathNames path).reverse.takeWhile (· == "") =
      List.replicate ((pathNames path).reverse.takeWhile (· == "")).length "" :=
    List.eq_replicate_of_mem fun n hn => by simpa using List.mem_takeWhile_imp hn
  rw [trimmedNames, ← List.reverse_replicate, ← hblanks, ← List.reverse_append, List.takeWhile_append_dropWhile,
    List.reverse_reverse]

theorem trimmedNames_eq {init : List String} {last : String} {count : Nat} (hlast : last ≠ "")
    (hnames : pathNames path = init ++ [last] ++ List.replicate count "") : trimmedNames path = init ++ [last] := by
  rw [trimmedNames, hnames, List.reverse_append, List.reverse_replicate, List.dropWhile_append_of_pos (by simp),
    List.reverse_append, List.reverse_singleton, List.singleton_append,
    List.dropWhile_cons_of_neg (by simpa using hlast)]
  simp

structure Spells (whole path : String) (names : List String) : Prop where
  faultless : pathFault? path = none
  nonempty : path ≠ ""
  rooted : isRooted path = isRooted whole
  walk (d : Disk) (here : Location) : d.walk here (trimmedNames path) = d.walk here names

theorem spells_of_names {whole : String} {init : List String} {last : String} {count : Nat}
    (hfault : pathFault? path = none) (hrooted : isRooted path = isRooted whole) (hlast : last ≠ "")
    (hnames : pathNames path = init ++ [last] ++ List.replicate count "") : Spells whole path (init ++ [last]) where
  faultless := hfault
  nonempty := by
    rintro rfl
    rw [pathNames_of_not_mem (by simp)] at hnames
    have hmem : last ∈ [""] := by simp [hnames]
    exact hlast (List.mem_singleton.mp hmem)
  rooted := hrooted
  walk d here := by rw [trimmedNames_eq hlast hnames]

theorem Spells.elided {whole : String} {init shorter : List String} {last : String}
    (h : Spells whole path (init ++ [last])) (helided : Elided init shorter) :
    Spells whole path (shorter ++ [last]) where
  faultless := h.faultless
  nonempty := h.nonempty
  rooted := h.rooted
  walk d here := (h.walk d here).trans (helided.walk last)

theorem elided_rootNames (path : String) : Elided (rootNames path) [] := by
  rw [rootNames]
  split
  · exact .drop (.inl rfl) .nil
  · exact .nil

theorem sublist_behind_root (hsublist : names.Sublist (pathNames path)) (hnonblank : ∀ n ∈ names, n ≠ "") :
    (rootNames path ++ names).Sublist (pathNames path) := by
  rw [rootNames]
  split
  · rename_i hrooted
    obtain ⟨rest, rfl⟩ := isRooted_iff.mp hrooted
    rw [pathNames_rooted] at hsublist ⊢
    cases hsublist with
    | cons _ hrest => exact hrest.cons_cons ""
    | cons_cons _ hrest => exact absurd rfl (hnonblank "" List.mem_cons_self)
  · exact hsublist

theorem isRooted_pathOfNames (hsublist : names.Sublist (pathNames path)) (hne : names ≠ [])
    (hnonblank : ∀ n ∈ names, n ≠ "") : isRooted (pathOfNames (rootNames path ++ names)) = isRooted path := by
  obtain ⟨first, later, rfl⟩ := List.exists_cons_of_ne_nil hne
  have hfirst : first.toList ≠ [] := by simpa using hnonblank first List.mem_cons_self
  have hslash : '/' ∉ first.toList := not_mem_of_mem_pathNames first (hsublist.subset List.mem_cons_self)
  cases hrooted : isRooted path with
  | true =>
    rw [rootNames, if_pos hrooted, isRooted, pathOfNames, String.toList_intercalate]
    simp
  | false =>
    rw [rootNames, if_neg (by simp [hrooted]), isRooted, pathOfNames, String.toList_intercalate, beq_eq_false_iff_ne]
    intro hhead
    apply hslash
    cases later with
    | nil => exact List.mem_of_head? (by simpa using hhead)
    | cons next rest => exact List.mem_of_head? (by simpa [List.head?_append_of_ne_nil _ hfirst] using hhead)

theorem spells_pathOfNames (hfault : pathFault? path = none) (hsublist : names.Sublist (pathNames path))
    (hne : names ≠ []) (hnonblank : ∀ n ∈ names, n ≠ "") :
    Spells path (pathOfNames (rootNames path ++ names)) names := by
  have hbehind := sublist_behind_root hsublist hnonblank
  have hnames : pathNames (pathOfNames (rootNames path ++ names)) = rootNames path ++ names :=
    pathNames_pathOfNames (by simp [hne]) fun n hn => not_mem_of_mem_pathNames n (hbehind.subset hn)
  have hrooted := isRooted_pathOfNames hsublist hne hnonblank
  obtain ⟨init, last, rfl⟩ : ∃ init last, names = init ++ [last] :=
    ⟨_, _, (List.dropLast_concat_getLast hne).symm⟩
  have hnoblanks : pathNames (pathOfNames (rootNames path ++ (init ++ [last]))) =
      rootNames path ++ init ++ [last] ++ List.replicate 0 "" := by
    simpa using hnames
  have hspelled := spells_of_names (pathFault?_pathOfNames hbehind hfault) hrooted (hnonblank last (by simp)) hnoblanks
  exact hspelled.elided ((elided_rootNames path).append (.refl init))

end Disk

end KindTable
