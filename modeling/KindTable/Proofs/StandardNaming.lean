import Mathlib.Tactic.Tauto
import KindTable.Proofs.ToolkitLaws

namespace KindTable

theorem isSnakeChar_toLower {c : Char} (h : isWordChar c = true) : isSnakeChar c.toLower = true :=
  @wordChar_forall (fun c => isSnakeChar c.toLower = true) (by decide +kernel) c h

theorem isIdentifierContinue_of_isWordChar {c : Char} (h : isWordChar c = true) :
    Unicode.isIdentifierContinue c = true := by
  rw [Unicode.isIdentifierContinue, if_pos (toNat_lt_of_isWordChar h)]
  exact h

theorem isIdentifierStart_of_opensIdentifier {c : Char} (h : opensIdentifier c = true) :
    (c == '_' || Unicode.isIdentifierStart c) = true := by
  rw [Unicode.isIdentifierStart, if_pos (toNat_lt_of_isWordChar (isWordChar_of_opensIdentifier h)), Bool.or_comm]
  exact h

theorem mem_alphanumericRuns {text run : List Char} {c : Char} (hrun : run ∈ alphanumericRuns text) (hc : c ∈ run) :
    c ∈ text := by
  induction text generalizing run with
  | nil =>
    obtain rfl := List.mem_singleton.mp hrun
    cases hc
  | cons first text ih =>
    have hlater {run : List Char} (hrun : run ∈ alphanumericRuns text) (hc : c ∈ run) : c ∈ first :: text :=
      List.mem_cons_of_mem _ (ih hrun hc)
    cases hruns : alphanumericRuns text with
    | nil =>
      have hstep : alphanumericRuns (first :: text) = [[first]] := by
        rw [alphanumericRuns] at hruns ⊢
        rw [List.foldr_cons, hruns]
      rw [hstep] at hrun
      obtain rfl := List.mem_singleton.mp hrun
      obtain rfl := List.mem_singleton.mp hc
      exact List.mem_cons_self
    | cons earlier rest =>
      have hstep : alphanumericRuns (first :: text) =
          if Unicode.isAlphanumeric first then (first :: earlier) :: rest else [] :: earlier :: rest := by
        rw [alphanumericRuns] at hruns ⊢
        rw [List.foldr_cons, hruns]
      rw [hruns] at hlater
      rw [hstep] at hrun
      split at hrun
      · rcases List.mem_cons.mp hrun with rfl | hrun
        · rcases List.mem_cons.mp hc with rfl | hc
          · exact List.mem_cons_self
          · exact hlater List.mem_cons_self hc
        · exact hlater (List.mem_cons_of_mem _ hrun) hc
      · rcases List.mem_cons.mp hrun with rfl | hrun
        · cases hc
        · exact hlater hrun hc

theorem mem_wordsOfRun {case : WordCase} {word text found : List Char} {c : Char}
    (hfound : found ∈ wordsOfRun case word text) (hc : c ∈ found) : c ∈ word ∨ c ∈ text := by
  fun_induction wordsOfRun case word text with
  | case1 case => cases hfound
  | case2 case word hne =>
    obtain rfl := List.mem_singleton.mp hfound
    exact .inl hc
  | case3 case word last =>
    obtain rfl := List.mem_singleton.mp hfound
    exact List.mem_append.mp hc
  | case4 case word first next rest hends ih =>
    rcases List.mem_cons.mp hfound with rfl | hfound
    · simp only [List.mem_append, List.mem_cons] at hc ⊢
      tauto
    · have hlater := ih hfound
      simp only [List.mem_cons] at hlater ⊢
      tauto
  | case5 case word first next rest hends hcut ih =>
    rcases List.mem_cons.mp hfound with rfl | hfound
    · exact .inl hc
    · have hlater := ih hfound
      simp only [List.mem_cons] at hlater ⊢
      tauto
  | case6 case word first next rest hends hcut ih =>
    have hlater := ih hfound
    simp only [List.mem_append, List.mem_cons] at hlater ⊢
    tauto

theorem isSnakeChar_lowerWord {word : List Char} (h : ∀ c ∈ word, isWordChar c = true) :
    ∀ c ∈ lowerWord word, isSnakeChar c = true := by
  fun_induction lowerWord word with
  | case1 => simp
  | case2 => exact absurd (h 'Σ' List.mem_cons_self) (by decide)
  | case3 first rest hsigma ih =>
    obtain ⟨hfirst, hrest⟩ := List.forall_mem_cons.mp h
    rw [Unicode.toLowercase, if_pos (toNat_lt_of_isWordChar hfirst)]
    exact List.forall_mem_cons.mpr ⟨isSnakeChar_toLower hfirst, ih hrest⟩

theorem mem_of_mem_intercalate {separator : List Char} {words : List (List Char)} {c : Char}
    (h : c ∈ List.intercalate separator words) : c ∈ separator ∨ ∃ word ∈ words, c ∈ word := by
  induction words with
  | nil => cases h
  | cons word rest ih =>
    cases rest with
    | nil => exact .inr ⟨word, List.mem_cons_self, by simpa [List.intercalate] using h⟩
    | cons next rest =>
      rw [List.intercalate_cons_cons, List.append_assoc] at h
      rcases List.mem_append.mp h with h | h
      · exact .inr ⟨word, List.mem_cons_self, h⟩
      · rcases List.mem_append.mp h with h | h
        · exact .inl h
        · rcases ih h with hseparator | ⟨later, hlater, hc⟩
          · exact .inl hseparator
          · exact .inr ⟨later, List.mem_cons_of_mem _ hlater, hc⟩

theorem isSnakeChar_snakeCase {text : String} (h : ∀ c ∈ text.toList, isWordChar c = true) :
    ∀ c ∈ (snakeCase text).toList, isSnakeChar c = true := by
  intro c hc
  rw [snakeCase, String.toList_intercalate, List.map_map] at hc
  rcases mem_of_mem_intercalate hc with hunderscore | ⟨_, hlowered, hc⟩
  · obtain rfl : c = '_' := by simpa using hunderscore
    rfl
  · obtain ⟨word, hword, rfl⟩ := List.mem_map.mp hlowered
    obtain ⟨run, hrun, hword⟩ := List.mem_flatMap.mp hword
    rw [Function.comp_apply, Function.comp_apply, String.toList_ofList] at hc
    apply isSnakeChar_lowerWord ?_ c hc
    intro a ha
    rcases mem_wordsOfRun hword ha with ha | ha
    · cases ha
    · exact h a (mem_alphanumericRuns hrun ha)

theorem IsWord.isWordToken {text : String} (h : IsWord text) : isWordToken text = true := by
  obtain ⟨c, cs, htext, hc, hcs⟩ := h
  have hplain : isPlainWord (c :: cs) = true := by
    rw [isPlainWord, isIdentifierStart_of_opensIdentifier hc, Bool.true_and, List.all_eq_true]
    exact fun a ha => isIdentifierContinue_of_isWordChar (hcs a ha)
  unfold KindTable.isWordToken
  rw [htext]
  split
  · rename_i word hraw
    obtain ⟨-, rfl⟩ := List.cons.inj hraw
    exact absurd (hcs '#' List.mem_cons_self) (by decide)
  · exact hplain

theorem Mention.fault?_eq_none {m : Mention} (h : m.word ∉ keywords) : m.fault? = none := by
  have hvisibility : m.word ≠ "pub" := by
    intro hpub
    exact h (hpub ▸ by decide)
  rw [Mention.fault?]
  cases m.place <;> simp [hvisibility, h]

instance : LawfulNaming where
  snakeCase_identifier i := isSnakeChar_snakeCase i.isWordChar_of_mem
  isWord_of_spelling text h := h.isWordToken
  keywords_reserved := by decide +kernel
  parse_file code f hf hwords hplain := by
    have hplaces : (mentionsOf f.body).findSome? Mention.fault? = none := by
      rw [List.findSome?_eq_none_iff]
      exact fun m hm => Mention.fault?_eq_none (hplain m hm)
    change parseMentions f.body = .ok ()
    rw [parseMentions, hplaces]

end KindTable
