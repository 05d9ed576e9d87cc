import KindTable.Proofs.CodeAgreement
import KindTable.Proofs.ToolkitLaws

namespace KindTable

theorem typeName_not_reserved (text : String) : text ++ typeSuffix ∉ reservedWords := by
  have hletter : ∀ w ∈ reservedWords, 'N' ∉ w.toList := by decide +kernel
  intro hreserved
  exact hletter _ hreserved (by simp [typeSuffix])

structure IsLegal (word : String) : Prop where
  isWord : IsWord word
  not_reserved : word ∉ reservedWords

theorem isLegal_slotName (slot : Slot) : IsLegal slot.name := ⟨slot.entry.name.isWord, slot.entry.name.not_reserved⟩

theorem isLegal_typeName (slot : Slot) : IsLegal (slot.name ++ typeSuffix) :=
  ⟨isWord_typeName slot.entry.name, typeName_not_reserved slot.name⟩

variable [Toolkit]

theorem methodName_not_reserved (text : String) : methodName text ∉ reservedWords := by
  have hopening : ∀ w ∈ reservedWords, ¬"visit_".toList <+: w.toList := by decide +kernel
  intro hreserved
  apply hopening _ hreserved
  rw [methodName, String.toList_append]
  exact List.prefix_append _ _

variable [LawfulNaming]

theorem isLegal_method {slot : Slot} {method : String} (h : slot.method? = some method) : IsLegal method := by
  obtain ⟨a, -, rfl⟩ := Option.map_eq_some_iff.mp h
  exact ⟨isWord_methodName a.entry.name, methodName_not_reserved a.name⟩

theorem isLegal_of_mention {slots : List Slot} :
    ∀ f ∈ (CodeSet.ofSlots slots).files, ∀ m ∈ f.mentions, IsLegal m.word := by
  simp only [CodeSet.files, List.forall_mem_cons]
  refine ⟨?_, ?_, ?_, ?_, by simp⟩
  · intro m hm
    simp only [OpcodeCode.mentions_file, CodeSet.ofSlots, List.mem_append, List.map_map, List.mem_map] at hm
    rcases hm with ((⟨slot, -, rfl⟩ | ⟨slot, -, rfl⟩) | ⟨slot, -, rfl⟩) | ⟨slot, -, rfl⟩ <;> exact isLegal_slotName slot
  · intro m hm
    rw [NameCode.mentions_file] at hm
    cases hm
  · intro m hm
    rw [StubCode.mentions_file] at hm
    obtain ⟨item, hitem, rfl⟩ := List.mem_map.mp hm
    obtain ⟨slot, -, hslot⟩ := List.mem_filterMap.mp hitem
    split at hslot
    · cases hslot
    · cases hslot
      exact isLegal_typeName slot
  · intro m hm
    rw [VisitorCode.mentions_file] at hm
    rcases List.mem_append.mp hm with hm | hm
    · obtain ⟨method, hmethod, hm⟩ := List.mem_flatMap.mp hm
      obtain ⟨slot, -, hslot⟩ := List.mem_filterMap.mp hmethod
      obtain ⟨name, hname, rfl⟩ := Option.map_eq_some_iff.mp hslot
      rcases List.mem_pair.mp hm with rfl | rfl
      · exact isLegal_method hname
      · exact isLegal_slotName slot
    · obtain ⟨arm, harm, hm⟩ := List.mem_flatMap.mp hm
      obtain ⟨slot, -, rfl⟩ := List.mem_map.mp harm
      rcases List.mem_cons.mp hm with rfl | hm
      · exact isLegal_slotName slot
      · obtain ⟨name, hname, rfl⟩ := List.mem_map.mp hm
        exact isLegal_method (Option.mem_toList.mp hname)

theorem check_of_legal {code : CodeSet} {f : CodeFile} (hf : f ∈ code.files) (h : ∀ m ∈ f.mentions, IsLegal m.word) :
    f.check = .ok () := by
  have hwords : ∀ m ∈ f.mentions, Toolkit.isWord m.word = true :=
    fun m hm => LawfulNaming.isWord_of_spelling m.word (h m hm).isWord
  have hplain : ∀ m ∈ f.mentions, m.word ∉ Toolkit.keywords :=
    fun m hm hkeyword => (h m hm).not_reserved (LawfulNaming.keywords_reserved m.word hkeyword)
  have hfound : f.mentions.find? (!Toolkit.isWord ·.word) = none := by
    rw [List.find?_eq_none]
    intro m hm
    simp [hwords m hm]
  rw [CodeFile.check, hfound, LawfulNaming.parse_file code f hf hwords hplain]
  rfl

theorem check_ofSlots (slots : List Slot) : ∀ f ∈ (CodeSet.ofSlots slots).files, f.check = .ok () :=
  fun f hf => check_of_legal hf (isLegal_of_mention f hf)

end KindTable
