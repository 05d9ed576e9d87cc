import KindTable.Code.Set
import KindTable.Code.Token
import KindTable.Json.Reader

namespace KindTable

def IsWord (text : String) : Prop :=
  ∃ c cs, text.toList = c :: cs ∧ opensIdentifier c = true ∧ ∀ a ∈ cs, isWordChar a = true

theorem IsWord.append {text suffix : String} (h : IsWord text) (hsuffix : ∀ c ∈ suffix.toList, isWordChar c = true) :
    IsWord (text ++ suffix) := by
  obtain ⟨c, cs, htext, hc, hcs⟩ := h
  refine ⟨c, cs ++ suffix.toList, by rw [String.toList_append, htext, List.cons_append], hc, ?_⟩
  intro a ha
  rcases List.mem_append.mp ha with ha | ha
  · exact hcs a ha
  · exact hsuffix a ha

theorem IsWord.isWordChar {text : String} (h : IsWord text) : ∀ c ∈ text.toList, isWordChar c = true := by
  obtain ⟨c, cs, htext, hc, hcs⟩ := h
  rw [htext]
  exact List.forall_mem_cons.mpr ⟨isWordChar_of_opensIdentifier hc, hcs⟩

theorem IsWord.toList_ne_nil {text : String} (h : IsWord text) : text.toList ≠ [] := by
  obtain ⟨c, cs, htext, -⟩ := h
  rw [htext]
  exact List.cons_ne_nil _ _

theorem Identifier.isWord (i : Identifier) : IsWord i.text := by
  have hvalid := i.valid
  unfold isIdentifier at hvalid
  split at hvalid
  · cases hvalid
  · rename_i c cs htext
    simp only [Bool.and_eq_true, List.all_eq_true] at hvalid
    exact ⟨c, cs, htext, hvalid.1.1, hvalid.1.2⟩

theorem Identifier.not_reserved (i : Identifier) : i.text ∉ reservedWords := by
  intro hreserved
  have hvalid := i.valid
  unfold isIdentifier at hvalid
  split at hvalid
  · cases hvalid
  · simp [isReserved, hreserved] at hvalid

def isSnakeChar (c : Char) : Bool := c.isLower || c.isDigit || c == '_'

theorem isWordChar_of_isSnakeChar {c : Char} (h : isSnakeChar c = true) : isWordChar c = true := by
  change (c.isUpper || c.isLower || c.isDigit || c == '_') = true
  simp only [isSnakeChar, Bool.or_eq_true] at h ⊢
  rcases h with (hlower | hdigit) | hunderscore
  · exact .inl (.inl (.inr hlower))
  · exact .inl (.inr hdigit)
  · exact .inr hunderscore

theorem isWordChar_of_isDigit {c : Char} (h : c.isDigit = true) : isWordChar c = true := by
  simp [isWordChar, Char.isAlphanum, h]

theorem isWordChar_of_mem_toString {n : Nat} : ∀ c ∈ (toString n).toList, isWordChar c = true :=
  fun c hc => isWordChar_of_isDigit (isDigit_of_mem_toString c hc)

theorem toNat_lt_of_isWordChar {c : Char} (h : isWordChar c = true) : c.toNat < 128 := by
  have hval : c.toNat = c.val.toNat := rfl
  have hclass : (decide (c.val ≥ 'A'.val ∧ c.val ≤ 'Z'.val) || (decide (c.val ≥ 'a'.val) && decide (c.val ≤ 'z'.val)) ||
      (decide (c.val ≥ '0'.val) && decide (c.val ≤ '9'.val)) || c == '_') = true := h
  simp only [Bool.or_eq_true, Bool.and_eq_true, decide_eq_true_eq, UInt32.le_iff_toNat_le, ge_iff_le,
    beq_iff_eq] at hclass
  rcases hclass with ((⟨-, hupper⟩ | ⟨-, hlower⟩) | ⟨-, hdigit⟩) | rfl
  · have hZ : 'Z'.val.toNat = 90 := rfl
    omega
  · have hz : 'z'.val.toNat = 122 := rfl
    omega
  · have h9 : '9'.val.toNat = 57 := rfl
    omega
  · decide

theorem wordChar_forall {P : Char → Prop} (h : ∀ n < 128, isWordChar (.ofNat n) = true → P (.ofNat n)) {c : Char}
    (hc : isWordChar c = true) : P c := by
  have hnamed := h c.toNat (toNat_lt_of_isWordChar hc)
  rw [Char.ofNat_toNat] at hnamed
  exact hnamed hc

class LawfulNaming [Toolkit] : Prop where
  snakeCase_identifier : ∀ i : Identifier, ∀ c ∈ (Toolkit.snakeCase i.text).toList, isSnakeChar c = true
  isWord_of_spelling : ∀ text, IsWord text → Toolkit.isWord text = true
  keywords_reserved : ∀ w ∈ Toolkit.keywords, w ∈ reservedWords
  parse_file : ∀ code : CodeSet, ∀ f ∈ code.files, (∀ m ∈ f.mentions, Toolkit.isWord m.word = true) →
    (∀ m ∈ f.mentions, m.word ∉ Toolkit.keywords) → Toolkit.parse f.body = .ok ()

class TotalSerializer [Toolkit] : Prop where
  exists_serialized : ∀ v, ∃ text, Toolkit.serialize v = .ok text

class LawfulSerializer [Toolkit] : Prop extends TotalSerializer where
  read_serialized : ∀ v text, Toolkit.serialize v = .ok text →
    ∀ blank : String, (∀ c ∈ blank.toList, JsonCursor.isJsonBlank c = true) → JsonValue.read? (text ++ blank) = some v

class LawfulLayout [Toolkit] : Prop where
  layout_file : ∀ slots : List Slot, ∀ f ∈ (CodeSet.ofSlots slots).files,
    readTokens (Toolkit.layout f.body) = tokensOf f.body

theorem isWord_methodName [Toolkit] [LawfulNaming] (i : Identifier) : IsWord (methodName i.text) := by
  have hvisit : IsWord "visit_" := ⟨'v', "isit_".toList, rfl, rfl, List.all_eq_true.mp rfl⟩
  exact hvisit.append fun c hc => isWordChar_of_isSnakeChar (LawfulNaming.snakeCase_identifier i c hc)

theorem isWord_typeName (i : Identifier) : IsWord (i.text ++ typeSuffix) := i.isWord.append (List.all_eq_true.mp rfl)

end KindTable
