import Mathlib.Data.List.DropRight
import KindTable.Gates.Setting
import KindTable.Proofs.ListingFields

namespace KindTable

def Padded (word text : List Char) : Prop :=
  ∃ before after, text = before ++ word ++ after ∧ ∀ c ∈ before ++ after, Unicode.isBlank c = true

structure Trims (text word : List Char) : Prop where
  padded : Padded word text
  first : ∀ c, word.head? = some c → Unicode.isBlank c = false
  last : ∀ c, word.getLast? = some c → Unicode.isBlank c = false

theorem Padded.trims {word text : List Char} (h : Padded word text)
    (hsolid : ∀ c ∈ word, Unicode.isBlank c = false) : Trims text word where
  padded := h
  first c hc := hsolid c (List.mem_of_head? hc)
  last c hc := hsolid c (List.mem_of_getLast? hc)

theorem trims_trimChars (text : List Char) : Trims text (trimChars text) := by
  let rest := text.dropWhile Unicode.isBlank
  have hrest : rest = trimChars text ++ rest.rtakeWhile Unicode.isBlank :=
    List.rdropWhile_append_rtakeWhile.symm
  constructor
  case padded =>
    refine ⟨text.takeWhile Unicode.isBlank, rest.rtakeWhile Unicode.isBlank, ?_, ?_⟩
    · rw [List.append_assoc, ← hrest, List.takeWhile_append_dropWhile]
    · exact List.forall_mem_append.mpr ⟨fun c => List.mem_takeWhile_imp, fun c => List.mem_rtakeWhile_imp⟩
  case first =>
    intro c hc
    have hhead : rest.head? = some c := by rw [hrest, List.head?_append, hc, Option.some_or]
    exact head?_dropWhile hhead
  case last =>
    intro c hc
    rw [trimChars, List.getLast?_reverse] at hc
    exact head?_dropWhile hc

theorem Trims.trimChars_eq {text word : List Char} (h : Trims text word) : trimChars text = word := by
  obtain ⟨⟨before, after, rfl, hblank⟩, hfirst, hlast⟩ := h
  obtain ⟨hbefore, hafter⟩ := List.forall_mem_append.mp hblank
  have hdropped : after.reverse.dropWhile Unicode.isBlank = [] :=
    List.dropWhile_eq_nil_iff.mpr fun c hc => hafter c (List.mem_reverse.mp hc)
  rw [trimChars, List.append_assoc, List.dropWhile_append_of_pos hbefore]
  cases word with
  | nil => simp [List.dropWhile_eq_nil_iff.mpr hafter]
  | cons c cs =>
    have hc : Unicode.isBlank c = false := hfirst c rfl
    have hend : ∀ a, (c :: cs).reverse.head? = some a → Unicode.isBlank a = false :=
      fun a ha => hlast a (List.head?_reverse ▸ ha)
    rw [List.cons_append, List.dropWhile_cons, if_neg (by simp [hc]), ← List.cons_append, List.reverse_append,
      dropWhile_append_stop hend, hdropped, List.nil_append, List.reverse_reverse]

def SameLetter (letter c : Char) : Prop := c = letter ∨ c.isUpper = true ∧ letter.toNat = c.toNat + 32

def SpellsWord (written : List Char) (word : String) : Prop := List.Forall₂ SameLetter word.toList written

theorem isWordChar_of_isUpper {c : Char} (h : c.isUpper = true) : isWordChar c = true := by
  have halpha : c.isAlpha = true := (Bool.or_eq_true _ _).mpr (.inl h)
  exact isWordChar_of_opensIdentifier ((Bool.or_eq_true _ _).mpr (.inl halpha))

theorem toNat_toLower_of_isUpper {c : Char} (h : c.isUpper = true) : c.toLower.toNat = c.toNat + 32 :=
  @wordChar_forall (fun c => c.isUpper = true → c.toLower.toNat = c.toNat + 32) (by decide +kernel) c
    (isWordChar_of_isUpper h) h

theorem toLower_eq_iff {letter c : Char} (h : letter.isUpper = false) : c.toLower = letter ↔ SameLetter letter c := by
  cases hc : c.isUpper with
  | true =>
    have hne : c ≠ letter := by
      rintro rfl
      simp [h] at hc
    rw [← Char.toNat_inj, toNat_toLower_of_isUpper hc, SameLetter, or_iff_right hne, and_iff_right hc, eq_comm]
  | false =>
    have hsame : c.toLower = c := dif_neg (of_decide_eq_false hc)
    simp [SameLetter, hc, hsame]

theorem forall₂_sameLetter_iff {letters written : List Char} (h : ∀ c ∈ letters, c.isUpper = false) :
    List.Forall₂ SameLetter letters written ↔ written.map Char.toLower = letters := by
  induction letters generalizing written with
  | nil => simp
  | cons letter letters ih =>
    obtain ⟨hletter, hletters⟩ := List.forall_mem_cons.mp h
    cases written with
    | nil => simp
    | cons c cs =>
      rw [List.forall₂_cons, List.map_cons, List.cons.injEq, toLower_eq_iff hletter, ih hletters]

def valueWords : Bool → List String
  | true => ["true", "on", "yes", "1"]
  | false => ["false", "off", "no", "0"]

theorem chars_of_mem_valueWords {isOn : Bool} {word : String} (h : word ∈ valueWords isOn) :
    ∀ c ∈ word.toList, isWordChar c = true ∧ c.isUpper = false := by
  have hall : ∀ word ∈ valueWords isOn, word.toList.all (fun c => isWordChar c && !c.isUpper) = true := by
    cases isOn <;> decide +kernel
  intro c hc
  simpa using List.all_eq_true.mp (hall word h) c hc

theorem valueWords_disjoint {isOn other : Bool} {word : String} (h : word ∈ valueWords isOn)
    (hother : word ∈ valueWords other) : isOn = other := by
  have hall : ∀ word ∈ valueWords isOn, word ∈ valueWords other → isOn = other := by
    cases isOn <;> cases other <;> decide +kernel
  exact hall word h hother

theorem SpellsWord.lowerAscii_eq {isOn : Bool} {written : List Char} {word : String} (hword : word ∈ valueWords isOn)
    (h : SpellsWord written word) : lowerAscii (.ofList written) = word := by
  have hsmall := fun c hc => (chars_of_mem_valueWords hword c hc).2
  rw [lowerAscii, String.toList_ofList, (forall₂_sameLetter_iff hsmall).mp h, String.ofList_toList]

theorem spellsWord_lowerAscii {isOn : Bool} {text : String} (h : lowerAscii text ∈ valueWords isOn) :
    SpellsWord text.toList (lowerAscii text) := by
  have hsmall := fun c hc => (chars_of_mem_valueWords h c hc).2
  refine (forall₂_sameLetter_iff hsmall).mpr ?_
  rw [lowerAscii, String.toList_ofList]

theorem SpellsWord.isBlank_eq_false {isOn : Bool} {written : List Char} {word : String} (hword : word ∈ valueWords isOn)
    (h : SpellsWord written word) : ∀ c ∈ written, Unicode.isBlank c = false := by
  have hchars := chars_of_mem_valueWords hword
  have hlowered := (forall₂_sameLetter_iff fun c hc => (hchars c hc).2).mp h
  intro c hc
  obtain ⟨hletter, hsmall⟩ := hchars c.toLower (hlowered ▸ List.mem_map_of_mem hc)
  apply isBlank_eq_false_of_isWordChar
  rcases (toLower_eq_iff hsmall).mp rfl with hsame | ⟨hupper, -⟩
  · exact hsame ▸ hletter
  · exact isWordChar_of_isUpper hupper

theorem parseGateValue_eq_some_iff {text : String} {isOn : Bool} :
    parseGateValue text = some isOn ↔ lowerAscii (trimBlanks text) ∈ valueWords isOn := by
  simp only [parseGateValue, List.contains_iff_mem]
  split
  case isTrue hon =>
    exact Option.some_inj.trans ⟨fun h => h ▸ hon, valueWords_disjoint hon⟩
  case isFalse hon =>
    split
    case isTrue hoff =>
      exact Option.some_inj.trans ⟨fun h => h ▸ hoff, valueWords_disjoint hoff⟩
    case isFalse hoff =>
      cases isOn with
      | true => exact ⟨nofun, fun h => absurd h hon⟩
      | false => exact ⟨nofun, fun h => absurd h hoff⟩

def SaysValue (text : List Char) (isOn : Bool) : Prop :=
  ∃ written, Padded written text ∧ ∃ word ∈ valueWords isOn, SpellsWord written word

theorem parseGateValue_iff_saysValue {text : List Char} {isOn : Bool} :
    parseGateValue (.ofList text) = some isOn ↔ SaysValue text isOn := by
  rw [parseGateValue_eq_some_iff, trimBlanks, String.toList_ofList]
  constructor
  · intro hword
    refine ⟨trimChars text, (trims_trimChars text).padded, _, hword, ?_⟩
    simpa using spellsWord_lowerAscii hword
  · rintro ⟨written, hpadded, word, hword, hspells⟩
    rw [(hpadded.trims (hspells.isBlank_eq_false hword)).trimChars_eq, hspells.lowerAscii_eq hword]
    exact hword

def SplitsFirst (text : String) (left right : List Char) : Prop :=
  text.toList = left ++ '=' :: right ∧ '=' ∉ left

theorem splitSetting_append {left right : List Char} (h : '=' ∉ left) :
    splitSetting (left ++ '=' :: right) = some (left, right) := by
  have hleft : ∀ c ∈ left, (c != '=') = true := fun c hc => bne_iff_ne.mpr fun e => h (e ▸ hc)
  rw [splitSetting, List.dropWhile_append_of_pos hleft, List.takeWhile_append_of_pos hleft]
  simp

theorem splitSetting_of_not_mem {text : List Char} (h : '=' ∉ text) : splitSetting text = none := by
  have hdrop : text.dropWhile (· != '=') = [] :=
    List.dropWhile_eq_nil_iff.mpr fun c hc => bne_iff_ne.mpr fun e => h (e ▸ hc)
  rw [splitSetting, hdrop]

theorem SplitsFirst.splitSetting_eq {text : String} {left right : List Char} (h : SplitsFirst text left right) :
    splitSetting text.toList = some (left, right) := by
  rw [h.1, splitSetting_append h.2]

theorem unsplit_or_splitsFirst (text : String) : '=' ∉ text.toList ∨ ∃ left right, SplitsFirst text left right := by
  by_cases h : '=' ∈ text.toList
  · exact .inr (List.eq_append_cons_of_mem h)
  · exact .inl h

inductive ReadsSetting (text : String) : Except GateFault Binding → Prop where
  | unsplit : '=' ∉ text.toList → ReadsSetting text (.error (.missingValue text))
  | badName {left right : List Char} {name : String} :
    SplitsFirst text left right → Trims left name.toList → isIdentifier name = false →
    ReadsSetting text (.error (.badName name))
  | badValue {left right : List Char} {name : String} :
    SplitsFirst text left right → Padded name.toList left → isIdentifier name = true →
    (∀ isOn, ¬ SaysValue right isOn) → ReadsSetting text (.error (.badValue name (.ofList right)))
  | setting {left right : List Char} {name : String} {isOn : Bool} :
    SplitsFirst text left right → Padded name.toList left → isIdentifier name = true → SaysValue right isOn →
    ReadsSetting text (.ok (name, isOn))

theorem parseSetting_of_splitsFirst {text : String} {left right : List Char} {name : String}
    (hsides : SplitsFirst text left right) (hname : Trims left name.toList) :
    parseSetting text =
      if isIdentifier name then
        (parseGateValue (.ofList right)).elim (.error (.badValue name (.ofList right))) fun isOn => .ok (name, isOn)
      else .error (.badName name) := by
  have htrimmed : trimBlanks (.ofList left) = name := by
    rw [trimBlanks, String.toList_ofList, hname.trimChars_eq, String.ofList_toList]
  rw [parseSetting, hsides.splitSetting_eq]
  simp only [htrimmed]
  cases parseGateValue (.ofList right) <;> rfl

theorem reads_parseSetting (text : String) : ReadsSetting text (parseSetting text) := by
  rcases unsplit_or_splitsFirst text with hnone | ⟨left, right, hsides⟩
  · rw [parseSetting, splitSetting_of_not_mem hnone]
    exact .unsplit hnone
  · have htrims : Trims left (trimBlanks (.ofList left)).toList := by
      simpa [trimBlanks] using trims_trimChars left
    rw [parseSetting_of_splitsFirst hsides htrims]
    split
    case isFalse hname => exact .badName hsides htrims (Bool.eq_false_iff.mpr hname)
    case isTrue hname =>
      cases hvalue : parseGateValue (.ofList right) with
      | some isOn => exact .setting hsides htrims.padded hname (parseGateValue_iff_saysValue.mp hvalue)
      | none =>
        refine .badValue hsides htrims.padded hname fun isOn hsays => ?_
        rw [parseGateValue_iff_saysValue.mpr hsays] at hvalue
        cases hvalue

theorem trims_of_padded_name {left : List Char} {name : String} (h : Padded name.toList left)
    (hname : isIdentifier name = true) : Trims left name.toList :=
  h.trims fun c hc => isBlank_eq_false_of_isWordChar (Identifier.isWordChar_of_mem ⟨name, hname⟩ c hc)

theorem ReadsSetting.parseSetting_eq {text : String} {outcome : Except GateFault Binding}
    (h : ReadsSetting text outcome) : parseSetting text = outcome := by
  cases h with
  | unsplit hnone => rw [parseSetting, splitSetting_of_not_mem hnone]
  | badName hsides htrims hname => rw [parseSetting_of_splitsFirst hsides htrims, if_neg (by simp [hname])]
  | badValue hsides hpadded hname hvalue =>
    have hnone : parseGateValue (.ofList _) = none :=
      Option.eq_none_iff_forall_ne_some.mpr fun isOn hsome => hvalue isOn (parseGateValue_iff_saysValue.mp hsome)
    rw [parseSetting_of_splitsFirst hsides (trims_of_padded_name hpadded hname), if_pos hname, hnone, Option.elim_none]
  | setting hsides hpadded hname hvalue =>
    rw [parseSetting_of_splitsFirst hsides (trims_of_padded_name hpadded hname), if_pos hname,
      parseGateValue_iff_saysValue.mpr hvalue, Option.elim_some]

theorem parseSetting_eq_iff_reads (text : String) (outcome : Except GateFault Binding) :
    parseSetting text = outcome ↔ ReadsSetting text outcome :=
  ⟨fun h => h ▸ reads_parseSetting text, ReadsSetting.parseSetting_eq⟩

example : parseSetting " fast = YES" = .ok ("fast", true) := by decide +kernel

example : parseSetting "fast=on=off" = .error (.badValue "fast" "on=off") := by decide +kernel

end KindTable
