import KindTable.Proofs.Language

namespace KindTable

abbrev Padding := { text : List Char // text.all isLayout = true }

structure WrittenLine where
  entry : Option Entry
  lead : Padding
  gap : Padding
  gap_ne : gap.val ≠ []
  beforeOpen : Padding
  afterOpen : Padding
  beforeClose : Padding
  trail : Padding
  comment : Option { text : List Char // '\n' ∉ text }

namespace WrittenLine

def spread (l : WrittenLine) (c : Char) : List Char :=
  if c = '(' then l.beforeOpen.val ++ '(' :: l.afterOpen.val
  else if c = ')' then l.beforeClose.val ++ [')']
  else [c]

def entryText (l : WrittenLine) (e : Entry) : List Char :=
  match e.mode with
  | .always => e.name.text.toList
  | .gated g => e.name.text.toList ++ (l.gap.val ++ (Mode.gated g).text.toList.flatMap l.spread)

def content (l : WrittenLine) : List Char :=
  match l.entry with
  | none => l.lead.val ++ l.trail.val
  | some e => l.lead.val ++ (l.entryText e ++ l.trail.val)

def commentText (l : WrittenLine) : List Char :=
  match l.comment with
  | none => []
  | some text => '#' :: text.val

def text (l : WrittenLine) : List Char := l.content ++ l.commentText

end WrittenLine

def writeTable (lines : List WrittenLine) : String := .ofList (List.intercalate ['\n'] (lines.map WrittenLine.text))

theorem Spelled.chars {kinds : List TokenKind} {text : List Char} (h : Spelled kinds text) :
    ∀ c ∈ text, c ≠ '#' ∧ c ≠ '\n' := by
  have hlayout {c : Char} (hc : isLayout c = true) : c ≠ '#' ∧ c ≠ '\n' := by
    constructor <;> rintro rfl <;> cases hc
  have hword {c : Char} (hc : isWordChar c = true) : c ≠ '#' ∧ c ≠ '\n' := by
    constructor <;> rintro rfl <;> cases hc
  induction h with
  | nil => simp
  | layout hc h ih => exact List.forall_mem_cons.mpr ⟨hlayout hc, ih⟩
  | openParen h ih => exact List.forall_mem_cons.mpr ⟨by decide, ih⟩
  | closeParen h ih => exact List.forall_mem_cons.mpr ⟨by decide, ih⟩
  | word hne hchars hend h ih =>
    intro c hc
    rcases List.mem_append.mp hc with hc | hc
    · exact hword (hchars c hc)
    · exact ih c hc

theorem Spelled.padding {kinds : List TokenKind} {text : List Char} (p : Padding) (h : Spelled kinds text) :
    Spelled kinds (p.val ++ text) := by
  obtain ⟨layout, hlayout⟩ := p
  induction layout with
  | nil => exact h
  | cons c rest ih =>
    obtain ⟨hc, hrest⟩ := Bool.and_eq_true_iff.mp hlayout
    exact .layout hc (ih hrest)

theorem Spelled.identifier {kinds : List TokenKind} {text : List Char} (i : Identifier)
    (hend : ∀ c, text.head? = some c → isWordChar c = false) (h : Spelled kinds text) :
    Spelled (.word i.text :: kinds) (i.text.toList ++ text) := by
  have hword := Spelled.word i.toList_ne_nil i.isWordChar_of_mem hend h
  rwa [String.ofList_toList] at hword

theorem isWordChar_eq_false_of_isLayout {c : Char} (h : isLayout c = true) : isWordChar c = false := by
  cases hc : isWordChar c with
  | false => rfl
  | true => simp [isLayout_eq_false_of_isWordChar hc] at h

theorem head?_padding {text : List Char} (p : Padding) (h : ∀ c, text.head? = some c → isWordChar c = false) :
    ∀ c, (p.val ++ text).head? = some c → isWordChar c = false := by
  obtain ⟨layout, hlayout⟩ := p
  intro c hc
  cases layout with
  | nil => exact h c hc
  | cons a rest =>
    obtain rfl : a = c := by simpa using hc
    exact isWordChar_eq_false_of_isLayout (Bool.and_eq_true_iff.mp hlayout).1

namespace WrittenLine

theorem flatMap_spread_word (l : WrittenLine) {word : List Char} (h : ∀ c ∈ word, isWordChar c = true) :
    word.flatMap l.spread = word := by
  induction word with
  | nil => rfl
  | cons c rest ih =>
    obtain ⟨hc, hrest⟩ := List.forall_mem_cons.mp h
    have hopen : c ≠ '(' := by
      rintro rfl
      cases hc
    have hclose : c ≠ ')' := by
      rintro rfl
      cases hc
    rw [List.flatMap_cons, ih hrest, spread, if_neg hopen, if_neg hclose]
    rfl

theorem flatMap_spread_mode (l : WrittenLine) (g : Gate) :
    (Mode.gated g).text.toList.flatMap l.spread = g.kind.keyword.toList ++ (l.beforeOpen.val ++ '(' ::
      (l.afterOpen.val ++ (g.name.text.toList ++ (l.beforeClose.val ++ [')'])))) := by
  obtain ⟨name, kind⟩ := g
  have hname := l.flatMap_spread_word name.isWordChar_of_mem
  cases kind <;>
    simp [Mode.text, GateKind.keyword, List.flatMap_append, hname, spread]

theorem spelled_keyword {kinds : List TokenKind} {text : List Char} (kind : GateKind)
    (hend : ∀ c, text.head? = some c → isWordChar c = false) (h : Spelled kinds text) :
    Spelled (.word kind.keyword :: kinds) (kind.keyword.toList ++ text) := by
  cases kind with
  | hard => exact @Spelled.word kinds text ['i', 'f'] (by decide) (List.all_eq_true.mp rfl) hend h
  | soft => exact @Spelled.word kinds text ['s', 'o', 'f', 't'] (by decide) (List.all_eq_true.mp rfl) hend h

theorem head?_gap (l : WrittenLine) (text : List Char) :
    ∀ c, (l.gap.val ++ text).head? = some c → isWordChar c = false := by
  obtain ⟨a, rest, hgap⟩ := List.exists_cons_of_ne_nil l.gap_ne
  intro c hc
  obtain rfl : a = c := by simpa [hgap] using hc
  exact isWordChar_eq_false_of_isLayout (List.all_eq_true.mp l.gap.property a (by simp [hgap]))

theorem head?_trail (l : WrittenLine) : ∀ c, l.trail.val.head? = some c → isWordChar c = false := by
  simpa using @head?_padding [] l.trail (by simp)

theorem spelled_trail (l : WrittenLine) : Spelled [] l.trail.val := by
  simpa using Spelled.padding l.trail .nil

theorem spelled_mode (l : WrittenLine) (g : Gate) :
    Spelled [.word g.kind.keyword, .openParen, .word g.name.text, .closeParen]
      ((Mode.gated g).text.toList.flatMap l.spread ++ l.trail.val) := by
  have hclose := Spelled.padding l.beforeClose (.closeParen l.spelled_trail)
  have hgate := Spelled.identifier g.name (head?_padding l.beforeClose (by simp; decide)) hclose
  have hopen := Spelled.padding l.beforeOpen (.openParen (.padding l.afterOpen hgate))
  have hmode := spelled_keyword g.kind (head?_padding l.beforeOpen (by simp; decide)) hopen
  simpa [flatMap_spread_mode] using hmode

theorem spelled_entry (l : WrittenLine) (e : Entry) : Spelled e.kinds (l.entryText e ++ l.trail.val) := by
  unfold entryText Entry.kinds
  cases e.mode with
  | always => exact .identifier e.name l.head?_trail l.spelled_trail
  | gated g =>
    have hname := Spelled.identifier e.name (l.head?_gap _) (.padding l.gap (l.spelled_mode g))
    simpa using hname

theorem spelled_content (l : WrittenLine) : Spelled (denotedKinds l.entry) l.content := by
  unfold content
  cases l.entry with
  | none => exact .padding l.lead l.spelled_trail
  | some e => exact .padding l.lead (l.spelled_entry e)

theorem lineContent_text (l : WrittenLine) : lineContent l.text = l.content := by
  have hcontent : ∀ c ∈ l.content, (c != '#') = true := by
    intro c hc
    simpa using (l.spelled_content.chars c hc).1
  rw [lineContent, text, List.takeWhile_append_of_pos hcontent, commentText]
  cases l.comment <;> simp

theorem not_mem_text (l : WrittenLine) : '\n' ∉ l.text := by
  rw [text, List.mem_append, not_or]
  constructor
  · intro h
    exact (l.spelled_content.chars _ h).2 rfl
  · unfold commentText
    cases l.comment with
    | none => simp
    | some c => simpa using c.property

theorem lineDenotes (l : WrittenLine) : LineDenotes l.text l.entry := by
  rw [LineDenotes, lineContent_text]
  exact l.spelled_content

end WrittenLine

theorem writeTable_denotes (lines : List WrittenLine) :
    Denotes (writeTable lines) (lines.filterMap WrittenLine.entry) := by
  cases lines with
  | nil => exact ⟨[none], .cons .nil .nil, rfl⟩
  | cons line rest =>
    have hsplit : (writeTable (line :: rest)).toList.splitOn '\n' = (line :: rest).map WrittenLine.text := by
      rw [writeTable, String.toList_ofList, List.splitOn_intercalate]
      · intro text htext
        obtain ⟨l, -, rfl⟩ := List.mem_map.mp htext
        exact l.not_mem_text
      · exact List.cons_ne_nil _ _
    refine ⟨(line :: rest).map WrittenLine.entry, ?_, ?_⟩
    · rw [hsplit, List.forall₂_map_left_iff, List.forall₂_map_right_iff, List.forall₂_same]
      intro l _
      exact l.lineDenotes
    · rw [List.reduceOption, List.filterMap_map]
      rfl

theorem load_iff_denotes (origin : String) (gates : GateSet) :
    (∀ (source : String) (entries : List Entry),
      (∃ loaded, loadTable origin source gates = .ok loaded ∧ loaded.registry.entries = entries) ↔
        Denotes source entries ∧ (entries.map (·.name.text)).Nodup ∧ ∀ e ∈ entries, e.Resolved gates) ∧
    ∀ lines : List WrittenLine, ((lines.filterMap WrittenLine.entry).map (·.name.text)).Nodup →
      (∀ e ∈ lines.filterMap WrittenLine.entry, e.Resolved gates) →
      ∃ loaded, loadTable origin (writeTable lines) gates = .ok loaded ∧
        loaded.registry.entries = lines.filterMap WrittenLine.entry := by
  refine ⟨fun source entries => loaded_entries_iff, ?_⟩
  intro lines hnodup hresolved
  exact loaded_entries_iff.mpr ⟨writeTable_denotes lines, hnodup, hresolved⟩

def bareLine (entry : Option Entry) : WrittenLine :=
  let blank : Padding := ⟨[], by decide⟩
  ⟨entry, blank, ⟨[' '], by decide⟩, by decide, blank, blank, blank, blank, none⟩

def gatedEntry : Entry := ⟨⟨"soft", rfl⟩, .gated ⟨⟨"if_", rfl⟩, .soft⟩⟩

def unevenTable : List WrittenLine :=
  [{ bareLine (some ⟨⟨"Leaf", rfl⟩, .always⟩) with trail := ⟨['\r'], by decide⟩ },
    bareLine none,
    { bareLine (some gatedEntry) with
      lead := ⟨['\t'], by decide⟩, beforeOpen := ⟨[' '], by decide⟩, beforeClose := ⟨[' ', '\t'], by decide⟩,
      comment := some ⟨"(gated)\r".toList, by decide⟩ },
    bareLine none]

theorem load_iff_denotes_unevenTable :
    writeTable unevenTable = "Leaf\r\n\n\tsoft soft (if_ \t)#(gated)\r\n" ∧
      ∃ loaded, loadTable "kinds" (writeTable unevenTable) (.ofList [("if_", false)]) = .ok loaded ∧
        loaded.registry.entries = [⟨⟨"Leaf", rfl⟩, .always⟩, gatedEntry] :=
  ⟨by decide, (load_iff_denotes "kinds" (.ofList [("if_", false)])).2 unevenTable (by decide) (by decide)⟩

end KindTable
