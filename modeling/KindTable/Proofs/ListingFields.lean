import Std.Data.String.ToNat
import Mathlib.Data.List.Nodup
import KindTable.Listing
import KindTable.Proofs.LineEndings
import KindTable.Proofs.Ungated
import KindTable.Text.Numeral
import KindTable.Unicode.Blank

namespace KindTable

def fields (text : List Char) : List String :=
  ((text.splitOnP Unicode.isBlank).filter (· ≠ [])).map .ofList

def IsField (text : String) : Prop := text ≠ "" ∧ ∀ c ∈ text.toList, Unicode.isBlank c = false

instance (text : String) : Decidable (IsField text) :=
  decidable_of_iff (text ≠ "" ∧ text.toList.all (!Unicode.isBlank ·) = true) (by simp [IsField])

def IsSpaced (text : String) : Prop := ∀ c ∈ text.toList, c = ' ' ∨ Unicode.isBlank c = false

instance (text : String) : Decidable (IsSpaced text) :=
  decidable_of_iff (text.toList.all (fun c => c = ' ' || !Unicode.isBlank c) = true) (by simp [IsSpaced])

section

variable {first second : String} {rest : List Char}

theorem IsSpaced.append (hfirst : IsSpaced first) (hsecond : IsSpaced second) : IsSpaced (first ++ second) := by
  rw [IsSpaced, String.toList_append]
  exact List.forall_mem_append.mpr ⟨hfirst, hsecond⟩

theorem IsField.isSpaced (h : IsField first) : IsSpaced first := fun c hc => .inr (h.2 c hc)

theorem textLines_of_isSpaced {lines : List String} (h : ∀ line ∈ lines, IsSpaced line) :
    textLines (joinLines lines) = lines := by
  apply textLines_joinLines
  intro line hline
  have hbreak {c : Char} (hblank : Unicode.isBlank c = true) (hc : c ≠ ' ') : c ∉ line.toList := by
    intro hmem
    rcases h line hline c hmem with heq | hfield
    · exact hc heq
    · rw [hblank] at hfield
      cases hfield
  exact ⟨hbreak (by decide) (by decide), fun hlast => hbreak (by decide) (by decide) (List.mem_of_getLast? hlast)⟩

theorem IsField.append (hfirst : IsField first) (hsecond : IsField second) : IsField (first ++ second) := by
  constructor
  · simp [hfirst.1]
  · rw [String.toList_append]
    exact List.forall_mem_append.mpr ⟨hfirst.2, hsecond.2⟩

theorem fields_of_isField (h : IsField first) : fields first.toList = [first] := by
  simp [fields, List.splitOnP_eq_singleton h.2, h.1]

theorem fields_isField_append (h : IsField first) : fields (first.toList ++ ' ' :: rest) = first :: fields rest := by
  rw [fields, List.splitOnP_append_cons_of_forall_mem h.2 ' ' (by decide), List.filter_cons_of_pos (by simpa using h.1),
    List.map_cons, String.ofList_toList, fields]

theorem fields_replicate_append (count : Nat) : fields (List.replicate count ' ' ++ rest) = fields rest := by
  induction count with
  | zero => rfl
  | succ count ih =>
    rw [List.replicate_succ, List.cons_append, fields, List.splitOnP_cons_eq_if_modifyHead, if_pos (by decide),
      List.filter_cons_of_neg (by simp), ← fields, ih]

end

theorem isBlank_eq_false_of_isWordChar {c : Char} (h : isWordChar c = true) : Unicode.isBlank c = false :=
  @wordChar_forall (fun c => Unicode.isBlank c = false) (by decide +kernel) c h

theorem isDigit_eq_false_of_opensIdentifier {c : Char} (h : opensIdentifier c = true) : c.isDigit = false :=
  @wordChar_forall (fun c => opensIdentifier c = true → c.isDigit = false) (by decide +kernel) c
    (isWordChar_of_opensIdentifier h) h

theorem isField_identifier (i : Identifier) : IsField i.text := by
  constructor
  · simp [← String.toList_eq_nil_iff, i.toList_ne_nil]
  · exact fun c hc => isBlank_eq_false_of_isWordChar (i.isWordChar_of_mem c hc)

theorem isField_inclusion (i : Inclusion) : IsField i.text := by
  cases i <;> decide +kernel

theorem isField_toString (n : Nat) : IsField (toString n) := by
  constructor
  · simp
  · exact fun c hc => isBlank_eq_false_of_isWordChar (isWordChar_of_mem_toString c hc)

theorem Identifier.isDigit_head (i : Identifier) : ∀ c ∈ i.text.toList.head?, c.isDigit = false := by
  have hvalid := i.valid
  unfold isIdentifier at hvalid
  split at hvalid
  · cases hvalid
  · rename_i first later htext
    simp only [Bool.and_eq_true] at hvalid
    rw [htext]
    rintro c ⟨⟩
    exact isDigit_eq_false_of_opensIdentifier hvalid.1.1

def Inclusion.ofText? (text : String) : Option Inclusion :=
  [.always, .gateOn, .softFallback, .excluded].find? (·.text = text)

theorem Inclusion.ofText?_text (i : Inclusion) : ofText? i.text = some i := by
  cases i <;> decide +kernel

def readOpcode : List Char → Option Opcode × List Char
  | '-' :: rest => (none, rest)
  | text => ((readNumeral text).map (fun n => some (.ofIndex n)) id)

namespace ListingLine

variable {width : Nat} {opcode : Option Opcode} {name : Identifier} {inclusion : Inclusion}

def row (width : Nat) (l : ListingLine) : String :=
  padRight 6 l.opcodeText ++ padRight width l.name ++ "  " ++ l.inclusion.text

theorem text_eq (l : ListingLine) : l.text width = l.row width ++ "\n" := rfl

theorem isField_opcodeText (l : ListingLine) : IsField l.opcodeText := by
  unfold opcodeText
  split
  · exact isField_toString _
  · decide +kernel

def later (width : Nat) (l : ListingLine) : List Char :=
  l.name.toList ++ ' ' :: (List.replicate (width - l.name.length + 1) ' ' ++ l.inclusion.text.toList)

theorem toList_row (l : ListingLine) :
    (l.row width).toList =
      l.opcodeText.toList ++ (List.replicate (6 - l.opcodeText.length) ' ' ++ l.later width) := by
  simp only [row, padRight, blanks, later, String.toList_append, String.toList_ofList, List.append_assoc]
  congr 3
  change List.replicate (width - l.name.length) ' ' ++ ' ' :: ' ' :: l.inclusion.text.toList = _
  rw [List.append_cons, ← List.replicate_succ', List.append_cons, ← List.replicate_succ', List.replicate_succ,
    List.cons_append]

theorem fields_later : fields (later width ⟨opcode, name.text, inclusion⟩) = [name.text, inclusion.text] := by
  rw [later, fields_isField_append (isField_identifier name), fields_replicate_append,
    fields_of_isField (isField_inclusion inclusion)]

theorem fields_row : fields (row width ⟨opcode, name.text, inclusion⟩).toList =
    if (opcodeText ⟨opcode, name.text, inclusion⟩).length < 6 then
      [opcodeText ⟨opcode, name.text, inclusion⟩, name.text, inclusion.text]
    else [opcodeText ⟨opcode, name.text, inclusion⟩ ++ name.text, inclusion.text] := by
  have hopcode := isField_opcodeText ⟨opcode, name.text, inclusion⟩
  rw [toList_row]
  split
  · rename_i hshort
    obtain ⟨count, hcount⟩ : ∃ count, 6 - (opcodeText ⟨opcode, name.text, inclusion⟩).length = count + 1 :=
      Nat.exists_eq_succ_of_ne_zero (by omega)
    rw [hcount, List.replicate_succ, List.cons_append, fields_isField_append hopcode, fields_replicate_append,
      fields_later]
  · rename_i hlong
    rw [Nat.sub_eq_zero_of_le (Nat.le_of_not_lt hlong), List.replicate_zero, List.nil_append, later,
      ← List.append_assoc, ← String.toList_append, fields_isField_append (hopcode.append (isField_identifier name)),
      fields_replicate_append, fields_of_isField (isField_inclusion inclusion)]

theorem readOpcode_opcodeText (l : ListingLine) {rest : List Char} (h : ∀ c ∈ rest.head?, c.isDigit = false) :
    readOpcode (l.opcodeText.toList ++ rest) = (l.opcode, rest) := by
  unfold opcodeText
  split
  · rename_i o ho
    rw [ho]
    unfold readOpcode
    split
    · rename_i htext
      obtain ⟨first, digits, hdigits⟩ := List.exists_cons_of_ne_nil (toList_toString_ne_nil o.index)
      rw [Opcode.text, hdigits] at htext
      obtain rfl : first = '-' := (List.cons.inj htext).1
      cases isDigit_of_mem_toString '-' (hdigits ▸ List.mem_cons_self)
    · rw [Opcode.text, readNumeral_toString _ h, Prod.map_apply, Opcode.ofIndex_index, id]
  · rename_i ho
    rw [ho]
    rfl

def read? (line : String) : Option ListingLine :=
  let (opcode, rest) := readOpcode line.toList
  match fields rest with
  | [name, why] => (Inclusion.ofText? why).map (⟨opcode, name, ·⟩)
  | _ => none

theorem read?_row : read? (row width ⟨opcode, name.text, inclusion⟩) = some ⟨opcode, name.text, inclusion⟩ := by
  have hhead : ∀ c ∈ (List.replicate (6 - (opcodeText ⟨opcode, name.text, inclusion⟩).length) ' ' ++
      later width ⟨opcode, name.text, inclusion⟩).head?, c.isDigit = false := by
    intro c hc
    rw [List.head?_append, Option.mem_def, Option.or_eq_some_iff] at hc
    rcases hc with hblank | ⟨-, hname⟩
    · obtain rfl := List.eq_of_mem_replicate (List.mem_of_head? hblank)
      rfl
    · rw [later, List.head?_append_of_ne_nil _ name.toList_ne_nil] at hname
      exact name.isDigit_head c hname
  simp only [read?, toList_row, readOpcode_opcodeText _ hhead, fields_replicate_append, fields_later,
    Inclusion.ofText?_text, Option.map_some]

theorem length_toString_lt_iff (n : Nat) : (toString n).length < 6 ↔ n < 100000 := by
  rw [Nat.lt_succ_iff]
  exact Nat.length_repr_le_iff (by decide)

theorem length_opcodeText_lt_iff (l : ListingLine) :
    l.opcodeText.length < 6 ↔ ∀ o ∈ l.opcode, o.index < 100000 := by
  unfold opcodeText
  split
  · rename_i o ho
    simp only [ho, Option.mem_some_iff, forall_eq', Opcode.text, length_toString_lt_iff]
  · rename_i ho
    have hdash : "-".length < 6 := by decide
    simp [ho, hdash]

theorem isSpaced_row : IsSpaced (row width ⟨opcode, name.text, inclusion⟩) := by
  have hblanks (count : Nat) : IsSpaced (blanks count) := by
    intro c hc
    rw [blanks, String.toList_ofList] at hc
    exact .inl (List.eq_of_mem_replicate hc)
  have hname : IsSpaced (padRight width name.text) := (isField_identifier name).isSpaced.append (hblanks _)
  have hopcode : IsSpaced (padRight 6 (opcodeText ⟨opcode, name.text, inclusion⟩)) :=
    (isField_opcodeText _).isSpaced.append (hblanks _)
  have hgap : IsSpaced "  " := by decide +kernel
  exact ((hopcode.append hname).append hgap).append (isField_inclusion inclusion).isSpaced

end ListingLine

namespace Selection

variable {s : Selection} {k : Nat} {e : Entry} {i : Inclusion}

theorem getElem?_listingLines (h : s.decided[k]? = some (e, i)) :
    s.listingLines[k]? = some ⟨s.opcodeOf? e.name.text, e.name.text, i⟩ := by
  rw [listingLines, List.getElem?_map, getElem?_slots_reserve, h, opcodeOf?_of_decided h]
  cases i <;> rfl

theorem exists_of_mem_listingLines {l : ListingLine} (h : l ∈ s.listingLines) :
    ∃ opcode, ∃ name : Identifier, ∃ inclusion, l = ⟨opcode, name.text, inclusion⟩ := by
  obtain ⟨slot, -, rfl⟩ := List.mem_map.mp h
  exact ⟨_, slot.entry.name, _, rfl⟩

theorem length_listingLines (s : Selection) : s.listingLines.length = s.registry.size := by
  rw [listingLines, List.length_map, length_slots, width]

def countRow (s : Selection) : String :=
  toString s.size ++ " active / " ++ toString s.registry.size ++ " declared"

theorem listing_eq (s : Selection) :
    s.listing = joinLines (s.listingLines.map (·.row s.nameWidth) ++ [s.countRow]) := by
  have hcount : s.countLine = s.countRow ++ "\n" := by
    have hlast : " declared\n" = " declared" ++ "\n" := by decide
    rw [countLine, countRow, hlast, ← String.append_assoc]
  simp [listing, joinLines, hcount, ListingLine.text_eq, Function.comp_def]

theorem textLines_listing (s : Selection) :
    textLines s.listing = s.listingLines.map (·.row s.nameWidth) ++ [s.countRow] := by
  rw [listing_eq]
  apply textLines_of_isSpaced
  intro line hline
  rcases List.mem_append.mp hline with hrow | hcount
  · obtain ⟨l, hl, rfl⟩ := List.mem_map.mp hrow
    obtain ⟨opcode, name, inclusion, rfl⟩ := exists_of_mem_listingLines hl
    exact ListingLine.isSpaced_row
  · obtain rfl := List.mem_singleton.mp hcount
    have hactive : IsSpaced " active / " := by decide +kernel
    have hdeclared : IsSpaced " declared" := by decide +kernel
    exact (((isField_toString _).isSpaced.append hactive).append (isField_toString _).isSpaced).append hdeclared

structure Listed (s : Selection) (lines : List String) : Prop where
  length : lines.length = s.registry.size + 1
  counts : lines.getLast? = some (toString s.size ++ " active / " ++ toString s.registry.size ++ " declared")
  dash : ∀ (k : Nat) (e : Entry) (i : Inclusion), s.decided[k]? = some (e, i) →
    (s.opcodeOf? e.name.text = none ↔ i = .excluded)
  row : ∀ (k : Nat) (e : Entry) (i : Inclusion), s.decided[k]? = some (e, i) →
    ∃ line : String, lines[k]? = some line ∧
      ListingLine.read? line = some ⟨s.opcodeOf? e.name.text, e.name.text, i⟩ ∧
      fields line.toList =
        match s.opcodeOf? e.name.text with
        | none => ["-", e.name.text, i.text]
        | some o => if o.index < 100000 then [o.text, e.name.text, i.text] else [o.text ++ e.name.text, i.text]

theorem getElem?_textLines_listing (h : s.decided[k]? = some (e, i)) :
    (textLines s.listing)[k]? =
      some (ListingLine.row s.nameWidth ⟨s.opcodeOf? e.name.text, e.name.text, i⟩) := by
  have hrow := getElem?_listingLines h
  have hlt := (List.getElem?_eq_some_iff.mp hrow).1
  rw [textLines_listing, List.getElem?_append_left (by rwa [List.length_map]), List.getElem?_map, hrow, Option.map_some]

theorem listed (s : Selection) : Listed s (textLines s.listing) := by
  constructor
  case length => rw [textLines_listing, List.length_append, List.length_map, length_listingLines, List.length_singleton]
  case counts => rw [textLines_listing, List.getLast?_concat, countRow]
  case dash =>
    intro k e i h
    rw [opcodeOf?_of_decided h]
    cases i <;> simp [Inclusion.isActive]
  case row =>
    intro k e i h
    refine ⟨_, getElem?_textLines_listing h, ListingLine.read?_row, ?_⟩
    rw [ListingLine.fields_row]
    simp only [ListingLine.length_opcodeText_lt_iff]
    cases s.opcodeOf? e.name.text with
    | none => rfl
    | some o => simp [ListingLine.opcodeText]

theorem fields_iff (h : s.decided[k]? = some (e, i)) :
    (∃ line : String, (textLines s.listing)[k]? = some line ∧
        fields line.toList = [((s.opcodeOf? e.name.text).map Opcode.text).getD "-", e.name.text, i.text]) ↔
      ∀ o ∈ s.opcodeOf? e.name.text, o.index < 100000 := by
  obtain ⟨line, hline, -, hfields⟩ := s.listed.row k e i h
  simp only [hline, Option.some.injEq, exists_eq_left', hfields]
  cases s.opcodeOf? e.name.text with
  | none => simp
  | some o => by_cases hshort : o.index < 100000 <;> simp [hshort]

theorem forall_index_lt_iff :
    (∀ (k : Nat) (e : Entry) (i : Inclusion), s.decided[k]? = some (e, i) →
        ∀ o ∈ s.opcodeOf? e.name.text, o.index < 100000) ↔ s.size ≤ 100000 := by
  have hindex {n : Nat} (hn : n ≤ 100000) : (Opcode.ofIndex n).index = n :=
    Opcode.index_ofIndex (Nat.lt_of_le_of_lt hn (by decide))
  constructor
  · intro h
    by_contra hlarge
    obtain ⟨a, ha⟩ : ∃ a, s.active[100000]? = some a :=
      ⟨_, List.getElem?_eq_getElem (Nat.lt_of_not_le hlarge)⟩
    obtain ⟨hdecided, hactive, -, hbefore⟩ := getElem?_active ha
    have hopcode : s.opcodeOf? a.entry.name.text = some (.ofIndex 100000) := by
      rw [opcodeOf?_of_decided hdecided, if_pos hactive, hbefore]
    have hlt := h _ _ _ hdecided _ hopcode
    rw [hindex (Nat.le_refl _)] at hlt
    exact Nat.lt_irrefl _ hlt
  · intro hsize k e i h o ho
    obtain ⟨n, a, ha, rfl, -⟩ := exists_active_of_opcodeOf? ho
    have hlt : n < s.size := (List.getElem?_eq_some_iff.mp ha).1
    rw [hindex (by omega)]
    omega

end Selection

theorem listing_fields (s : Selection) :
    s.Listed (textLines s.listing) ∧
      ((∀ (k : Nat) (e : Entry) (i : Inclusion), s.decided[k]? = some (e, i) →
          ∃ line : String, (textLines s.listing)[k]? = some line ∧
            fields line.toList = [((s.opcodeOf? e.name.text).map Opcode.text).getD "-", e.name.text, i.text]) ↔
        s.size ≤ 100000) := by
  refine ⟨s.listed, ?_⟩
  rw [← Selection.forall_index_lt_iff]
  exact forall₄_congr fun k e i h => Selection.fields_iff h

theorem isIdentifier_numbered (n : Nat) : isIdentifier ("N" ++ toString n) = true := by
  have htext : ("N" ++ toString n).toList = 'N' :: (toString n).toList := by simp
  have hreserved : isReserved ("N" ++ toString n) = false := by
    have hnone : ∀ w ∈ reservedWords, w.toList.head? ≠ some 'N' := by decide +kernel
    rw [isReserved, List.contains_eq_mem, decide_eq_false_iff_not]
    intro hmem
    exact hnone _ hmem (by rw [htext]; rfl)
  simp only [isIdentifier, htext, hreserved, Bool.not_false, Bool.and_true, Bool.and_eq_true, List.all_eq_true]
  exact ⟨by decide, isWordChar_of_mem_toString⟩

def numberedEntry (n : Nat) : Entry := ⟨⟨"N" ++ toString n, isIdentifier_numbered n⟩, .always⟩

def numberedEntries (count : Nat) : List Entry := (List.range count).map numberedEntry

section

variable {count n : Nat}

theorem mode_of_mem_numbered : ∀ e ∈ numberedEntries count, e.mode = .always := by
  intro e he
  obtain ⟨n, -, rfl⟩ := List.mem_map.mp he
  rfl

theorem nodup_numbered (count : Nat) : ((numberedEntries count).map (·.name.text)).Nodup := by
  rw [numberedEntries, List.map_map]
  refine List.Nodup.map (fun m n h => ?_) List.nodup_range
  exact Nat.repr_inj.mp (String.append_right_inj "N" |>.mp h)

def numberedRegistry (count : Nat) : Registry := ⟨numberedEntries count, nodup_numbered count⟩

def numberedSelection (count : Nat) : Selection :=
  ⟨numberedRegistry count, List.replicate count .always, by simp [numberedRegistry, numberedEntries]⟩

theorem load_numbered (count : Nat) (origin : String) (gates : GateSet) :
    ∃ loaded, loadTable origin (joinLines ((List.range count).map fun n => "N" ++ toString n)) gates = .ok loaded ∧
      loaded.registry = numberedRegistry count := by
  have hnames : (numberedEntries count).map (·.name.text) = (List.range count).map fun n => "N" ++ toString n := by
    rw [numberedEntries, List.map_map]
    rfl
  obtain ⟨⟨spans, ⟨entries, nodup⟩⟩, hload, hentries⟩ :=
    load_always mode_of_mem_numbered (nodup_numbered count) origin gates
  rw [hnames] at hload
  cases hentries
  exact ⟨_, hload, rfl⟩

theorem select_numbered (gates : GateSet) (fallback : SoftFallback) :
    (numberedRegistry count).select gates fallback = .ok (numberedSelection count) := by
  refine select_eq_ok_iff.mpr ⟨rfl, ?_⟩
  rw [numberedRegistry, inclusions_always mode_of_mem_numbered, numberedSelection, List.map_const', numberedEntries,
    List.length_map, List.length_range]

theorem decided_numbered (h : n < count) :
    (numberedSelection count).decided[n]? = some (numberedEntry n, .always) := by
  rw [Selection.getElem?_decided]
  constructor
  · simp [numberedSelection, numberedRegistry, numberedEntries, h]
  · simp [numberedSelection, h]

theorem opcodeOf?_numbered (h : n < count) :
    (numberedSelection count).opcodeOf? (numberedEntry n).name.text = some (.ofIndex n) := by
  have hactive : Inclusion.always.isActive = true := rfl
  have hbefore : activeBefore (numberedSelection count).decided n = n := by
    rw [Selection.activeBefore_decided]
    simp [numberedSelection, Nat.min_eq_left (Nat.le_of_lt h), List.countP_replicate, hactive]
  rw [Selection.opcodeOf?_of_decided (decided_numbered h), hbefore, if_pos hactive]

end

theorem listing_joins_columns :
    ∃ loaded, loadTable "kinds" (joinLines ((List.range 100001).map fun n => "N" ++ toString n)) .empty = .ok loaded ∧
      ∃ s, loaded.registry.select .empty .drop = .ok s ∧
        s.decided[100000]? = some (⟨⟨"N100000", rfl⟩, .always⟩, .always) ∧
        s.opcodeOf? "N100000" = some (.ofIndex 100000) ∧
        ∃ line : String, (textLines s.listing)[100000]? = some line ∧ fields line.toList = ["100000N100000", "always"] := by
  have hdecided : (numberedSelection 100001).decided[100000]? = some (numberedEntry 100000, .always) :=
    decided_numbered (by decide)
  have hopcode : (numberedSelection 100001).opcodeOf? (numberedEntry 100000).name.text = some (.ofIndex 100000) :=
    opcodeOf?_numbered (by decide)
  obtain ⟨loaded, hload, hregistry⟩ := load_numbered 100001 "kinds" .empty
  refine ⟨loaded, hload, numberedSelection 100001, ?_, hdecided, hopcode, ?_⟩
  · rw [hregistry, select_numbered]
  · obtain ⟨line, hline, -, hfields⟩ := (numberedSelection 100001).listed.row _ _ _ hdecided
    refine ⟨line, hline, ?_⟩
    rw [hfields, hopcode]
    rfl

end KindTable
