import KindTable.Proofs.ReadOnlyCommands
import KindTable.Proofs.TokenStream

namespace KindTable

theorem Spelled.text_ne_nil {kinds : List TokenKind} {text : List Char} (h : Spelled kinds text) (hne : kinds ≠ []) :
    text ≠ [] := by
  cases h with
  | nil => exact absurd rfl hne
  | layout hc h => exact List.cons_ne_nil _ _
  | openParen h => exact List.cons_ne_nil _ _
  | closeParen h => exact List.cons_ne_nil _ _
  | word hword hchars hend h => exact List.append_ne_nil_of_left_ne_nil hword _

theorem LineDenotes.line_ne_nil {line : List Char} {e : Entry} (h : LineDenotes line (some e)) : line ≠ [] := by
  rintro rfl
  exact h.text_ne_nil e.kinds_ne_nil rfl

-- A line that denotes an entry has a byte of its own beside the one that ends it.
theorem two_mul_length_le {lines : List (List Char)} {denoted : List (Option Entry)}
    (h : List.Forall₂ LineDenotes lines denoted) :
    2 * denoted.reduceOption.length ≤ utf8Length (List.intercalate ['\n'] lines) + 1 := by
  have hfeed : '\n'.utf8Size = 1 := rfl
  induction h with
  | nil => exact Nat.zero_le _
  | @cons line o lines denoted hline hrest ih =>
    have hone : 2 * [o].reduceOption.length ≤ utf8Length line + 1 := by
      cases o with
      | none => exact Nat.zero_le _
      | some e =>
        have hbytes := utf8Length_pos hline.line_ne_nil
        change 2 * 1 ≤ _
        omega
    have hlength : (o :: denoted).reduceOption.length = [o].reduceOption.length + denoted.reduceOption.length := by
      rw [← List.singleton_append, List.reduceOption_append, List.length_append]
    cases hrest with
    | nil => simpa using hone
    | cons hnext hlater =>
      rw [hlength, List.intercalate_cons_cons]
      simp only [utf8Length_append, utf8Length_cons, utf8Length_nil, hfeed]
      omega

theorem two_mul_size_le {origin source : String} {gates : GateSet} {loaded : LoadedTable}
    (h : loadTable origin source gates = .ok loaded) : 2 * loaded.registry.size ≤ source.utf8ByteSize + 1 := by
  obtain ⟨⟨denoted, hdenoted, hentries⟩, -, -⟩ := loaded_entries_iff.mp ⟨loaded, h, rfl⟩
  have hle := two_mul_length_le hdenoted
  rwa [hentries, List.intercalate_splitOn, utf8Length_toList] at hle

theorem Content.size_toBytes (content : Content) : content.toBytes.size = content.size := by
  cases content with
  | bytes data => rfl
  | zeros count => exact Array.size_replicate

theorem utf8ByteSize_of_readTable {d d' : Disk} {path : String} {t : TableSource}
    (h : d.run (readTable path) = (.ok t, d')) : t.source.utf8ByteSize ≤ largestTable := by
  obtain ⟨⟨size, hsize, hsmall⟩, hread, -, -⟩ := run_readTable_eq_ok_iff.mp h
  obtain ⟨content, hfind, hbytes⟩ := Disk.holds_iff_read.mpr hread
  have hcontent : t.source.utf8ByteSize = content.size := by
    rw [← content.size_toBytes, hbytes]
    rfl
  have hsame : content.size = size := Except.ok.inj ((Disk.size_of_find hfind).symm.trans hsize)
  rwa [hcontent, hsame]

structure Untruncated (s : Selection) : Prop where
  active : ∀ (k : Nat) (a : ActiveEntry), s.active[k]? = some a → a.opcode.index = k
  byName : ∀ name o, s.opcodeOf? name = some o → ∃ (k : Nat) (a : ActiveEntry), s.active[k]? = some a ∧
    a.name = name ∧ o.index = k
  rows : ∀ policy (k : Nat) (row : OpcodeRow), (s.opcodeRows policy).rows[k]? = some row →
    ∃ slot, (s.slots policy)[k]? = some slot ∧ slot.index = k ∧ row.id.toNat = k
  distinctOpcodes : (s.active.map (·.opcode)).Nodup
  distinctIds : ∀ policy, ((s.opcodeRows policy).rows.map (·.id)).Nodup

theorem nodup_of_getElem? {α : Type} {as : List α} (rank : α → Nat) (h : ∀ k a, as[k]? = some a → rank a = k) :
    as.Nodup := by
  rw [List.nodup_iff_getElem?_ne_getElem?]
  intro i j hij hj heq
  rw [List.getElem?_eq_getElem hj] at heq
  exact absurd ((h i _ heq).symm.trans (h j _ (List.getElem?_eq_getElem hj))) (Nat.ne_of_lt hij)

theorem untruncated_of_size_le {s : Selection} (hsize : s.registry.size ≤ UInt32.size) : Untruncated s := by
  have hactive : ∀ (k : Nat) (a : ActiveEntry), s.active[k]? = some a → a.opcode.index = k := by
    intro k a ha
    obtain ⟨-, -, hopcode, -⟩ := Selection.getElem?_active ha
    rw [hopcode, Opcode.index_ofIndex (Selection.lt_of_active hsize ha)]
  have hrows : ∀ policy (k : Nat) (row : OpcodeRow), (s.opcodeRows policy).rows[k]? = some row →
      ∃ slot, (s.slots policy)[k]? = some slot ∧ slot.index = k ∧ row.id.toNat = k := by
    intro policy k row hrow
    rw [Selection.opcodeRows, RowConsumer.getElem?_rows, Option.map_eq_some_iff] at hrow
    obtain ⟨slot, hslot, rfl⟩ := hrow
    have hindex := (Selection.slot_spec hsize hslot).1
    exact ⟨slot, hslot, hindex, (toNat_of_slot hsize slot (List.mem_of_getElem? hslot)).trans hindex⟩
  constructor
  case active => exact hactive
  case byName =>
    intro name o ho
    obtain ⟨k, a, ha, rfl, -⟩ := Selection.exists_active_of_opcodeOf? ho
    obtain ⟨b, hb, hname⟩ := (Selection.opcodeOf?_eq_some_iff hsize).mp ho
    exact ⟨_, b, hb, hname, rfl⟩
  case rows => exact hrows
  case distinctOpcodes =>
    refine nodup_of_getElem? Opcode.index fun k o ho => ?_
    rw [List.getElem?_map, Option.map_eq_some_iff] at ho
    obtain ⟨a, ha, rfl⟩ := ho
    exact hactive k a ha
  case distinctIds =>
    intro policy
    refine nodup_of_getElem? UInt32.toNat fun k id hid => ?_
    rw [List.getElem?_map, Option.map_eq_some_iff] at hid
    obtain ⟨row, hrow, rfl⟩ := hid
    obtain ⟨slot, -, -, hk⟩ := hrows policy k row hrow
    exact hk

theorem table_size_bounds_opcodes :
    (∀ origin source gates loaded, loadTable origin source gates = .ok loaded →
      2 * loaded.registry.size ≤ source.utf8ByteSize + 1) ∧
    ∀ (d d' : Disk) path t, d.run (readTable path) = (.ok t, d') → t.source.utf8ByteSize ≤ largestTable ∧
      ∀ gates loaded, loadTable t.origin t.source gates = .ok loaded →
        ∀ others fallback s, loaded.registry.select others fallback = .ok s → Untruncated s := by
  refine ⟨fun origin source gates loaded => two_mul_size_le, ?_⟩
  intro d d' path t hread
  have hbytes := utf8ByteSize_of_readTable hread
  refine ⟨hbytes, ?_⟩
  intro gates loaded hload others fallback s hselect
  have hentries := two_mul_size_le hload
  have hlargest : largestTable + 1 ≤ 2 * UInt32.size := by decide
  apply untruncated_of_size_le
  rw [(select_eq_ok_iff.mp hselect).1]
  omega

theorem table_size_bounds_opcodes_reserving :
    (currentDisk "").run (readTable "kinds") = (.ok ⟨"kinds", "A\nB if(X)", .empty⟩, currentDisk "") ∧
      "A\nB if(X)".utf8ByteSize ≤ largestTable ∧
      loadTable "kinds" "A\nB if(X)" reservingConfig.gates = .ok ⟨reservingDeclarations, reservingRegistry⟩ ∧
      2 * reservingRegistry.size ≤ "A\nB if(X)".utf8ByteSize + 1 ∧ Untruncated reservingSelection := by
  have hread : (currentDisk "").run (readTable "kinds") = (.ok ⟨"kinds", "A\nB if(X)", .empty⟩, currentDisk "") :=
    run_readTable_of_find rfl (by decide)
  obtain ⟨hbound, hfits⟩ := table_size_bounds_opcodes
  obtain ⟨hsmall, huntruncated⟩ := hfits _ _ _ _ hread
  exact ⟨hread, hsmall, load_reserving, hbound _ _ _ _ load_reserving,
    huntruncated _ _ load_reserving _ _ _ select_reserving⟩

end KindTable
