import Mathlib.Data.List.Basic
import KindTable.Code.Set
import KindTable.Generate

namespace KindTable

theorem filter_filterMap_eq {α β γ : Type} [DecidableEq γ] {xs : List α} {f : α → Option β} {key : β → γ}
    {label : α → γ} (hnodup : (xs.map label).Nodup) (hkey : ∀ a ∈ xs, ∀ b, f a = some b → key b = label a) {a : α}
    (ha : a ∈ xs) : (xs.filterMap f).filter (key · == label a) = (f a).toList := by
  induction xs with
  | nil => cases ha
  | cons x rest ih =>
    obtain ⟨hfresh, hnodup⟩ := List.nodup_cons.mp hnodup
    obtain ⟨hx, hrest⟩ := List.forall_mem_cons.mp hkey
    rcases List.mem_cons.mp ha with rfl | ha
    · have hmiss : (rest.filterMap f).filter (key · == label a) = [] := by
        rw [List.filter_eq_nil_iff]
        intro b hb
        obtain ⟨other, hother, hf⟩ := List.mem_filterMap.mp hb
        have hne : label other ≠ label a := fun hsame => hfresh (List.mem_map.mpr ⟨other, hother, hsame⟩)
        simpa [hrest other hother b hf] using hne
      cases hf : f a with
      | none => rw [List.filterMap_cons_none hf, hmiss]; rfl
      | some b => rw [List.filterMap_cons_some hf, List.filter_cons_of_pos (by simpa using hx b hf), hmiss]; rfl
    · have hne : label x ≠ label a := fun hsame => hfresh (hsame ▸ List.mem_map_of_mem ha)
      cases hf : f x with
      | none => rw [List.filterMap_cons_none hf, ih hnodup hrest ha]
      | some b =>
        rw [List.filterMap_cons_some hf, List.filter_cons_of_neg (by simpa [hx b hf] using hne), ih hnodup hrest ha]

theorem filter_map_eq {α β γ : Type} [DecidableEq γ] {xs : List α} {f : α → β} {key : β → γ} {label : α → γ}
    (hnodup : (xs.map label).Nodup) (hkey : ∀ a ∈ xs, key (f a) = label a) {a : α} (ha : a ∈ xs) :
    (xs.map f).filter (key · == label a) = [f a] := by
  rw [← List.filterMap_eq_map]
  exact filter_filterMap_eq hnodup (fun x hx b hb => Option.some.inj hb ▸ hkey x hx) ha

theorem toNat_of_slot {s : Selection} {policy : SlotPolicy} (hsize : s.registry.size ≤ UInt32.size) :
    ∀ slot ∈ s.slots policy, (UInt32.ofNat slot.index).toNat = slot.index := by
  intro slot hslot
  rw [UInt32.toNat_ofNat', Nat.mod_eq_of_lt (Selection.index_lt_of_slot hsize hslot)]

theorem nodup_typeNames (s : Selection) (policy : SlotPolicy) :
    ((s.slots policy).map fun slot => slot.name ++ typeSuffix).Nodup := by
  have hnames := s.nodup_slots policy
  rw [List.Nodup, List.pairwise_map] at hnames ⊢
  exact hnames.imp fun hne hsame => hne ((String.append_left_inj typeSuffix).mp hsame)

theorem isReserved_iff_excluded {r : Registry} {gates : GateSet} {fallback : SoftFallback} {s : Selection}
    (hs : r.select gates fallback = .ok s) (hsize : s.registry.size ≤ UInt32.size) {policy : SlotPolicy} {i : Nat}
    {slot : Slot} (h : (s.slots policy)[i]? = some slot) :
    slot.isReserved = true ↔ slot.entry.inclusion gates fallback = .ok .excluded := by
  obtain ⟨-, hreserved, position, hdecided, -⟩ := Selection.slot_spec hsize h
  obtain ⟨hentry, hdecision⟩ := Selection.getElem?_decided.mp hdecided
  obtain ⟨rfl, hdecisions⟩ := select_eq_ok_iff.mp hs
  obtain ⟨inclusion, hinclusion, hdecide⟩ := getElem?_inclusions hdecisions hentry
  obtain rfl : inclusion = slot.inclusion := Option.some.inj (hinclusion.symm.trans hdecision)
  rw [hreserved, hdecide, Except.ok.injEq]
  cases slot.inclusion <;> decide

theorem ensureAligned_opcodeRows {α : Type} (s : Selection) (c : Config) (b : RowConsumer α)
    (h : b.policy = c.policy) :
    ensureAligned (s.opcodeRows c.policy) (RowConsumer.artifact b s) = .ok () :=
  ensureAligned_artifact s h.symm

variable [Toolkit]

def Selection.code (s : Selection) (policy : SlotPolicy) : Except EmissionError CodeSet :=
  (s.visitorTable policy).map fun table =>
    ⟨.ofRows (s.opcodeRows policy).rows, .ofRows (s.nameRows policy).rows, .ofRows (s.stubRows policy).rows,
      .ofRows table.rows⟩

theorem opcodes_of_slots (s : Selection) (policy : SlotPolicy) :
    .ofRows (s.opcodeRows policy).rows = (CodeSet.ofSlots (s.slots policy)).opcodes := by
  rw [Selection.opcodeRows, RowConsumer.rows_artifact]
  simp only [OpcodeCode.ofRows, List.map_map, List.length_map]
  rfl

theorem names_of_slots (s : Selection) (policy : SlotPolicy) :
    .ofRows (s.nameRows policy).rows = (CodeSet.ofSlots (s.slots policy)).names := by
  rw [Selection.nameRows, RowConsumer.rows_artifact]
  simp only [NameCode.ofRows, List.map_map, List.length_map]
  rfl

theorem stubs_of_slots (s : Selection) (policy : SlotPolicy) :
    .ofRows (s.stubRows policy).rows = (CodeSet.ofSlots (s.slots policy)).stubs := by
  rw [Selection.stubRows, RowConsumer.rows_artifact]
  simp only [StubCode.ofRows, CodeSet.ofSlots, ← List.filterMap_eq_filter, ← List.filterMap_eq_map,
    List.filterMap_filterMap]
  congr 2
  funext slot
  cases hreserved : slot.isReserved <;> simp [stubConsumer, Id.run, hreserved, Option.guard]

theorem visitor_of_slots {s : Selection} {policy : SlotPolicy} {table : Artifact (DispatchRow String)}
    (h : s.visitorTable policy = .ok table) :
    .ofRows table.rows = (CodeSet.ofSlots (s.slots policy)).visitor := by
  rw [Selection.rows_of_visitorTable h]
  simp only [VisitorCode.ofRows, CodeSet.ofSlots, List.map_map, List.filterMap_map]
  rfl

theorem code_eq_ok_iff {s : Selection} {policy : SlotPolicy} {code : CodeSet} : s.code policy = .ok code ↔
    (∃ table, s.visitorTable policy = .ok table) ∧ .ofSlots (s.slots policy) = code := by
  simp only [Selection.code, map_eq_ok_iff, opcodes_of_slots, names_of_slots, stubs_of_slots]
  constructor
  · rintro ⟨table, htable, rfl⟩
    exact ⟨⟨table, htable⟩, by rw [visitor_of_slots htable]⟩
  · rintro ⟨⟨table, htable⟩, rfl⟩
    exact ⟨table, htable, by rw [visitor_of_slots htable]⟩

section

variable (s : Selection) (c : Config)

theorem outputText_opcodes : s.outputText c .opcodes = (CodeSet.ofSlots (s.slots c.policy)).opcodes.file.print := by
  rw [← opcodes_of_slots]
  rfl

theorem outputText_names : s.outputText c .names = (CodeSet.ofSlots (s.slots c.policy)).names.file.print := by
  rw [← names_of_slots, Selection.outputText, Selection.nameRows, ensureAligned_opcodeRows s c _ rfl]
  rfl

theorem outputText_stubs : s.outputText c .stubs = (CodeSet.ofSlots (s.slots c.policy)).stubs.file.print := by
  rw [← stubs_of_slots, Selection.outputText, Selection.stubRows, ensureAligned_opcodeRows s c _ rfl]
  rfl

theorem outputText_visitor {table : Artifact (DispatchRow String)} (h : s.visitorTable c.policy = .ok table) :
    s.outputText c .visitor = (CodeSet.ofSlots (s.slots c.policy)).visitor.file.print := by
  have haligned : ensureAligned (s.opcodeRows c.policy) table = .ok () := by
    rw [Selection.visitorTable_eq_ok h]
    exact ensureAligned_opcodeRows s c _ rfl
  rw [← visitor_of_slots h, Selection.outputText, h]
  change (ensureAligned (s.opcodeRows c.policy) table >>= fun _ => (VisitorCode.ofRows table.rows).file.print) = _
  rw [haligned]
  rfl

theorem outputText_manifest : s.outputText c .manifest =
    (Manifest.ofArtifact s c.gates c.fallback (s.manifestRows c.policy)).text := by
  rw [Selection.outputText, Selection.manifestRows, ensureAligned_opcodeRows s c _ rfl]
  rfl

end

theorem outputText_of_code {s : Selection} {c : Config} {code : CodeSet} (h : s.code c.policy = .ok code) :
    ∀ f ∈ code.files, s.outputText c f.output = f.print := by
  obtain ⟨⟨table, htable⟩, rfl⟩ := code_eq_ok_iff.mp h
  simp only [CodeSet.files, List.forall_mem_cons, List.not_mem_nil, false_imp_iff, implies_true, and_true]
  exact ⟨outputText_opcodes s c, outputText_names s c, outputText_stubs s c, outputText_visitor s c htable⟩

theorem exists_code_of_emit {s : Selection} {c : Config} {files : FileSet} (h : s.emit c = .ok files)
    (hwants : ∀ o, c.wants o = true) : ∃ code, s.code c.policy = .ok code ∧
      ∀ f ∈ code.files, ∃ text, f.print = .ok text ∧ files.get? f.output.fileName = some text := by
  obtain ⟨text, hvisitor, -⟩ := Selection.text_of_emit h (hwants .visitor)
  obtain ⟨table, htable, -⟩ := bind_eq_ok_iff.mp hvisitor
  have hcode : s.code c.policy = .ok (.ofSlots (s.slots c.policy)) := code_eq_ok_iff.mpr ⟨⟨table, htable⟩, rfl⟩
  refine ⟨_, hcode, ?_⟩
  intro f hf
  obtain ⟨text, htext, hfile⟩ := Selection.text_of_emit h (hwants f.output)
  rw [outputText_of_code hcode f hf] at htext
  exact ⟨text, htext, hfile⟩

theorem methods_of_slots (s : Selection) (policy : SlotPolicy) :
    (CodeSet.ofSlots (s.slots policy)).visitor.methods = s.active.map fun a => ⟨methodName a.name, a.name⟩ := by
  rw [← Selection.filterMap_active?_slots s policy, List.map_filterMap]
  refine congrArg (List.filterMap · (s.slots policy)) (funext fun slot => ?_)
  obtain ⟨index, occupant⟩ := slot
  cases occupant <;> rfl

end KindTable
