import KindTable.Code.Reader
import KindTable.Proofs.CodeReading
import KindTable.Proofs.Emission
import KindTable.Proofs.LayoutTokens
import KindTable.Proofs.LegalNames

namespace KindTable

structure PiecesAt (code : DeclaredCode) (i : Nat) (name : String) (reserved : Bool) : Prop where
  variant : code.opcodes.variants.filter (·.id.toNat == i) = [⟨name, .ofNat i, reserved⟩]
  listed : code.opcodes.all[i]? = some name
  converted : code.opcodes.fromArms.filter (·.id.toNat == i) = [⟨.ofNat i, name⟩]
  named : ∃ text, code.opcodes.nameArms.filter (·.variant == name) = [⟨name, text⟩] ∧ code.names.names[i]? = some text
  dispatched : ∃ method, code.visitor.arms.filter (·.variant == name) = [⟨name, method⟩] ∧
    (method = none ↔ reserved = true) ∧ ∀ m, method = some m →
      m ≠ fallbackMethod ∧ code.visitor.methods.filter (·.name == m) = [⟨m, name⟩]
  stub : code.structs.filter (· == name ++ "Node") = if reserved then [] else [name ++ "Node"]

structure Listings (code : DeclaredCode) : Prop where
  variants : code.opcodes.variants.map (·.name) = code.opcodes.all
  ids : code.opcodes.variants.map (·.id.toNat) = List.range code.opcodes.count
  fromArms : code.opcodes.fromArms.map (·.id.toNat) = List.range code.opcodes.count
  nameArms : code.opcodes.nameArms.map (·.variant) = code.opcodes.all
  arms : code.visitor.arms.map (·.variant) = code.opcodes.all
  distinct : code.opcodes.all.Nodup
  count : code.opcodes.all.length = code.opcodes.count
  nameCount : code.names.count = code.opcodes.count ∧ code.names.names.length = code.opcodes.count

section

variable [Toolkit]

def DeclaredCode.ofSlots (slots : List Slot) : DeclaredCode where
  opcodes := (CodeSet.ofSlots slots).opcodes
  names := (CodeSet.ofSlots slots).names
  structs := (CodeSet.ofSlots slots).stubs.items.map (·.typeName)
  visitor := (CodeSet.ofSlots slots).visitor

theorem tokens_of_print [LawfulLayout] {slots : List Slot} {f : CodeFile} {text : String}
    (hf : f ∈ (CodeSet.ofSlots slots).files) (h : f.print = .ok text) : readTokens text = tokensOf f.body := by
  obtain ⟨-, -, htext⟩ := bind_eq_ok_iff.mp h
  obtain rfl : f.text = text := Except.ok.inj htext
  have hheader : readTokens fileHeader = [] := by decide +kernel
  rw [CodeFile.text, readTokens_append (by decide +kernel), hheader, List.nil_append]
  exact LawfulLayout.layout_file slots f hf

section

variable (slots : List Slot)

theorem readOpcodes_ofSlots : CodeReader.readOpcodes (tokensOf (CodeSet.ofSlots slots).opcodes.file.body) =
    some (DeclaredCode.ofSlots slots).opcodes :=
  CodeReader.readOpcodes_file (List.forall_mem_map.mpr fun slot _ => slot.entry.name.isWord)

theorem readNames_ofSlots : CodeReader.readNames (tokensOf (CodeSet.ofSlots slots).names.file.body) =
    some (DeclaredCode.ofSlots slots).names :=
  CodeReader.readNames_file (List.forall_mem_map.mpr fun slot _ => slot.entry.name.isWord)

theorem readStructs_ofSlots : CodeReader.readStructs (tokensOf (CodeSet.ofSlots slots).stubs.file.body) =
    some (DeclaredCode.ofSlots slots).structs := by
  apply CodeReader.readStructs_file
  intro item hitem
  obtain ⟨slot, -, hslot⟩ := List.mem_filterMap.mp hitem
  split at hslot
  · cases hslot
  · cases hslot
    exact slot.entry.name.isWord

theorem readVisitor_ofSlots : CodeReader.readVisitor (tokensOf (CodeSet.ofSlots slots).visitor.file.body) =
    some (DeclaredCode.ofSlots slots).visitor := by
  apply CodeReader.readVisitor_file
  intro m hm
  obtain ⟨slot, -, hslot⟩ := List.mem_filterMap.mp hm
  obtain ⟨method, -, rfl⟩ := Option.map_eq_some_iff.mp hslot
  exact slot.entry.name.isWord

end

theorem readFile?_of_emit [LawfulLayout] {s : Selection} {c : Config} {files : FileSet} (h : s.emit c = .ok files)
    (hwants : ∀ o, c.wants o = true) {f : CodeFile} (hf : f ∈ (CodeSet.ofSlots (s.slots c.policy)).files) {α : Type}
    (read : List CodeToken → Option α) : CodeReader.readFile? files f.output read = read (tokensOf f.body) := by
  obtain ⟨code, hcode, hfiles⟩ := exists_code_of_emit h hwants
  obtain ⟨-, rfl⟩ := code_eq_ok_iff.mp hcode
  obtain ⟨text, hprint, htext⟩ := hfiles f hf
  rw [CodeReader.readFile?, htext, ← tokens_of_print hf hprint]
  rfl

theorem read?_of_emit [LawfulLayout] {s : Selection} {c : Config} {files : FileSet} (h : s.emit c = .ok files)
    (hwants : ∀ o, c.wants o = true) : DeclaredCode.read? files = some (.ofSlots (s.slots c.policy)) := by
  have hread {f : CodeFile} (hf : f ∈ (CodeSet.ofSlots (s.slots c.policy)).files) {α : Type}
      (read : List CodeToken → Option α) := readFile?_of_emit h hwants hf read
  have hopcodes : CodeReader.readFile? files .opcodes CodeReader.readOpcodes = some _ :=
    (hread (by simp [CodeSet.files]) _).trans (readOpcodes_ofSlots (s.slots c.policy))
  have hnames : CodeReader.readFile? files .names CodeReader.readNames = some _ :=
    (hread (by simp [CodeSet.files]) _).trans (readNames_ofSlots (s.slots c.policy))
  have hstubs : CodeReader.readFile? files .stubs CodeReader.readStructs = some _ :=
    (hread (by simp [CodeSet.files]) _).trans (readStructs_ofSlots (s.slots c.policy))
  have hvisitor : CodeReader.readFile? files .visitor CodeReader.readVisitor = some _ :=
    (hread (by simp [CodeSet.files]) _).trans (readVisitor_ofSlots (s.slots c.policy))
  rw [DeclaredCode.read?, hopcodes, hnames, hstubs, hvisitor]
  rfl

theorem listings_of_slots {s : Selection} (hsize : s.registry.size ≤ UInt32.size) (policy : SlotPolicy) :
    Listings (.ofSlots (s.slots policy)) := by
  have hids : (s.slots policy).map (fun slot => (UInt32.ofNat slot.index).toNat) =
      List.range (s.slots policy).length := by
    rw [List.map_congr_left (toNat_of_slot hsize), Selection.map_index_slots hsize, Selection.length_slots]
  constructor
  case variants => exact List.map_map
  case ids => exact List.map_map.trans hids
  case fromArms => exact List.map_map.trans hids
  case nameArms => exact List.map_map
  case arms => exact List.map_map
  case distinct => exact s.nodup_slots policy
  case count => exact List.length_map _
  case nameCount => exact ⟨rfl, List.length_map _⟩

theorem piecesAt_of_slot {s : Selection} {policy : SlotPolicy} {table : Artifact (DispatchRow String)}
    (hsize : s.registry.size ≤ UInt32.size) (htable : s.visitorTable policy = .ok table) {i : Nat} {slot : Slot}
    (h : (s.slots policy)[i]? = some slot) : PiecesAt (.ofSlots (s.slots policy)) i slot.name slot.isReserved := by
  have hmem := List.mem_of_getElem? h
  have hnames := s.nodup_slots policy
  have hindices : ((s.slots policy).map Slot.index).Nodup := by
    rw [Selection.map_index_slots hsize]
    exact List.nodup_range
  obtain ⟨hmethods, hfree, -⟩ := Selection.visitorTable_eq_ok_iff.mp htable
  obtain rfl : slot.index = i := (Selection.slot_spec hsize h).1
  constructor
  case variant =>
    refine filter_map_eq hindices ?_ hmem
    exact toNat_of_slot hsize
  case listed => exact List.getElem?_map.trans (by rw [h, Option.map_some])
  case converted =>
    refine filter_map_eq hindices ?_ hmem
    exact toNat_of_slot hsize
  case named =>
    refine ⟨slot.name, filter_map_eq hnames ?_ hmem, List.getElem?_map.trans (by rw [h, Option.map_some])⟩
    exact fun _ _ => rfl
  case dispatched =>
    refine ⟨slot.method?, filter_map_eq hnames ?_ hmem, ?_, ?_⟩
    · exact fun _ _ => rfl
    · rw [Slot.method?_eq]
      cases slot.isReserved <;> simp
    · intro m hm
      -- A reserved slot may share its method's name with an active one; only among the active ones are they distinct.
      obtain ⟨a, hactive, rfl⟩ := Option.map_eq_some_iff.mp hm
      obtain ⟨ha, hname⟩ := Selection.active_of_slot hmem hactive
      rw [List.map_map] at hmethods
      have hvisitor : (DeclaredCode.ofSlots (s.slots policy)).visitor.methods = _ := methods_of_slots s policy
      rw [hvisitor, ← hname]
      refine ⟨hfree a ha, filter_map_eq hmethods ?_ ha⟩
      exact fun _ _ => rfl
  case stub =>
    have hstructs : (DeclaredCode.ofSlots (s.slots policy)).structs =
        (s.slots policy).filterMap fun slot => if slot.isReserved then none else some (slot.name ++ typeSuffix) := by
      refine List.map_filterMap.trans (congrArg (List.filterMap · (s.slots policy)) (funext fun slot => ?_))
      cases slot.isReserved <;> rfl
    rw [hstructs]
    refine (filter_filterMap_eq (nodup_typeNames s policy) ?_ hmem).trans ?_
    · intro other _ item hitem
      split at hitem
      · cases hitem
      · exact (Option.some.inj hitem).symm
    · cases slot.isReserved <;> rfl

end

end KindTable
