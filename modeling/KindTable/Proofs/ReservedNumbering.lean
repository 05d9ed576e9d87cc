import KindTable.Proofs.Alignment
import KindTable.Proofs.Numbering

namespace KindTable

variable {η : Type}

structure FixedRows where
  opcodes : List (String × UInt32)
  names : List String
  stubs : List (String × String)
  manifest : List (Nat × String × Option String)
  dispatch : List (Nat × String)
  deriving DecidableEq, Repr

def FixedRows.ofEntries (entries : List Entry) : FixedRows where
  opcodes := entries.mapIdx fun i e => (e.name.text, .ofNat i)
  names := entries.mapIdx fun _ e => e.name.text
  stubs := entries.mapIdx fun _ e => (e.name.text, e.name.text ++ typeSuffix)
  manifest := entries.mapIdx fun i e => (i, e.name.text, e.gateName?)
  dispatch := entries.mapIdx fun i e => (i, e.name.text)

def Selection.fixedRows (s : Selection) (handlers : Handlers η) : FixedRows where
  opcodes := (s.opcodeRows .reserve).rows.map fun row => (row.name, row.id)
  names := (s.nameRows .reserve).rows.map fun row => row.name
  stubs := (s.stubRows .reserve).rows.map fun row => (row.node, row.typeName)
  manifest := (s.manifestRows .reserve).rows.map fun row => (row.slot, row.name, row.gate)
  dispatch := (RowConsumer.artifact (dispatchConsumer handlers .reserve) s).rows.map fun row => (row.slot, row.name)

namespace RowConsumer

variable {α β : Type} {c : RowConsumer α} {s : Selection}

theorem map_getElem?_reserved (hc : c.policy = .reserve) (f : α → β) {i : Nat} {e : Entry} {d : Inclusion}
    (h : s.decided[i]? = some (e, d)) :
    (RowConsumer.artifact c s).rows[i]?.map f = some (f (c.row (slotAt i (activeBefore s.decided i) e d)).run) := by
  rw [getElem?_rows, hc, Selection.getElem?_slots_reserve, h, Option.map_some, Option.map_some, Option.map_some]

theorem map_reserved (hc : c.policy = .reserve) {f : α → β} {g : Nat → Entry → β}
    (hrow : ∀ slot, f (c.row slot).run = g slot.index slot.entry) :
    (RowConsumer.artifact c s).rows.map f = s.registry.entries.mapIdx g := by
  apply List.ext_getElem?
  intro i
  rw [List.getElem?_map, List.getElem?_mapIdx, ← Selection.map_fst_decided, List.getElem?_map]
  cases h : s.decided[i]? with
  | none =>
    rw [getElem?_rows, hc, Selection.getElem?_slots_reserve, h]
    rfl
  | some d =>
    rw [map_getElem?_reserved hc f h, hrow, Slot.entry_slotAt]
    rfl

end RowConsumer

theorem fixedRows_eq_ofEntries (s : Selection) (handlers : Handlers η) :
    s.fixedRows handlers = .ofEntries s.registry.entries := by
  simp only [Selection.fixedRows, FixedRows.ofEntries, FixedRows.mk.injEq]
  exact ⟨RowConsumer.map_reserved rfl fun _ => rfl, RowConsumer.map_reserved rfl fun _ => rfl,
    RowConsumer.map_reserved rfl fun _ => rfl, RowConsumer.map_reserved rfl fun _ => rfl,
    RowConsumer.map_reserved rfl fun _ => rfl⟩

structure StateAt (s : Selection) (handlers : Handlers η) (i : Nat) (e : Entry) (d : Inclusion) : Prop where
  decision : s.decision? i = some d
  slot : (s.slots .reserve)[i]?.map Slot.isReserved = some (d == .excluded)
  opcode : (s.opcodeRows .reserve).rows[i]?.map (·.reserved) = some (d == .excluded)
  name : (s.nameRows .reserve).rows[i]?.map (·.reserved) = some (d == .excluded)
  stub : (s.stubRows .reserve).rows[i]?.map (·.reserved) = some (d == .excluded)
  manifest : (s.manifestRows .reserve).rows[i]?.map (·.inclusion) = some d.text
  dispatch : (RowConsumer.artifact (dispatchConsumer handlers .reserve) s).rows[i]?.map (·.handler) =
    some (if d = .excluded then handlers.default else handlers.byName[e.name.text]?.or handlers.default)

theorem isReserved_slotAt_excluded (i opcode : Nat) (e : Entry) (d : Inclusion) :
    (slotAt i opcode e d).isReserved = (d == .excluded) := by
  rw [Slot.isReserved_slotAt]
  cases d <;> rfl

theorem Handlers.forSlot_slotAt (handlers : Handlers η) (i opcode : Nat) (e : Entry) (d : Inclusion) :
    handlers.forSlot (slotAt i opcode e d) =
      if d = .excluded then handlers.default else handlers.byName[e.name.text]?.or handlers.default := by
  rw [forSlot, isReserved_slotAt_excluded, Slot.name, Slot.entry_slotAt]
  cases handlers.byName[e.name.text]? <;> simp

theorem stateAt_of_decided {s : Selection} {i : Nat} {e : Entry} {d : Inclusion} (handlers : Handlers η)
    (h : s.decided[i]? = some (e, d)) : StateAt s handlers i e d := by
  have hreserved := isReserved_slotAt_excluded i (activeBefore s.decided i) e d
  constructor
  case decision => exact (Selection.getElem?_decided.mp h).2
  case slot => rw [Selection.getElem?_slots_reserve, h, Option.map_some, Option.map_some, hreserved]
  case opcode =>
    rw [← hreserved]
    exact RowConsumer.map_getElem?_reserved rfl _ h
  case name =>
    rw [← hreserved]
    exact RowConsumer.map_getElem?_reserved rfl _ h
  case stub =>
    rw [← hreserved]
    exact RowConsumer.map_getElem?_reserved rfl _ h
  case manifest =>
    rw [← Slot.inclusion_slotAt i (activeBefore s.decided i) e d]
    exact RowConsumer.map_getElem?_reserved rfl _ h
  case dispatch =>
    rw [← handlers.forSlot_slotAt i (activeBefore s.decided i) e d]
    exact RowConsumer.map_getElem?_reserved rfl _ h

structure Reserves (r : Registry) (gates : GateSet) (fallback : SoftFallback) (s : Selection) (handlers : Handlers η) :
    Prop where
  sizes : (s.opcodeRows .reserve).size = r.size ∧ (s.nameRows .reserve).size = r.size ∧
    (s.stubRows .reserve).size = r.size ∧ (s.manifestRows .reserve).size = r.size ∧
    (RowConsumer.artifact (dispatchConsumer handlers .reserve) s).size = r.size
  states : ∀ i e, r.entries[i]? = some e →
    ∃ d, e.inclusion gates fallback = .ok d ∧ StateAt s handlers i e d

theorem reserves_of_select {r : Registry} {gates : GateSet} {fallback : SoftFallback} {s : Selection}
    (hs : r.select gates fallback = .ok s) (handlers : Handlers η) : Reserves r gates fallback s handlers := by
  obtain ⟨rfl, hdecisions⟩ := select_eq_ok_iff.mp hs
  constructor
  case sizes =>
    obtain ⟨hopcodes, hnames, hstubs, hmanifest, hdispatch, -⟩ := sizes_eq_width s .reserve handlers
    exact ⟨hopcodes, hnames, hstubs, hmanifest, hdispatch⟩
  case states =>
    intro i e he
    obtain ⟨d, hd, hinclusion⟩ := getElem?_inclusions hdecisions he
    exact ⟨d, hinclusion, stateAt_of_decided handlers (Selection.getElem?_decided.mpr ⟨he, hd⟩)⟩

theorem reserved_numbering_stable {r : Registry} {gates others : GateSet} {fallback otherFallback : SoftFallback}
    {s t : Selection} (hs : r.select gates fallback = .ok s) (ht : r.select others otherFallback = .ok t)
    (handlers otherHandlers : Handlers η) :
    Reserves r gates fallback s handlers ∧ Reserves r others otherFallback t otherHandlers ∧
      s.fixedRows handlers = t.fixedRows otherHandlers := by
  refine ⟨reserves_of_select hs handlers, reserves_of_select ht otherHandlers, ?_⟩
  rw [fixedRows_eq_ofEntries, fixedRows_eq_ofEntries, (select_eq_ok_iff.mp hs).1, (select_eq_ok_iff.mp ht).1]

def flippedGates : GateSet := .ofList [("Mem", true), ("Vec", true), ("Jit", false)]

def flippedSelection : Selection := ⟨mixedRegistry, [.gateOn, .gateOn, .always, .excluded], rfl⟩

theorem reserved_numbering_stable_flippedGates :
    mixedRegistry.select mixedGates .keep = .ok mixedSelection ∧
      mixedRegistry.select flippedGates .drop = .ok flippedSelection ∧
      mixedSelection.fixedRows (.ofList [("Call", 7)] (some 0)) =
        flippedSelection.fixedRows (.ofList [("Load", 3)] none) ∧
      ∃ e, mixedRegistry.entries[3]? = some e ∧
        StateAt mixedSelection (.ofList [("Call", 7)] (some 0)) 3 e .gateOn ∧
        StateAt flippedSelection (.ofList [("Load", 3)] none) 3 e .excluded := by
  have hs : mixedRegistry.select mixedGates .keep = .ok mixedSelection := select_eq_ok_iff.mpr ⟨rfl, rfl⟩
  have ht : mixedRegistry.select flippedGates .drop = .ok flippedSelection := select_eq_ok_iff.mpr ⟨rfl, rfl⟩
  obtain ⟨hmixed, hflipped, hfixed⟩ :=
    reserved_numbering_stable hs ht (.ofList [("Call", 7)] (some 0)) (.ofList [("Load", 3)] none)
  obtain ⟨on, hon, hkept⟩ := hmixed.states 3 _ rfl
  obtain ⟨off, hoff, hreserved⟩ := hflipped.states 3 _ rfl
  cases hon
  cases hoff
  exact ⟨hs, ht, hfixed, _, rfl, hkept, hreserved⟩

end KindTable
