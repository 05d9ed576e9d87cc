import KindTable.Generate

namespace KindTable

variable {η : Type}

structure RowsAt (s : Selection) (policy : SlotPolicy) (handlers : Handlers η) (i position : Nat) (e : Entry)
    (reserved : Bool) : Prop where
  declared : s.registry.entries[position]? = some e
  numbered : match policy with
    | .compact => ∃ a, s.active[i]? = some a ∧ a.entry = e ∧ a.position = position ∧ a.opcode.index = i
    | .reserve => position = i
  expanded : ∃ slot, (s.slots policy)[i]? = some slot ∧ slot.entry = e ∧
    ∀ (α : Type) (c : RowConsumer α), c.policy = policy →
      (RowConsumer.artifact c s).rows[i]? = some (c.row slot).run
  opcode : ∃ row, (s.opcodeRows policy).rows[i]? = some row ∧ row.name = e.name.text ∧ row.id.toNat = i ∧
    row.reserved = reserved
  name : (s.nameRows policy).rows[i]? = some ⟨e.name.text, reserved⟩
  stub : (s.stubRows policy).rows[i]? = some ⟨e.name.text, e.name.text ++ "Node", reserved⟩
  manifest : ∃ row, (s.manifestRows policy).rows[i]? = some row ∧ row.slot = i ∧ row.name = e.name.text ∧
    (row.inclusion = "excluded" ↔ reserved = true)
  dispatch : ∃ row, (RowConsumer.artifact (dispatchConsumer handlers policy) s).rows[i]? = some row ∧
    row.slot = i ∧ row.name = e.name.text
  visitor : ∀ table, s.visitorTable policy = .ok table → ∃ row, table.rows[i]? = some row ∧ row.slot = i ∧
    row.name = e.name.text ∧ (row.handler = none ↔ reserved = true)

theorem text_eq_excluded_iff (i : Inclusion) : i.text = "excluded" ↔ (!i.isActive) = true := by
  cases i <;> decide

theorem rowsAt_of_slot {s : Selection} {policy : SlotPolicy} {i : Nat} {slot : Slot} (handlers : Handlers η)
    (hsize : s.registry.size ≤ UInt32.size) (h : (s.slots policy)[i]? = some slot) :
    ∃ position, s.decided[position]? = some (slot.entry, slot.inclusion) ∧
      RowsAt s policy handlers i position slot.entry (!slot.inclusion.isActive) := by
  obtain ⟨hindex, hreserved, position, hdecided, hplace⟩ := Selection.slot_spec hsize h
  have hrow {α : Type} (c : RowConsumer α) (hc : c.policy = policy) :
      (RowConsumer.artifact c s).rows[i]? = some (c.row slot).run := by
    rw [RowConsumer.getElem?_rows, hc, h, Option.map_some]
  have hbound : i < UInt32.size := hindex ▸ Selection.index_lt_of_slot hsize (List.mem_of_getElem? h)
  refine ⟨position, hdecided, ?_⟩
  constructor
  case declared => exact (Selection.getElem?_decided.mp hdecided).1
  case numbered =>
    cases policy with
    | compact =>
      obtain ⟨a, ha, rfl, hposition⟩ := hplace
      exact ⟨a, ha, rfl, hposition, hindex⟩
    | reserve => exact hplace
  case expanded => exact ⟨slot, h, rfl, fun α c hc => hrow c hc⟩
  case opcode =>
    refine ⟨_, hrow (opcodeConsumer policy) rfl, rfl, ?_, hreserved⟩
    change (UInt32.ofNat slot.index).toNat = i
    rw [hindex, UInt32.toNat_ofNat', Nat.mod_eq_of_lt hbound]
  case name => rw [← hreserved]; exact hrow (nameConsumer policy) rfl
  case stub => rw [← hreserved]; exact hrow (stubConsumer policy) rfl
  case manifest =>
    exact ⟨_, hrow (manifestConsumer policy) rfl, hindex, rfl, text_eq_excluded_iff slot.inclusion⟩
  case dispatch => exact ⟨_, hrow (dispatchConsumer handlers policy) rfl, hindex, rfl⟩
  case visitor =>
    intro table htable
    refine ⟨_, Selection.handler_of_visitorTable htable h, hindex, rfl, ?_⟩
    rw [← hreserved]
    cases slot.isReserved <;> simp

theorem sizes_eq_width (s : Selection) (policy : SlotPolicy) (handlers : Handlers η) :
    (s.opcodeRows policy).size = s.width policy ∧ (s.nameRows policy).size = s.width policy ∧
      (s.stubRows policy).size = s.width policy ∧ (s.manifestRows policy).size = s.width policy ∧
      (RowConsumer.artifact (dispatchConsumer handlers policy) s).size = s.width policy ∧
      ∀ table, s.visitorTable policy = .ok table → table.size = s.width policy := by
  refine ⟨RowConsumer.size_artifact _ s, RowConsumer.size_artifact _ s, RowConsumer.size_artifact _ s,
    RowConsumer.size_artifact _ s, RowConsumer.size_artifact _ s, ?_⟩
  intro table htable
  rw [Selection.visitorTable_eq_ok htable]
  exact RowConsumer.size_artifact _ s

theorem consumers_aligned {r : Registry} {gates : GateSet} {fallback : SoftFallback} {s : Selection}
    (hs : r.select gates fallback = .ok s) (hsize : r.size ≤ UInt32.size) (policy : SlotPolicy)
    (handlers : Handlers η) :
    ((s.opcodeRows policy).size = s.width policy ∧ (s.nameRows policy).size = s.width policy ∧
      (s.stubRows policy).size = s.width policy ∧ (s.manifestRows policy).size = s.width policy ∧
      (RowConsumer.artifact (dispatchConsumer handlers policy) s).size = s.width policy ∧
      ∀ table, s.visitorTable policy = .ok table → table.size = s.width policy) ∧
    s.width .compact = s.decisions.countP Inclusion.isActive ∧ s.width .reserve = r.size ∧
    ∀ i < s.width policy, ∃ position e inclusion, r.entries[position]? = some e ∧
      e.inclusion gates fallback = .ok inclusion ∧
      RowsAt s policy handlers i position e (!inclusion.isActive) := by
  obtain ⟨rfl, hdecisions⟩ := select_eq_ok_iff.mp hs
  refine ⟨sizes_eq_width s policy handlers, s.size_eq, rfl, ?_⟩
  intro i hi
  rw [← Selection.length_slots] at hi
  obtain ⟨position, hdecided, hrows⟩ := rowsAt_of_slot handlers hsize (List.getElem?_eq_getElem hi)
  obtain ⟨hentry, hdecision⟩ := Selection.getElem?_decided.mp hdecided
  obtain ⟨inclusion, hinclusion, hdecide⟩ := getElem?_inclusions hdecisions hentry
  have hsame : inclusion = ((s.slots policy)[i]).inclusion := Option.some.inj (hinclusion.symm.trans hdecision)
  exact ⟨position, _, inclusion, hentry, hdecide, hsame ▸ hrows⟩

def gatedRegistry : Registry :=
  ⟨[⟨⟨"A", by decide⟩, .always⟩, ⟨⟨"B", by decide⟩, .gated ⟨⟨"X", by decide⟩, .hard⟩⟩,
    ⟨⟨"C", by decide⟩, .gated ⟨⟨"S", by decide⟩, .soft⟩⟩], by decide⟩

def gatedSelection : Selection := ⟨gatedRegistry, [.always, .excluded, .softFallback], rfl⟩

theorem consumers_aligned_gatedSelection :
    gatedRegistry.select (.ofList [("S", false), ("X", false)]) .keep = .ok gatedSelection ∧
    gatedRegistry.size ≤ UInt32.size ∧ 1 < gatedSelection.width .compact ∧
    ∃ position e inclusion, gatedRegistry.entries[position]? = some e ∧
      e.inclusion (.ofList [("S", false), ("X", false)]) .keep = .ok inclusion ∧
      RowsAt gatedSelection .compact (.ofList [("A", 7), ("B", 8)] (some 0)) 1 position e (!inclusion.isActive) := by
  have hselect : gatedRegistry.select (.ofList [("S", false), ("X", false)]) .keep = .ok gatedSelection := by
    rw [select_eq_ok_iff]
    exact ⟨rfl, rfl⟩
  have hsize : gatedRegistry.size ≤ UInt32.size := by decide
  have hwidth : 1 < gatedSelection.width .compact := by decide
  have haligned := consumers_aligned hselect hsize .compact (.ofList [("A", 7), ("B", 8)] (some 0))
  exact ⟨hselect, hsize, hwidth, haligned.2.2.2 1 hwidth⟩

end KindTable
