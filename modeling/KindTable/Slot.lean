import KindTable.Selection

namespace KindTable

inductive SlotPolicy where
  | compact
  | reserve
  deriving DecidableEq, Repr

def SlotPolicy.text : SlotPolicy → String
  | compact => "compact"
  | reserve => "reserve"

inductive Occupant where
  | active (entry : ActiveEntry)
  | reserved (position : Nat) (entry : Entry)
  deriving DecidableEq

structure Slot where
  index : Nat
  occupant : Occupant
  deriving DecidableEq

namespace Slot

def entry (s : Slot) : Entry :=
  match s.occupant with
  | .active a => a.entry
  | .reserved _ e => e

def name (s : Slot) : String := s.entry.name.text

def active? (s : Slot) : Option ActiveEntry :=
  match s.occupant with
  | .active a => some a
  | .reserved _ _ => none

def isReserved (s : Slot) : Bool := s.active?.isNone

def inclusion (s : Slot) : Inclusion :=
  match s.active? with
  | some a => a.inclusion
  | none => .excluded

def ofActive (a : ActiveEntry) : Slot := ⟨a.opcode.index, .active a⟩

end Slot

def takeAt? (position : Nat) : List ActiveEntry → Option (ActiveEntry × List ActiveEntry)
  | [] => none
  | a :: later => if a.position = position then some (a, later) else none

def mergeSlots : (position : Nat) → (upcoming : List ActiveEntry) → List (Entry × Inclusion) → List Slot
  | _, _, [] => []
  | position, upcoming, (e, i) :: rest =>
    match if i.isActive then takeAt? position upcoming else none with
    | some (a, later) => ⟨position, .active a⟩ :: mergeSlots (position + 1) later rest
    | none => ⟨position, .reserved position e⟩ :: mergeSlots (position + 1) upcoming rest

theorem length_mergeSlots (position : Nat) (upcoming : List ActiveEntry) (decided : List (Entry × Inclusion)) :
    (mergeSlots position upcoming decided).length = decided.length := by
  induction decided generalizing position upcoming with
  | nil => rfl
  | cons d rest ih =>
    obtain ⟨e, i⟩ := d
    unfold mergeSlots
    split <;> simp [ih]

theorem takeAt?_activeFrom {position opcode : Nat} {e : Entry} {i : Inclusion}
    {rest : List (Entry × Inclusion)} (h : i.isActive = true) :
    takeAt? position (activeFrom position opcode ((e, i) :: rest)) =
      some (⟨.ofIndex opcode, position, i, e⟩, activeFrom (position + 1) (opcode + 1) rest) := by
  simp [activeFrom, h, takeAt?]

def slotAt (position opcode : Nat) (e : Entry) (i : Inclusion) : Slot :=
  ⟨position, if i.isActive then .active ⟨.ofIndex opcode, position, i, e⟩ else .reserved position e⟩

namespace Slot

theorem entry_slotAt (position opcode : Nat) (e : Entry) (i : Inclusion) :
    (slotAt position opcode e i).entry = e := by
  cases hi : i.isActive <;> simp [slotAt, Slot.entry, hi]

theorem inclusion_slotAt (position opcode : Nat) (e : Entry) (i : Inclusion) :
    (slotAt position opcode e i).inclusion = i := by
  cases i <;> rfl

theorem isReserved_slotAt (position opcode : Nat) (e : Entry) (i : Inclusion) :
    (slotAt position opcode e i).isReserved = !i.isActive := by
  cases i <;> rfl

end Slot

-- The active entries still to come are those of the declarations still to come, so no active one is missed.
theorem getElem?_mergeSlots {position opcode : Nat} {decided : List (Entry × Inclusion)} {k : Nat} :
    (mergeSlots position (activeFrom position opcode decided) decided)[k]? =
      decided[k]?.map fun d => slotAt (position + k) (opcode + activeBefore decided k) d.1 d.2 := by
  induction decided generalizing position opcode k with
  | nil => rfl
  | cons d rest ih =>
    obtain ⟨e, i⟩ := d
    cases hi : i.isActive with
    | true =>
      rw [mergeSlots, hi, if_pos rfl, takeAt?_activeFrom hi]
      cases k with
      | zero => simp [slotAt, hi, activeBefore]
      | succ k =>
        rw [List.getElem?_cons_succ, ih, List.getElem?_cons_succ]
        simp [activeBefore, hi, Nat.add_assoc, Nat.add_comm 1]
    | false =>
      have hactive : activeFrom position opcode ((e, i) :: rest) = activeFrom (position + 1) opcode rest := by
        simp [activeFrom, hi]
      rw [mergeSlots, hi, if_neg (by simp), hactive]
      cases k with
      | zero => simp [slotAt, hi]
      | succ k =>
        rw [List.getElem?_cons_succ, ih, List.getElem?_cons_succ]
        simp [activeBefore, hi, Nat.add_assoc, Nat.add_comm 1]

theorem filterMap_mergeSlots (position opcode : Nat) (decided : List (Entry × Inclusion)) :
    (mergeSlots position (activeFrom position opcode decided) decided).filterMap Slot.active? =
      activeFrom position opcode decided := by
  induction decided generalizing position opcode with
  | nil => rfl
  | cons d rest ih =>
    obtain ⟨e, i⟩ := d
    cases hi : i.isActive with
    | true =>
      rw [mergeSlots, hi, if_pos rfl, takeAt?_activeFrom hi]
      simp only [List.filterMap_cons, Slot.active?, ih]
      rw [activeFrom, if_pos hi]
    | false =>
      have hactive : activeFrom position opcode ((e, i) :: rest) = activeFrom (position + 1) opcode rest := by
        rw [activeFrom, if_neg (by simp [hi])]
      rw [mergeSlots, hi, if_neg (by simp), hactive]
      simp only [List.filterMap_cons, Slot.active?, ih]

namespace Selection

def slots (s : Selection) : SlotPolicy → List Slot
  | .compact => s.active.map .ofActive
  | .reserve => mergeSlots 0 s.active s.decided

def expand {m : Type → Type} [Monad m] {α : Type} (s : Selection) (f : ActiveEntry → m α) : m (List α) :=
  s.active.mapM f

def expandSlots {m : Type → Type} [Monad m] {α : Type} (s : Selection) (policy : SlotPolicy) (f : Slot → m α) :
    m (List α) :=
  (s.slots policy).mapM f

def width (s : Selection) : SlotPolicy → Nat
  | .compact => s.size
  | .reserve => s.registry.size

theorem length_slots (s : Selection) (policy : SlotPolicy) : (s.slots policy).length = s.width policy := by
  cases policy with
  | compact => simp [slots, width, size]
  | reserve => simp [slots, width, length_mergeSlots, length_decided]

theorem getElem?_slots_compact {s : Selection} {i : Nat} {slot : Slot}
    (h : (s.slots .compact)[i]? = some slot) :
    ∃ a, s.active[i]? = some a ∧ slot = .ofActive a ∧ a.opcode = .ofIndex i ∧
      s.decided[a.position]? = some (a.entry, a.inclusion) ∧ a.inclusion.isActive = true := by
  simp only [slots, List.getElem?_map, Option.map_eq_some_iff] at h
  obtain ⟨a, ha, rfl⟩ := h
  obtain ⟨k, hk, hactive, hposition, hopcode, -⟩ := getElem?_activeFrom ha
  rw [Nat.zero_add] at hposition hopcode
  exact ⟨a, ha, rfl, hopcode, hposition ▸ hk, hactive⟩

theorem getElem?_slots_reserve {s : Selection} {i : Nat} :
    (s.slots .reserve)[i]? = s.decided[i]?.map fun d => slotAt i (activeBefore s.decided i) d.1 d.2 := by
  have h := @getElem?_mergeSlots 0 0 s.decided i
  simpa [slots, active] using h

theorem filterMap_active?_slots (s : Selection) (policy : SlotPolicy) :
    (s.slots policy).filterMap Slot.active? = s.active := by
  cases policy with
  | compact =>
    rw [slots, List.filterMap_map]
    exact List.filterMap_some
  | reserve => exact filterMap_mergeSlots 0 0 s.decided

theorem map_entry_slots_reserve (s : Selection) : (s.slots .reserve).map Slot.entry = s.registry.entries := by
  rw [← map_fst_decided]
  apply List.ext_getElem?
  intro i
  rw [List.getElem?_map, List.getElem?_map, getElem?_slots_reserve, Option.map_map]
  congr 1
  funext d
  exact Slot.entry_slotAt i _ d.1 d.2

theorem map_entry_slots_compact (s : Selection) :
    (s.slots .compact).map Slot.entry = (s.decided.filter (·.2.isActive)).map Prod.fst := by
  rw [slots, List.map_map]
  exact map_entry_activeFrom 0 0 s.decided

theorem sublist_slots (s : Selection) (policy : SlotPolicy) :
    ((s.slots policy).map Slot.entry).Sublist s.registry.entries := by
  cases policy with
  | compact =>
    rw [map_entry_slots_compact, ← map_fst_decided]
    exact List.filter_sublist.map Prod.fst
  | reserve => exact map_entry_slots_reserve s ▸ List.Sublist.refl _

theorem nodup_slots (s : Selection) (policy : SlotPolicy) : ((s.slots policy).map Slot.name).Nodup := by
  have hnames := (s.sublist_slots policy).map (·.name.text)
  rw [List.map_map] at hnames
  exact hnames.nodup s.registry.nodup

theorem width_le (s : Selection) (policy : SlotPolicy) : s.width policy ≤ s.registry.size := by
  cases policy with
  | compact => exact s.size_le
  | reserve => exact Nat.le_refl _

theorem index_of_slot {s : Selection} {policy : SlotPolicy} {i : Nat} {slot : Slot}
    (hwidth : s.width policy ≤ UInt32.size) (h : (s.slots policy)[i]? = some slot) : slot.index = i := by
  cases policy with
  | compact =>
    obtain ⟨a, ha, rfl, hopcode, -⟩ := getElem?_slots_compact h
    have hlt : i < s.size := (List.getElem?_eq_some_iff.mp ha).1
    rw [Slot.ofActive, hopcode, Opcode.index_ofIndex (Nat.lt_of_lt_of_le hlt hwidth)]
  | reserve =>
    rw [getElem?_slots_reserve, Option.map_eq_some_iff] at h
    obtain ⟨d, -, rfl⟩ := h
    rfl

theorem slot_spec {s : Selection} {policy : SlotPolicy} {i : Nat} {slot : Slot}
    (hsize : s.registry.size ≤ UInt32.size) (h : (s.slots policy)[i]? = some slot) :
    slot.index = i ∧ slot.isReserved = !slot.inclusion.isActive ∧
      ∃ position, s.decided[position]? = some (slot.entry, slot.inclusion) ∧
        match policy with
        | .compact => ∃ a, s.active[i]? = some a ∧ slot = .ofActive a ∧ a.position = position
        | .reserve => position = i := by
  refine ⟨index_of_slot (Nat.le_trans (s.width_le policy) hsize) h, ?_⟩
  cases policy with
  | compact =>
    obtain ⟨a, ha, rfl, -, hdecided, hactive⟩ := getElem?_slots_compact h
    refine ⟨?_, a.position, hdecided, a, ha, rfl, rfl⟩
    simp [Slot.ofActive, Slot.isReserved, Slot.active?, Slot.inclusion, hactive]
  | reserve =>
    rw [getElem?_slots_reserve, Option.map_eq_some_iff] at h
    obtain ⟨⟨e, d⟩, hd, rfl⟩ := h
    refine ⟨?_, i, ?_, rfl⟩
    · rw [Slot.isReserved_slotAt, Slot.inclusion_slotAt]
    · rw [Slot.entry_slotAt, Slot.inclusion_slotAt]
      exact hd

theorem map_index_slots {s : Selection} (hsize : s.registry.size ≤ UInt32.size) (policy : SlotPolicy) :
    (s.slots policy).map Slot.index = List.range (s.width policy) := by
  apply List.ext_getElem?
  intro i
  rw [List.getElem?_map, ← length_slots]
  cases hslot : (s.slots policy)[i]? with
  | none => simp [List.getElem?_eq_none_iff.mp hslot]
  | some slot =>
    have hi := (List.getElem?_eq_some_iff.mp hslot).1
    rw [Option.map_some, (slot_spec hsize hslot).1, List.getElem?_range hi]

theorem index_lt_of_slot {s : Selection} {policy : SlotPolicy} (hsize : s.registry.size ≤ UInt32.size) {slot : Slot}
    (h : slot ∈ s.slots policy) : slot.index < UInt32.size := by
  have hindex : slot.index ∈ (s.slots policy).map Slot.index := List.mem_map_of_mem h
  rw [map_index_slots hsize, List.mem_range] at hindex
  exact Nat.lt_of_lt_of_le hindex (Nat.le_trans (s.width_le policy) hsize)

theorem active_of_slot {s : Selection} {policy : SlotPolicy} {slot : Slot} (h : slot ∈ s.slots policy)
    {a : ActiveEntry} (ha : slot.active? = some a) : a ∈ s.active ∧ a.name = slot.name := by
  constructor
  · rw [← filterMap_active?_slots s policy]
    exact List.mem_filterMap.mpr ⟨slot, h, ha⟩
  · obtain ⟨index, occupant⟩ := slot
    cases occupant <;> cases ha
    rfl

end Selection

end KindTable
