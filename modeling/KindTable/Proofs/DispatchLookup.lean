import KindTable.Generate
import KindTable.Latest
import KindTable.Proofs.Numbering

namespace KindTable

variable {η : Type}

def dispatchRows (s : Selection) (policy : SlotPolicy) (registrations : List (String × η)) (default : Option η) :
    Artifact (DispatchRow η) :=
  RowConsumer.artifact (dispatchConsumer (.ofList registrations default) policy) s

theorem forSlot_ofList (registrations : List (String × η)) (default : Option η) (slot : Slot) :
    (Handlers.ofList registrations default).forSlot slot =
      if slot.isReserved then default else (registrations.reverse.lookup slot.name).or default := by
  rw [Handlers.forSlot, Handlers.byName_ofList]
  split
  · rfl
  · cases registrations.reverse.lookup slot.name <;> rfl

theorem handlerAt?_dispatchRows (s : Selection) (policy : SlotPolicy) (registrations : List (String × η))
    (default : Option η) (k : Nat) : (dispatchRows s policy registrations default).handlerAt? k =
      (s.slots policy)[k]?.bind (Handlers.ofList registrations default).forSlot := by
  have hrow : (dispatchRows s policy registrations default).rows[k]? = (s.slots policy)[k]?.map fun slot =>
      (⟨slot.index, slot.name, (Handlers.ofList registrations default).forSlot slot⟩ : DispatchRow η) :=
    RowConsumer.getElem?_rows (dispatchConsumer (.ofList registrations default) policy) s k
  rw [Artifact.handlerAt?, hrow]
  cases (s.slots policy)[k]? <;> rfl

def Selection.Idle (s : Selection) (name : String) : Prop :=
  ∀ position e, s.registry.entries[position]? = some e → e.name.text = name → s.decision? position = some .excluded

theorem Selection.not_idle_of_active {s : Selection} {a : ActiveEntry} (h : a ∈ s.active) : ¬s.Idle a.name := by
  intro hidle
  obtain ⟨hentry, hdecision, hne⟩ := active_iff_decided.mp ⟨a, h, rfl, rfl, rfl⟩
  exact hne (Option.some.inj (hdecision.symm.trans (hidle a.position a.entry hentry rfl)))

theorem Selection.not_idle_of_slot {s : Selection} {policy : SlotPolicy} {slot : Slot} (h : slot ∈ s.slots policy)
    (hfree : slot.isReserved = false) : ¬s.Idle slot.name := by
  rw [Slot.isReserved, Option.isNone_eq_false_iff, Option.isSome_iff_exists] at hfree
  obtain ⟨a, ha⟩ := hfree
  obtain ⟨hactive, hname⟩ := Selection.active_of_slot h ha
  exact hname ▸ Selection.not_idle_of_active hactive

theorem toNat_index_of_slot {s : Selection} {policy : SlotPolicy} {k : Nat} {slot : Slot}
    (hwidth : s.width policy ≤ UInt32.size) (h : (s.slots policy)[k]? = some slot) :
    (UInt32.ofNat slot.index).toNat = k := by
  have hk : k < (s.slots policy).length := (List.getElem?_eq_some_iff.mp h).1
  rw [Selection.length_slots] at hk
  rw [Selection.index_of_slot hwidth h, UInt32.toNat_ofNat', Nat.mod_eq_of_lt (Nat.lt_of_lt_of_le hk hwidth)]

structure DispatchesByName (s : Selection) (policy : SlotPolicy) (registrations : List (String × η))
    (default : Option η) (table : Artifact (DispatchRow η)) : Prop where
  size : table.size = (s.slots policy).length
  outside : ∀ k, table.size ≤ k → table.handlerAt? k = none
  reserved : ∀ (k : Nat) (slot : Slot), (s.slots policy)[k]? = some slot → slot.isReserved = true →
    table.handlerAt? k = default
  active : ∀ (k : Nat) (slot : Slot), (s.slots policy)[k]? = some slot → slot.isReserved = false →
    ∃ o, Latest registrations slot.name o ∧ table.handlerAt? k = o.or default
  byOpcode : s.width policy ≤ UInt32.size → ∀ row ∈ (s.opcodeRows policy).rows, row.reserved = false →
    ∃ o, Latest registrations row.name o ∧ table.handlerAt? row.id.toNat = o.or default
  idle : ∀ others : List (String × η),
    (∀ name, ¬s.Idle name → others.filter (·.1 == name) = registrations.filter (·.1 == name)) →
      ∀ k, (dispatchRows s policy others default).handlerAt? k = table.handlerAt? k

theorem dispatch_by_name (s : Selection) (policy : SlotPolicy) (registrations : List (String × η))
    (default : Option η) :
    DispatchesByName s policy registrations default (dispatchRows s policy registrations default) := by
  have hsize : (dispatchRows s policy registrations default).size = (s.slots policy).length :=
    (RowConsumer.size_artifact _ s).trans (s.length_slots policy).symm
  have hactive : ∀ (k : Nat) (slot : Slot), (s.slots policy)[k]? = some slot → slot.isReserved = false →
      ∃ o, Latest registrations slot.name o ∧
        (dispatchRows s policy registrations default).handlerAt? k = o.or default := by
    intro k slot hslot hfree
    refine ⟨_, latest_lookup registrations slot.name, ?_⟩
    rw [handlerAt?_dispatchRows, hslot, Option.bind_some, forSlot_ofList, if_neg (by simp [hfree])]
  constructor
  case size => exact hsize
  case outside =>
    intro k hk
    rw [handlerAt?_dispatchRows, List.getElem?_eq_none (hsize ▸ hk), Option.bind_none]
  case reserved =>
    intro k slot hslot hreserved
    rw [handlerAt?_dispatchRows, hslot, Option.bind_some, forSlot_ofList, if_pos hreserved]
  case active => exact hactive
  case byOpcode =>
    intro hwidth row hrow hfree
    obtain ⟨k, hk⟩ := List.mem_iff_getElem?.mp hrow
    rw [Selection.opcodeRows, RowConsumer.getElem?_rows, Option.map_eq_some_iff] at hk
    obtain ⟨slot, hslot, rfl⟩ := hk
    have hid := toNat_index_of_slot hwidth hslot
    obtain ⟨o, ho, hhandler⟩ := hactive k slot hslot hfree
    exact ⟨o, ho, (congrArg _ hid).trans hhandler⟩
  case idle =>
    intro others hothers k
    rw [handlerAt?_dispatchRows, handlerAt?_dispatchRows]
    cases hslot : (s.slots policy)[k]? with
    | none => rfl
    | some slot =>
      rw [Option.bind_some, Option.bind_some, forSlot_ofList, forSlot_ofList]
      cases hreserved : slot.isReserved with
      | true => rfl
      | false =>
        have hname := hothers slot.name (Selection.not_idle_of_slot (List.mem_of_getElem? hslot) hreserved)
        rw [lookup_reverse_congr hname]

def repeatedHandlers : List (String × Nat) := [("Store", 1), ("Load", 2), ("Store", 3), ("Ghost", 4)]

theorem dispatch_by_name_repeatedHandlers :
    mixedSelection.width .reserve ≤ UInt32.size ∧
      (dispatchRows mixedSelection .reserve repeatedHandlers (some 0)).handlerAt? 0 = some 0 ∧
      (dispatchRows mixedSelection .reserve repeatedHandlers (some 0)).handlerAt? 1 = some 3 ∧
      (dispatchRows mixedSelection .reserve repeatedHandlers (some 0)).handlerAt? 2 = some 0 ∧
      (dispatchRows mixedSelection .reserve repeatedHandlers (some 0)).handlerAt? 4 = none := by
  have hdispatches := dispatch_by_name mixedSelection .reserve repeatedHandlers (some 0)
  have hwidth : mixedSelection.width .reserve ≤ UInt32.size := by decide
  obtain ⟨o, ho, hstore⟩ := hdispatches.byOpcode hwidth ⟨"Store", 1, false⟩ (by decide) rfl
  obtain rfl : o = some 3 := (latest_iff.mp ho).symm
  obtain ⟨o, ho, hphi⟩ := hdispatches.active 2 _ rfl rfl
  obtain rfl : o = none := (latest_iff.mp ho).symm
  exact ⟨hwidth, hdispatches.reserved 0 _ rfl rfl, hstore, hphi, hdispatches.outside 4 (Nat.le_of_eq hdispatches.size)⟩

end KindTable
