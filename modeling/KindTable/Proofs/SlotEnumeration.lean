import Mathlib.Logic.Relation
import KindTable.Proofs.Numbering
import KindTable.Slot

namespace KindTable

structure MergeState where
  position : Nat
  upcoming : List ActiveEntry
  rest : List (Entry × Inclusion)

namespace MergeState

def slots (m : MergeState) : List Slot := mergeSlots m.position m.upcoming m.rest

def next? : MergeState → Option (Slot × MergeState)
  | ⟨_, _, []⟩ => none
  | ⟨position, upcoming, (e, i) :: rest⟩ =>
    match if i.isActive then takeAt? position upcoming else none with
    | some (a, later) => some (⟨position, .active a⟩, ⟨position + 1, later, rest⟩)
    | none => some (⟨position, .reserved position e⟩, ⟨position + 1, upcoming, rest⟩)

theorem slots_of_next? {m after : MergeState} {slot : Slot} (h : m.next? = some (slot, after)) :
    m.slots = slot :: after.slots := by
  obtain ⟨position, upcoming, rest⟩ := m
  cases rest with
  | nil => cases h
  | cons d rest =>
    obtain ⟨e, i⟩ := d
    simp only [next?] at h
    rw [slots, mergeSlots]
    split at h
    · rename_i a later htaken
      rw [htaken]
      cases h
      rfl
    · rename_i hreserved
      rw [hreserved]
      cases h
      rfl

def Leads (m after : MergeState) : Prop := ∃ slot, m.next? = some (slot, after)

def Misses (m : MergeState) : Prop :=
  ∃ e i rest, m.rest = (e, i) :: rest ∧ i.isActive = true ∧ takeAt? m.position m.upcoming = none

def InStep (m : MergeState) : Prop := ∃ opcode, m.upcoming = activeFrom m.position opcode m.rest

theorem InStep.not_misses {m : MergeState} (h : m.InStep) : ¬m.Misses := by
  obtain ⟨opcode, hupcoming⟩ := h
  rintro ⟨e, i, later, hrest, hi, hmissed⟩
  rw [hupcoming, hrest, takeAt?_activeFrom hi] at hmissed
  cases hmissed

theorem InStep.leads {m after : MergeState} (h : m.InStep) (hnext : m.Leads after) : after.InStep := by
  obtain ⟨position, upcoming, rest⟩ := m
  obtain ⟨opcode, hupcoming : upcoming = activeFrom position opcode rest⟩ := h
  subst hupcoming
  obtain ⟨slot, hnext⟩ := hnext
  cases rest with
  | nil => cases hnext
  | cons d rest =>
    obtain ⟨e, i⟩ := d
    cases hi : i.isActive with
    | true =>
      simp only [next?, hi, if_true, takeAt?_activeFrom hi] at hnext
      cases hnext
      exact ⟨opcode + 1, rfl⟩
    | false =>
      simp only [next?, hi, Bool.false_eq_true, if_false] at hnext
      cases hnext
      exact ⟨opcode, by simp [activeFrom, hi]⟩

end MergeState

namespace Selection

def merging (s : Selection) : MergeState := ⟨0, s.active, s.decided⟩

theorem merging_run {s : Selection} {m : MergeState} (h : Relation.ReflTransGen MergeState.Leads s.merging m) :
    (∃ passed, s.slots .reserve = passed ++ m.slots) ∧ m.InStep := by
  induction h with
  | refl => exact ⟨⟨[], rfl⟩, 0, rfl⟩
  | @tail m after _ hnext ih =>
    obtain ⟨⟨passed, hpassed⟩, hstep⟩ := ih
    refine ⟨?_, hstep.leads hnext⟩
    obtain ⟨slot, hnext⟩ := hnext
    refine ⟨passed ++ [slot], ?_⟩
    rw [hpassed, MergeState.slots_of_next? hnext, List.append_cons]

end Selection

inductive Occupies (s : Selection) (position : Nat) (e : Entry) : Inclusion → Occupant → Prop where
  | reserved : Occupies s position e .excluded (.reserved position e)
  | active {i : Inclusion} {k : Nat} {a : ActiveEntry} : i ≠ .excluded → s.active[k]? = some a →
    a = ⟨.ofIndex k, position, i, e⟩ → Occupies s position e i (.active a)

theorem occupies_slotAt {s : Selection} {position : Nat} {e : Entry} {i : Inclusion}
    (h : s.decided[position]? = some (e, i)) :
    Occupies s position e i (slotAt position (activeBefore s.decided position) e i).occupant := by
  cases i with
  | excluded => exact .reserved
  | always | gateOn | softFallback => exact .active (by decide) (Selection.active_of_decided h rfl) rfl

theorem map_occupant_active (slots : List Slot) :
    (slots.filter (!·.isReserved)).map Slot.occupant = (slots.filterMap Slot.active?).map .active := by
  induction slots with
  | nil => rfl
  | cons slot rest ih =>
    obtain ⟨index, occupant⟩ := slot
    cases occupant with
    | active a => exact congrArg (Occupant.active a :: ·) ih
    | reserved position e => exact ih

structure Enumerates (r : Registry) (gates : GateSet) (fallback : SoftFallback) (s : Selection) : Prop where
  width : (s.slots .reserve).length = r.size
  reserve : ∀ position e, r.entries[position]? = some e → ∃ i occupant, e.inclusion gates fallback = .ok i ∧
    s.decision? position = some i ∧ (s.slots .reserve)[position]? = some ⟨position, occupant⟩ ∧
    Occupies s position e i occupant
  unmissed : ∀ m, Relation.ReflTransGen MergeState.Leads s.merging m →
    (∃ passed, s.slots .reserve = passed ++ m.slots) ∧ ¬m.Misses
  compact : s.slots .compact = s.active.map fun a => ⟨a.opcode.index, .active a⟩
  dropped : ((s.slots .reserve).filter (!·.isReserved)).map Slot.occupant = (s.slots .compact).map Slot.occupant
  distinct : ∀ policy, ((s.slots policy).map Slot.name).Nodup

theorem slots_enumerate {r : Registry} {gates : GateSet} {fallback : SoftFallback} {s : Selection}
    (h : r.select gates fallback = .ok s) : Enumerates r gates fallback s := by
  obtain ⟨rfl, hdecisions⟩ := select_eq_ok_iff.mp h
  constructor
  case width => exact s.length_slots .reserve
  case reserve =>
    intro position e he
    obtain ⟨i, hi, hinclusion⟩ := getElem?_inclusions hdecisions he
    have hdecided : s.decided[position]? = some (e, i) := Selection.getElem?_decided.mpr ⟨he, hi⟩
    refine ⟨i, _, hinclusion, hi, ?_, occupies_slotAt hdecided⟩
    rw [Selection.getElem?_slots_reserve, hdecided]
    rfl
  case unmissed =>
    intro m hm
    obtain ⟨hslots, hstep⟩ := Selection.merging_run hm
    exact ⟨hslots, hstep.not_misses⟩
  case compact => rfl
  case dropped =>
    rw [map_occupant_active, Selection.filterMap_active?_slots, Selection.slots, List.map_map]
    rfl
  case distinct => exact s.nodup_slots

theorem slots_enumerate_mixedSelection :
    mixedRegistry.select mixedGates .keep = .ok mixedSelection ∧
      Enumerates mixedRegistry mixedGates .keep mixedSelection ∧
      ((mixedSelection.slots .reserve).filter (!·.isReserved)).map Slot.occupant =
        mixedSelection.active.map .active ∧
      mixedSelection.active.map (·.position) = [1, 2, 3] := by
  have hselect : mixedRegistry.select mixedGates .keep = .ok mixedSelection := select_eq_ok_iff.mpr ⟨rfl, rfl⟩
  have henumerates := slots_enumerate hselect
  refine ⟨hselect, henumerates, ?_, rfl⟩
  rw [henumerates.dropped, henumerates.compact, List.map_map]
  rfl

end KindTable
