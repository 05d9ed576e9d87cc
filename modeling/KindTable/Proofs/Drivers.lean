import KindTable.Artifact.Basic
import KindTable.Proofs.SlotEnumeration
import KindTable.Proofs.StatefulLoops

namespace KindTable

variable {σ τ α β : Type}

inductive SlotCursor where
  | listing (upcoming : List ActiveEntry)
  | merging (m : MergeState)

def SlotCursor.next? : SlotCursor → Option (Slot × SlotCursor)
  | listing [] => none
  | listing (a :: later) => some (.ofActive a, listing later)
  | merging m => m.next?.map fun (slot, after) => (slot, merging after)

def Selection.slotCursor (s : Selection) : SlotPolicy → SlotCursor
  | .compact => .listing s.active
  | .reserve => .merging s.merging

theorem yields_listing (upcoming : List ActiveEntry) :
    Yields SlotCursor.next? (.listing upcoming) (upcoming.map .ofActive) := by
  induction upcoming with
  | nil => exact .spent rfl
  | cons a later ih => exact .input rfl ih

theorem MergeState.exists_next? (position : Nat) (upcoming : List ActiveEntry) (d : Entry × Inclusion)
    (rest : List (Entry × Inclusion)) : ∃ slot later,
      MergeState.next? ⟨position, upcoming, d :: rest⟩ = some (slot, ⟨position + 1, later, rest⟩) := by
  obtain ⟨e, i⟩ := d
  rw [next?]
  split
  · exact ⟨_, _, rfl⟩
  · exact ⟨_, _, rfl⟩

theorem yields_merging (position : Nat) (upcoming : List ActiveEntry) (rest : List (Entry × Inclusion)) :
    Yields SlotCursor.next? (.merging ⟨position, upcoming, rest⟩) (mergeSlots position upcoming rest) := by
  induction rest generalizing position upcoming with
  | nil => exact .spent rfl
  | cons d rest ih =>
    obtain ⟨slot, later, hnext⟩ := MergeState.exists_next? position upcoming d rest
    have hslots := MergeState.slots_of_next? hnext
    rw [MergeState.slots, MergeState.slots] at hslots
    rw [hslots]
    exact .input (by rw [SlotCursor.next?, hnext]; rfl) (ih (position + 1) later)

theorem Selection.yields_slotCursor (s : Selection) (policy : SlotPolicy) :
    Yields SlotCursor.next? (s.slotCursor policy) (s.slots policy) := by
  cases policy with
  | compact => exact yields_listing s.active
  | reserve => exact yields_merging 0 s.active s.decided

def onActive (f : ActiveEntry → StateM σ α) (otherwise : Slot → StateM σ α) (slot : Slot) : StateM σ α :=
  match slot.active? with
  | some a => f a
  | none => otherwise slot

theorem Selection.mapM_onActive (s : Selection) (f : ActiveEntry → StateM σ α) (otherwise : Slot → StateM σ α) :
    (s.slots .compact).mapM (onActive f otherwise) = s.active.mapM f := by
  rw [slots, List.mapM_map]
  rfl

theorem Consumer.run_run (c : Consumer (StateM σ) α) (s : Selection) (start : σ) : ((c.run s).run start).run =
    (⟨c.name, c.policy, ((s.expandSlots c.policy c.row).run start).run.1⟩,
      ((s.expandSlots c.policy c.row).run start).run.2) := rfl

structure SlotsDriven (s : Selection) (policy : SlotPolicy) (g : Slot → StateM σ α) (start : σ) (rows : List α)
    (last : σ) : Prop where
  size : rows.length = s.width policy
  expandSlots : ((s.expandSlots policy g).run start).run = (rows, last)
  looped : ∀ others z, Loops SlotCursor.next? g (s.slotCursor policy) start others z ↔ others = rows ∧ z = last
  run : ∀ name, (((Consumer.mk name policy g).run s).run start).run = (⟨name, policy, rows⟩, last)

theorem slotsDriven_of_run {s : Selection} {policy : SlotPolicy} {g : Slot → StateM σ α} {start last : σ}
    {rows : List α} (h : (((s.slots policy).mapM g).run start).run = (rows, last)) :
    SlotsDriven s policy g start rows last := by
  constructor
  case size =>
    have hlength := length_run_mapM g (s.slots policy) start
    rwa [h, Selection.length_slots] at hlength
  case expandSlots => exact h
  case looped => exact (s.yields_slotCursor policy).loops_iff_of_run h
  case run =>
    intro name
    rw [Consumer.run_run, Selection.expandSlots, h]

structure Driven (s : Selection) (f : ActiveEntry → StateM σ α) (start : σ) (rows : List α) (last : σ) : Prop where
  size : rows.length = s.size
  expand : ((s.expand f).run start).run = (rows, last)
  looped : ∀ others z, Loops List.next? f s.active start others z ↔ others = rows ∧ z = last
  slots : ∀ otherwise, SlotsDriven s .compact (onActive f otherwise) start rows last

theorem driven_of_run {s : Selection} {f : ActiveEntry → StateM σ α} {start last : σ} {rows : List α}
    (h : ((s.active.mapM f).run start).run = (rows, last)) : Driven s f start rows last := by
  constructor
  case size =>
    have hlength := length_run_mapM f s.active start
    rwa [h] at hlength
  case expand => exact h
  case looped => exact (yields_next? s.active).loops_iff_of_run h
  case slots =>
    intro otherwise
    apply slotsDriven_of_run
    rw [s.mapM_onActive, h]

structure InOpcodeOrder (s : Selection) : Prop where
  decided : s.active.map (fun a => (a.entry, a.inclusion)) = s.decided.filter (·.2.isActive)
  increasing : s.active.Pairwise fun a b => a.position < b.position
  numbered : ∀ (k : Nat) (a : ActiveEntry), s.active[k]? = some a → a.opcode = .ofIndex k

theorem Selection.inOpcodeOrder (s : Selection) : InOpcodeOrder s where
  decided := map_activeFrom 0 0 s.decided
  increasing := pairwise_activeFrom 0 0 s.decided
  numbered _ _ h := (getElem?_active h).2.2.1

theorem drivers_agree (s : Selection) (f : ActiveEntry → StateM σ α) (start : σ) (policy : SlotPolicy)
    (g : Slot → StateM τ β) (begun : τ) :
    InOpcodeOrder s ∧
    (∃ rows last, Driven s f start rows last ∧ Driven s (recorded f) (start, []) rows (last, s.active)) ∧
    ∃ rows last, SlotsDriven s policy g begun rows last ∧
      SlotsDriven s policy (recorded g) (begun, []) rows (last, s.slots policy) := by
  refine ⟨s.inOpcodeOrder, ?_, ?_⟩
  · exact ⟨_, _, driven_of_run rfl, driven_of_run (run_mapM_recorded f s.active [] start)⟩
  · exact ⟨_, _, slotsDriven_of_run rfl, slotsDriven_of_run (run_mapM_recorded g (s.slots policy) [] begun)⟩

def counted (a : ActiveEntry) : StateM Nat (Nat × String) := modifyGet fun n => ((n, a.name), n + 1)

example : ((mixedSelection.expand counted).run 5).run = ([(5, "Store"), (6, "Phi"), (7, "Call")], 8) := rfl

end KindTable
