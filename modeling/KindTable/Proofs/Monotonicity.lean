import KindTable.Proofs.GateShift
import KindTable.Proofs.ShapeAlignment

namespace KindTable

theorem Inclusion.isActive_ofGate_mono {kind : GateKind} {fallback otherFallback : SoftFallback} {isOn otherOn : Bool}
    (hon : isOn = true → otherOn = true) (hkeep : fallback = .keep → otherFallback = .keep)
    (h : (ofGate kind fallback isOn).isActive = true) : (ofGate kind otherFallback otherOn).isActive = true := by
  cases isOn with
  | true => rw [hon rfl]; rfl
  | false =>
    cases otherOn with
    | true => rfl
    | false =>
      cases kind with
      | hard => cases h
      | soft =>
        cases fallback with
        | keep => rw [hkeep rfl]; rfl
        | drop => cases h

section

variable {gates others : GateSet} {fallback otherFallback : SoftFallback} {e : Entry} {i j : Inclusion}

theorem Entry.isActive_mono (hon : ∀ g, e.gateName? = some g → gates.get? g = some true → others.get? g = some true)
    (hkeep : fallback = .keep → otherFallback = .keep) (hi : e.inclusion gates fallback = .ok i)
    (hj : e.inclusion others otherFallback = .ok j) (h : i.isActive = true) : j.isActive = true := by
  obtain ⟨name, mode⟩ := e
  cases mode with
  | always =>
    cases hj
    rfl
  | gated gate =>
    have hgate := hon gate.name.text rfl
    simp only [Entry.inclusion] at hi hj
    split at hi
    · cases hi
    · rename_i isOn hisOn
      split at hj
      · cases hj
      · rename_i otherOn hotherOn
        cases hi
        cases hj
        rw [hisOn, hotherOn] at hgate
        simp only [Option.some.injEq] at hgate
        exact Inclusion.isActive_ofGate_mono hgate hkeep h

theorem Entry.isActive_of_soft {gate : Gate} (hmode : e.mode = .gated gate) (hsoft : gate.kind = .soft)
    (hi : e.inclusion gates .keep = .ok i) : i.isActive = true := by
  rw [Entry.inclusion, hmode] at hi
  simp only [hsoft] at hi
  split at hi
  · cases hi
  · rename_i isOn _
    cases hi
    cases isOn <;> rfl

end

def Grows (x y : Entry × Inclusion) : Prop := x.1 = y.1 ∧ (x.2.isActive = true → y.2.isActive = true)

def ActiveEntry.declared (a : ActiveEntry) : Nat × Entry := (a.position, a.entry)

section

variable {before after : List (Entry × Inclusion)}

theorem activeBefore_mono (h : List.Forall₂ Grows before after) (position : Nat) :
    activeBefore before position ≤ activeBefore after position := by
  induction h generalizing position with
  | nil => exact Nat.le_refl _
  | @cons x y before after hxy h ih =>
    cases position with
    | zero => exact Nat.le_refl _
    | succ position =>
      have hrest := ih position
      rw [activeBefore_cons, activeBefore_cons]
      cases hx : x.2.isActive with
      | false =>
        simp only [Bool.false_eq_true, if_false]
        omega
      | true =>
        rw [hxy.2 hx]
        omega

-- The opcodes differ, so the two sides are compared by what was declared only.
theorem sublist_activeFrom_of_grows (h : List.Forall₂ Grows before after) (position opcode other : Nat) :
    ((activeFrom position opcode before).map ActiveEntry.declared).Sublist
      ((activeFrom position other after).map ActiveEntry.declared) := by
  induction h generalizing position opcode other with
  | nil => exact .refl _
  | @cons x y before after hxy h ih =>
    obtain ⟨e, i⟩ := x
    obtain ⟨e', j⟩ := y
    obtain ⟨rfl, hactive⟩ := hxy
    cases hi : i.isActive with
    | true =>
      rw [activeFrom, activeFrom, if_pos hi, if_pos (hactive hi)]
      exact (ih (position + 1) (opcode + 1) (other + 1)).cons_cons _
    | false =>
      rw [activeFrom, activeFrom, if_neg (by simp [hi])]
      split
      · exact (ih (position + 1) opcode (other + 1)).cons _
      · exact ih (position + 1) opcode other

end

structure Widened (s t : Selection) : Prop where
  active : ∀ a ∈ s.active, ∃ b ∈ t.active, b.declared = a.declared
  order : (s.active.map ActiveEntry.declared).Sublist (t.active.map ActiveEntry.declared)
  ranks : ∀ (k k' : Nat) (a b : ActiveEntry), s.active[k]? = some a → t.active[k']? = some b →
    a.declared = b.declared → k ≤ k' ∧ a.opcode = .ofIndex k ∧ b.opcode = .ofIndex k'
  numbers : ∀ name o o', s.opcodeOf? name = some o → t.opcodeOf? name = some o' →
    ∃ k k', k ≤ k' ∧ k' < t.size ∧ o = .ofIndex k ∧ o' = .ofIndex k'
  opcodes : t.size ≤ UInt32.size → ∀ name o o', s.opcodeOf? name = some o → t.opcodeOf? name = some o' →
    o.index ≤ o'.index

namespace Selection

variable {s t : Selection}

theorem rank_le (h : List.Forall₂ Grows s.decided t.decided) {k k' : Nat} {a b : ActiveEntry}
    (ha : s.active[k]? = some a) (hb : t.active[k']? = some b) (hsame : a.position = b.position) : k ≤ k' := by
  have hk := (getElem?_active ha).2.2.2
  have hk' := (getElem?_active hb).2.2.2
  rw [← hk, ← hk', hsame]
  exact activeBefore_mono h b.position

theorem numbers_of_grows (hregistry : s.registry = t.registry) (h : List.Forall₂ Grows s.decided t.decided)
    {name : String} {o o' : Opcode} (ho : s.opcodeOf? name = some o) (ho' : t.opcodeOf? name = some o') :
    ∃ k k', k ≤ k' ∧ k' < t.size ∧ o = .ofIndex k ∧ o' = .ofIndex k' := by
  obtain ⟨k, a, ha, rfl, hposition⟩ := exists_active_of_opcodeOf? ho
  obtain ⟨k', b, hb, rfl, hposition'⟩ := exists_active_of_opcodeOf? ho'
  rw [hregistry, hposition', Option.some.injEq] at hposition
  obtain ⟨hlt, -⟩ := List.getElem?_eq_some_iff.mp hb
  exact ⟨k, k', rank_le h ha hb hposition.symm, hlt, rfl, rfl⟩

theorem widened_of_grows (hregistry : s.registry = t.registry) (h : List.Forall₂ Grows s.decided t.decided) :
    Widened s t := by
  have horder := sublist_activeFrom_of_grows h 0 0 0
  constructor
  case active =>
    intro a ha
    obtain ⟨b, hb, hsame⟩ := List.mem_map.mp (horder.mem (List.mem_map_of_mem ha))
    exact ⟨b, hb, hsame⟩
  case order => exact horder
  case ranks =>
    intro k k' a b ha hb hsame
    exact ⟨rank_le h ha hb (congrArg Prod.fst hsame), (getElem?_active ha).2.2.1, (getElem?_active hb).2.2.1⟩
  case numbers => exact fun name o o' => numbers_of_grows hregistry h
  case opcodes =>
    intro hsize name o o' ho ho'
    obtain ⟨k, k', hle, hk', rfl, rfl⟩ := numbers_of_grows hregistry h ho ho'
    have hlt : k' < UInt32.size := Nat.lt_of_lt_of_le hk' hsize
    rw [Opcode.index_ofIndex hlt, Opcode.index_ofIndex (Nat.lt_of_le_of_lt hle hlt)]
    exact hle

end Selection

theorem activeBefore_of_all {decided : List (Entry × Inclusion)} (h : ∀ d ∈ decided, d.2.isActive = true) {i : Nat}
    (hi : i ≤ decided.length) : activeBefore decided i = i := by
  rw [activeBefore, List.countP_eq_length.mpr, List.length_take, Nat.min_eq_left hi]
  exact fun d hd => h d (List.mem_of_mem_take hd)

def Slot.wrapped (slot : Slot) : Slot := { slot with index := slot.index % UInt32.size }

structure PoliciesAgree (s : Selection) : Prop where
  width : s.width .compact = s.width .reserve
  wrapped : s.slots .compact = (s.slots .reserve).map Slot.wrapped
  slots : ∀ i < UInt32.size, (s.slots .compact)[i]? = (s.slots .reserve)[i]?
  rows : s.registry.size ≤ UInt32.size → ∀ {σ α : Type} (name : String) (row : Slot → StateM σ α) (start : σ),
    (Consumer.artifactFrom ⟨name, .compact, row⟩ s start).rows =
      (Consumer.artifactFrom ⟨name, .reserve, row⟩ s start).rows

namespace Selection

variable {s : Selection}

theorem slots_compact_of_all (h : ∀ d ∈ s.decided, d.2.isActive = true) :
    s.slots .compact = (s.slots .reserve).map Slot.wrapped := by
  apply List.ext_getElem?
  intro i
  rw [List.getElem?_map, getElem?_slots_reserve]
  cases hd : s.decided[i]? with
  | none =>
    have hlength : s.decided.length ≤ i := List.getElem?_eq_none_iff.mp hd
    rw [Option.map_none, Option.map_none, List.getElem?_eq_none_iff, length_slots]
    exact Nat.le_trans (s.width_le .compact) (s.length_decided ▸ hlength)
  | some d =>
    obtain ⟨e, inclusion⟩ := d
    obtain ⟨hlt, -⟩ := List.getElem?_eq_some_iff.mp hd
    have hactive : inclusion.isActive = true := h _ (List.mem_of_getElem? hd)
    have hentry := active_of_decided hd hactive
    rw [activeBefore_of_all h (Nat.le_of_lt hlt)] at hentry ⊢
    simp only [slots, List.getElem?_map, hentry, Option.map_some, Slot.ofActive, Slot.wrapped, slotAt, if_pos hactive]
    rfl

theorem getElem?_reserve_wrapped {i : Nat} (hi : i < UInt32.size) :
    ((s.slots .reserve).map Slot.wrapped)[i]? = (s.slots .reserve)[i]? := by
  rw [List.getElem?_map, getElem?_slots_reserve, Option.map_map]
  apply congrArg (fun wrap => Option.map wrap s.decided[i]?)
  funext d
  rw [Function.comp_apply, Slot.wrapped, slotAt, Nat.mod_eq_of_lt hi]

theorem policiesAgree_of_all (h : ∀ i ∈ s.decisions, i.isActive = true) : PoliciesAgree s := by
  have hdecided : ∀ d ∈ s.decided, d.2.isActive = true := fun d hd => h d.2 (List.of_mem_zip hd).2
  have hwrapped := slots_compact_of_all hdecided
  have hsame : ∀ i < UInt32.size, (s.slots .compact)[i]? = (s.slots .reserve)[i]? := by
    intro i hi
    rw [hwrapped, getElem?_reserve_wrapped hi]
  constructor
  case width =>
    have hsize := s.size_eq
    rwa [List.countP_eq_length.mpr h, s.length_decisions] at hsize
  case wrapped => exact hwrapped
  case slots => exact hsame
  case rows =>
    intro hsize σ α name row start
    have hslots : s.slots .compact = s.slots .reserve := by
      apply List.ext_getElem?
      intro i
      rcases Nat.lt_or_ge i UInt32.size with hi | hi
      · exact hsame i hi
      · have hnone (policy : SlotPolicy) : (s.slots policy)[i]? = none := by
          rw [List.getElem?_eq_none_iff, length_slots]
          exact Nat.le_trans (s.width_le policy) (Nat.le_trans hsize hi)
        rw [hnone, hnone]
    simp only [Consumer.artifactFrom, Consumer.run, hslots]
    rfl

end Selection

/-- Opcodes are words of 32 bits: `Widened.opcodes`, `PoliciesAgree.slots` and `PoliciesAgree.rows` hold as far as these
count, `Widened.numbers` and `PoliciesAgree.wrapped` for every number of declarations. -/
theorem gating_is_monotone {r : Registry} {gates others : GateSet} {fallback otherFallback : SoftFallback}
    (hgates : ∀ e ∈ r.entries, e.Resolved gates) (hothers : ∀ e ∈ r.entries, e.Resolved others)
    (hon : ∀ g ∈ r.gates, gates.get? g = some true → others.get? g = some true)
    (hkeep : fallback = .keep → otherFallback = .keep) :
    ∃ s t, r.select gates fallback = .ok s ∧ r.select others otherFallback = .ok t ∧ Widened s t ∧
      (fallback = .keep → ∀ (position : Nat) (e : Entry) (gate : Gate), r.entries[position]? = some e →
        e.mode = .gated gate → gate.kind = .soft → ∃ a ∈ s.active, a.declared = (position, e)) ∧
      ((∀ i ∈ s.decisions, i.isActive = true) → PoliciesAgree s) := by
  obtain ⟨s, hs⟩ := exists_select_iff.mpr hgates
  obtain ⟨t, ht⟩ := exists_select_iff.mpr hothers
  obtain ⟨hregistry, hdecisions⟩ := select_eq_ok_iff.mp hs
  obtain ⟨hother, hotherDecisions⟩ := select_eq_ok_iff.mp ht
  refine ⟨s, t, hs, ht, ?_, ?_, Selection.policiesAgree_of_all⟩
  · apply Selection.widened_of_grows (hregistry.trans hother.symm)
    rw [Selection.decided, Selection.decided, hregistry, hother]
    apply forall₂_inclusions _ hdecisions hotherDecisions
    intro e he i j hi hj
    refine ⟨rfl, Entry.isActive_mono ?_ hkeep hi hj⟩
    exact fun g hg => hon g (Registry.mem_gates_iff.mpr ⟨e, he, hg⟩)
  · rintro rfl position e gate he hmode hsoft
    obtain ⟨i, hi, hinclusion⟩ := getElem?_inclusions hdecisions he
    have hactive := Entry.isActive_of_soft hmode hsoft hinclusion
    obtain ⟨a, ha, rfl, rfl, -⟩ :=
      active_iff_decided.mpr ⟨hregistry ▸ he, hi, Inclusion.isActive_iff.mp hactive⟩
    exact ⟨a, ha, rfl⟩

def narrowSelection : Selection := ⟨mixedRegistry, [.excluded, .excluded, .always, .gateOn], rfl⟩

theorem gating_is_monotone_vector :
    (∀ e ∈ mixedRegistry.entries, e.Resolved mixedGates) ∧
      (∀ e ∈ mixedRegistry.entries, e.Resolved (mixedGates.set "Vec" true)) ∧
      (∀ g ∈ mixedRegistry.gates, mixedGates.get? g = some true → (mixedGates.set "Vec" true).get? g = some true) ∧
      mixedRegistry.select mixedGates .drop = .ok narrowSelection ∧
      mixedRegistry.select (mixedGates.set "Vec" true) .keep = .ok vectorSelection ∧
      Widened narrowSelection vectorSelection ∧
      (∃ a ∈ vectorSelection.active, a.name = "Store") ∧ PoliciesAgree vectorSelection := by
  have hgates : ∀ e ∈ mixedRegistry.entries, e.Resolved mixedGates := by decide
  have hothers : ∀ e ∈ mixedRegistry.entries, e.Resolved (mixedGates.set "Vec" true) := by decide
  have hon : ∀ g ∈ mixedRegistry.gates,
      mixedGates.get? g = some true → (mixedGates.set "Vec" true).get? g = some true := by decide
  have hnarrow : mixedRegistry.select mixedGates .drop = .ok narrowSelection := select_eq_ok_iff.mpr ⟨rfl, rfl⟩
  have hvector : mixedRegistry.select (mixedGates.set "Vec" true) .keep = .ok vectorSelection :=
    select_eq_ok_iff.mpr ⟨rfl, rfl⟩
  obtain ⟨s, t, hs, ht, hwidened, -, -⟩ := @gating_is_monotone _ _ _ .drop .keep hgates hothers hon (fun _ => rfl)
  obtain rfl := Except.ok.inj (hnarrow.symm.trans hs)
  obtain rfl := Except.ok.inj (hvector.symm.trans ht)
  obtain ⟨u, -, hu, -, -, hsoft, hagree⟩ :=
    @gating_is_monotone _ _ _ .keep .keep hothers hothers (fun _ _ => id) (fun _ => rfl)
  obtain rfl := Except.ok.inj (hvector.symm.trans hu)
  obtain ⟨a, ha, hstore⟩ := hsoft rfl 1 _ _ rfl rfl rfl
  refine ⟨hgates, hothers, hon, hnarrow, hvector, hwidened, ⟨a, ha, ?_⟩, hagree (by decide)⟩
  exact congrArg (fun d : Nat × Entry => d.2.name.text) hstore

end KindTable
