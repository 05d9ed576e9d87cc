import Mathlib.Data.List.Forall2
import KindTable.Proofs.Numbering

namespace KindTable

def Entry.uses (e : Entry) (gate : String) : Bool := e.gateName? == some gate

def usersBefore (gate : String) (decided : List (Entry × Inclusion)) (position : Nat) : Nat :=
  (decided.take position).countP fun d => d.1.uses gate && d.2.isActive

theorem usersBefore_cons (gate : String) (d : Entry × Inclusion) (rest : List (Entry × Inclusion)) (position : Nat) :
    usersBefore gate (d :: rest) (position + 1) =
      usersBefore gate rest position + if d.1.uses gate && d.2.isActive then 1 else 0 := by
  rw [usersBefore, List.take_succ_cons, List.countP_cons, usersBefore]

theorem usersBefore_eq_zero {gate : String} {decided : List (Entry × Inclusion)} {position : Nat}
    (h : ∀ q < position, ∀ d, decided[q]? = some d → d.1.uses gate = false) :
    usersBefore gate decided position = 0 := by
  apply List.countP_eq_zero.mpr
  intro d hd
  obtain ⟨q, hq, rfl⟩ := List.mem_take_iff_getElem.mp hd
  obtain ⟨hlt, hlength⟩ := Nat.lt_min.mp hq
  simp [h q hlt _ (List.getElem?_eq_getElem hlength)]

def bystanders (gate : String) (active : List ActiveEntry) : List (Nat × Inclusion × Entry) :=
  (active.filter (!·.entry.uses gate)).map fun a => (a.position, a.inclusion, a.entry)

theorem bystanders_activeFrom_cons (gate : String) (position opcode : Nat) (e : Entry) (i : Inclusion)
    (rest : List (Entry × Inclusion)) : ∃ next, bystanders gate (activeFrom position opcode ((e, i) :: rest)) =
      (if !e.uses gate && i.isActive then [(position, i, e)] else []) ++
        bystanders gate (activeFrom (position + 1) next rest) := by
  cases hi : i.isActive with
  | false => exact ⟨opcode, by simp [activeFrom, hi]⟩
  | true => exact ⟨opcode + 1, by cases huses : e.uses gate <;> simp [bystanders, activeFrom, hi, huses]⟩

def SameBut (gate : String) (x y : Entry × Inclusion) : Prop := x.1 = y.1 ∧ (x.1.uses gate = false → x.2 = y.2)

section

variable {gate : String} {before after : List (Entry × Inclusion)}

-- Entries that do not use the gate add the same to both counts, so only its users can set them apart.
theorem activeBefore_shift (h : List.Forall₂ (SameBut gate) before after) (position : Nat) :
    activeBefore after position + usersBefore gate before position =
      activeBefore before position + usersBefore gate after position := by
  induction h generalizing position with
  | nil => simp [activeBefore, usersBefore]
  | @cons x y before after hxy h ih =>
    cases position with
    | zero => rfl
    | succ position =>
      have hrest := ih position
      obtain ⟨hentry, hsame⟩ := hxy
      rw [activeBefore_cons, activeBefore_cons, usersBefore_cons, usersBefore_cons, ← hentry]
      cases huses : x.1.uses gate with
      | true =>
        simp only [Bool.true_and]
        omega
      | false =>
        rw [hsame huses]
        simp only [Bool.false_and, Bool.false_eq_true, if_false]
        omega

theorem bystanders_congr (h : List.Forall₂ (SameBut gate) before after) (position opcode other : Nat) :
    bystanders gate (activeFrom position opcode before) = bystanders gate (activeFrom position other after) := by
  induction h generalizing position opcode other with
  | nil => rfl
  | @cons x y before after hxy h ih =>
    obtain ⟨e, i⟩ := x
    obtain ⟨e', j⟩ := y
    obtain ⟨rfl, hsame⟩ := hxy
    obtain ⟨next, hbefore⟩ := bystanders_activeFrom_cons gate position opcode e i before
    obtain ⟨otherNext, hafter⟩ := bystanders_activeFrom_cons gate position other e j after
    rw [hbefore, hafter, ih (position + 1) next otherNext]
    cases huses : e.uses gate with
    | true => rfl
    | false =>
      obtain rfl : i = j := hsame huses
      rfl

end

theorem forall₂_inclusions {R : Entry × Inclusion → Entry × Inclusion → Prop} {gates others : GateSet}
    {fallback otherFallback : SoftFallback} {entries : List Entry} {is js : List Inclusion}
    (hR : ∀ e ∈ entries, ∀ i j, e.inclusion gates fallback = .ok i → e.inclusion others otherFallback = .ok j →
      R (e, i) (e, j))
    (h : inclusions gates fallback entries = .ok is) (hother : inclusions others otherFallback entries = .ok js) :
    List.Forall₂ R (entries.zip is) (entries.zip js) := by
  induction entries generalizing is js with
  | nil => exact .nil
  | cons e rest ih =>
    obtain ⟨i, is, hi, hrest, rfl⟩ := inclusions_cons_eq_ok_iff.mp h
    obtain ⟨j, js, hj, hotherRest, rfl⟩ := inclusions_cons_eq_ok_iff.mp hother
    obtain ⟨he, hlater⟩ := List.forall_mem_cons.mp hR
    exact .cons (he i j hi hj) (ih hlater hrest hotherRest)

section

variable {gates others : GateSet} {fallback : SoftFallback} {gate : String}

theorem inclusion_of_not_uses (helsewhere : ∀ name, name ≠ gate → others.get? name = gates.get? name) {e : Entry}
    (huses : e.uses gate = false) : e.inclusion gates fallback = e.inclusion others fallback := by
  apply Entry.inclusion_congr
  intro g hg
  refine (helsewhere g ?_).symm
  rintro rfl
  simp [Entry.uses, hg] at huses

theorem sameBut_of_inclusions (helsewhere : ∀ name, name ≠ gate → others.get? name = gates.get? name)
    {entries : List Entry} {is js : List Inclusion} (h : inclusions gates fallback entries = .ok is)
    (hother : inclusions others fallback entries = .ok js) :
    List.Forall₂ (SameBut gate) (entries.zip is) (entries.zip js) := by
  apply forall₂_inclusions _ h hother
  intro e _ i j hi hj
  refine ⟨rfl, fun huses => ?_⟩
  rw [inclusion_of_not_uses helsewhere huses, hj] at hi
  exact (Except.ok.inj hi).symm

end

namespace Opcode

variable {k k' gained lost : Nat}

theorem value_shift (h : k' + lost = k + gained) :
    (ofIndex k').value = (ofIndex k).value + .ofNat gained - .ofNat lost := by
  change UInt32.ofNat k' = UInt32.ofNat k + .ofNat gained - .ofNat lost
  rw [← UInt32.ofNat_add, ← h, UInt32.ofNat_add, UInt32.add_sub_cancel]

theorem index_shift (hk : k < UInt32.size) (hk' : k' < UInt32.size) (h : k' + lost = k + gained) :
    ((ofIndex k').index : Int) = (ofIndex k).index + gained - lost := by
  rw [index_ofIndex hk, index_ofIndex hk']
  omega

end Opcode

structure GateShift (r : Registry) (gate : String) (s t : Selection) : Prop where
  decisions : ∀ (position : Nat) (e : Entry), r.entries[position]? = some e → e.uses gate = false →
    ∃ i, s.decision? position = some i ∧ t.decision? position = some i
  order : bystanders gate s.active = bystanders gate t.active
  shift : ∀ (position : Nat) (e : Entry), r.entries[position]? = some e → e.uses gate = false →
    s.decision? position ≠ some .excluded →
    ∃ o o', s.opcodeOf? e.name.text = some o ∧ t.opcodeOf? e.name.text = some o' ∧
      o'.value = o.value + .ofNat (usersBefore gate t.decided position) - .ofNat (usersBefore gate s.decided position) ∧
      (r.size ≤ UInt32.size → (o'.index : Int) =
        o.index + usersBefore gate t.decided position - usersBefore gate s.decided position)
  untouched : ∀ (position : Nat) (e : Entry), r.entries[position]? = some e →
    (∀ q ≤ position, ∀ earlier : Entry, r.entries[q]? = some earlier → earlier.uses gate = false) →
    s.opcodeOf? e.name.text = t.opcodeOf? e.name.text

section

variable {s t : Selection} {gate : String}

theorem decided_of_not_uses (h : List.Forall₂ (SameBut gate) s.decided t.decided) {position : Nat} {e : Entry}
    (he : s.registry.entries[position]? = some e) (huses : e.uses gate = false) :
    ∃ i, s.decided[position]? = some (e, i) ∧ t.decided[position]? = some (e, i) := by
  obtain ⟨i, hi⟩ := Selection.exists_decided he
  obtain ⟨hlt, hd⟩ := List.getElem?_eq_some_iff.mp hi
  have hlt' : position < t.decided.length := h.length_eq ▸ hlt
  have hget : SameBut gate s.decided[position] t.decided[position] := h.get hlt hlt'
  rw [hd] at hget
  have hother : t.decided[position] = (e, i) := Prod.ext hget.1.symm (hget.2 huses).symm
  exact ⟨i, hi, List.getElem?_eq_some_iff.mpr ⟨hlt', hother⟩⟩

theorem usersBefore_of_unused {position : Nat}
    (h : ∀ q ≤ position, ∀ earlier : Entry, s.registry.entries[q]? = some earlier → earlier.uses gate = false) :
    usersBefore gate s.decided position = 0 := by
  apply usersBefore_eq_zero
  intro q hq d hd
  exact h q (Nat.le_of_lt hq) d.1 (Selection.getElem?_decided.mp hd).1

theorem gateShift_of_sameBut (hregistry : t.registry = s.registry)
    (h : List.Forall₂ (SameBut gate) s.decided t.decided) : GateShift s.registry gate s t := by
  constructor
  case decisions =>
    intro position e he huses
    obtain ⟨i, hi, hj⟩ := decided_of_not_uses h he huses
    exact ⟨i, (Selection.getElem?_decided.mp hi).2, (Selection.getElem?_decided.mp hj).2⟩
  case order => exact bystanders_congr h 0 0 0
  case shift =>
    intro position e he huses hincluded
    obtain ⟨i, hi, hj⟩ := decided_of_not_uses h he huses
    have hne : i ≠ .excluded := by
      rintro rfl
      exact hincluded (Selection.getElem?_decided.mp hi).2
    have hactive : i.isActive = true := Inclusion.isActive_iff.mpr hne
    have hshift := activeBefore_shift h position
    refine ⟨_, _, ?_, ?_, Opcode.value_shift hshift, fun hsize => Opcode.index_shift ?_ ?_ hshift⟩
    · rw [Selection.opcodeOf?_of_decided hi, if_pos hactive]
    · rw [Selection.opcodeOf?_of_decided hj, if_pos hactive]
    · exact Selection.lt_of_active hsize (Selection.active_of_decided hi hactive)
    · exact Selection.lt_of_active (hregistry ▸ hsize) (Selection.active_of_decided hj hactive)
  case untouched =>
    intro position e he hunused
    obtain ⟨i, hi, hj⟩ := decided_of_not_uses h he (hunused position (Nat.le_refl position) e he)
    have hshift := activeBefore_shift h position
    rw [usersBefore_of_unused hunused, usersBefore_of_unused (hregistry ▸ hunused), Nat.add_zero,
      Nat.add_zero] at hshift
    rw [Selection.opcodeOf?_of_decided hi, Selection.opcodeOf?_of_decided hj, hshift]

end

theorem toggling_gate_shifts_opcodes {r : Registry} {gates others : GateSet} {fallback : SoftFallback} {gate : String}
    {s : Selection} (hs : r.select gates fallback = .ok s)
    (helsewhere : ∀ name, name ≠ gate → others.get? name = gates.get? name)
    (hbound : gates.contains gate = true → others.contains gate = true) :
    ∃ t, r.select others fallback = .ok t ∧ GateShift r gate s t := by
  have hresolved : ∀ e ∈ r.entries, e.Resolved others := by
    intro e he g hg
    have hgate := exists_select_iff.mp ⟨s, hs⟩ e he g hg
    by_cases hsame : g = gate
    · rw [hsame] at hgate ⊢
      exact hbound hgate
    · rw [GateSet.contains, helsewhere g hsame]
      exact hgate
  obtain ⟨t, ht⟩ := (@exists_select_iff r others fallback).mpr hresolved
  obtain ⟨rfl, hdecisions⟩ := select_eq_ok_iff.mp hs
  obtain ⟨hregistry, hother⟩ := select_eq_ok_iff.mp ht
  have hsame : List.Forall₂ (SameBut gate) s.decided t.decided := by
    rw [Selection.decided, Selection.decided, hregistry]
    exact sameBut_of_inclusions helsewhere hdecisions hother
  exact ⟨t, ht, gateShift_of_sameBut hregistry hsame⟩

def vectorSelection : Selection := ⟨mixedRegistry, [.gateOn, .softFallback, .always, .gateOn], rfl⟩

theorem toggling_gate_shifts_opcodes_vector :
    mixedRegistry.select mixedGates .keep = .ok mixedSelection ∧
      mixedRegistry.select (mixedGates.set "Vec" true) .keep = .ok vectorSelection ∧
      GateShift mixedRegistry "Vec" mixedSelection vectorSelection ∧
      ∃ o o', mixedSelection.opcodeOf? "Phi" = some o ∧ vectorSelection.opcodeOf? "Phi" = some o' ∧
        (o'.index : Int) = o.index + 1 := by
  have hs : mixedRegistry.select mixedGates .keep = .ok mixedSelection := select_eq_ok_iff.mpr ⟨rfl, rfl⟩
  have hv : mixedRegistry.select (mixedGates.set "Vec" true) .keep = .ok vectorSelection :=
    select_eq_ok_iff.mpr ⟨rfl, rfl⟩
  obtain ⟨t, ht, hshift⟩ := @toggling_gate_shifts_opcodes _ _ (mixedGates.set "Vec" true) _ "Vec" _ hs
    (fun name hname => by rw [GateSet.get?_set, if_neg hname]) (fun _ => by decide)
  obtain rfl := Except.ok.inj (hv.symm.trans ht)
  obtain ⟨o, o', ho, ho', -, hindex⟩ := hshift.shift 2 _ rfl (by decide) (by decide)
  exact ⟨hs, hv, hshift, o, o', ho, ho', hindex (by decide)⟩

end KindTable
