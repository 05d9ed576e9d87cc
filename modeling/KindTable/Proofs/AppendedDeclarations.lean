import KindTable.Generate
import KindTable.Proofs.Authoring
import KindTable.Proofs.Numbering

namespace KindTable

section

variable {gates : GateSet} {fallback : SoftFallback}

theorem inclusions_append_eq_ok_iff {first later : List Entry} {is : List Inclusion} :
    inclusions gates fallback (first ++ later) = .ok is ↔ ∃ js ks, inclusions gates fallback first = .ok js ∧
      inclusions gates fallback later = .ok ks ∧ js ++ ks = is := by
  induction first generalizing is with
  | nil => simp [inclusions]
  | cons e rest ih =>
    rw [List.cons_append, inclusions_cons_eq_ok_iff]
    constructor
    · rintro ⟨i, _, hi, htail, rfl⟩
      obtain ⟨js, ks, hrest, hlater, rfl⟩ := ih.mp htail
      exact ⟨i :: js, ks, inclusions_cons_eq_ok_iff.mpr ⟨i, js, hi, hrest, rfl⟩, hlater, rfl⟩
    · rintro ⟨_, ks, hfirst, hlater, rfl⟩
      obtain ⟨i, js, hi, hrest, rfl⟩ := inclusions_cons_eq_ok_iff.mp hfirst
      exact ⟨i, js ++ ks, hi, ih.mpr ⟨js, ks, hrest, hlater, rfl⟩, rfl⟩

end

theorem activeFrom_append (position opcode : Nat) (decided later : List (Entry × Inclusion)) :
    activeFrom position opcode (decided ++ later) = activeFrom position opcode decided ++
      activeFrom (position + decided.length) (opcode + decided.countP (·.2.isActive)) later := by
  induction decided generalizing position opcode with
  | nil => rfl
  | cons d rest ih =>
    obtain ⟨e, i⟩ := d
    cases hi : i.isActive <;> simp [activeFrom, hi, ih, Nat.add_assoc, Nat.add_comm 1]

theorem activeBefore_of_isPrefix {decided longer : List (Entry × Inclusion)} (h : decided <+: longer) {position : Nat}
    (hposition : position ≤ decided.length) : activeBefore longer position = activeBefore decided position := by
  obtain ⟨later, rfl⟩ := h
  rw [activeBefore, activeBefore, List.take_append_of_le_length hposition]

namespace Selection

variable {s t : Selection}

theorem decided_of_isPrefix (h : t.decided <+: s.decided) {position : Nat} {d : Entry × Inclusion}
    (hd : t.decided[position]? = some d) : s.decided[position]? = some d := by
  obtain ⟨hlt, rfl⟩ := List.getElem?_eq_some_iff.mp hd
  exact List.prefix_iff_getElem?.mp h position hlt

theorem active_isPrefix (h : t.decided <+: s.decided) : t.active <+: s.active := by
  obtain ⟨later, hlater⟩ := h
  rw [active, active, ← hlater, activeFrom_append]
  exact List.prefix_append _ _

theorem slots_isPrefix (h : t.decided <+: s.decided) (policy : SlotPolicy) : t.slots policy <+: s.slots policy := by
  cases policy with
  | compact => exact (active_isPrefix h).map Slot.ofActive
  | reserve =>
    apply List.prefix_iff_getElem?.mpr
    intro i hi
    rw [← List.getElem?_eq_getElem hi, getElem?_slots_reserve, getElem?_slots_reserve]
    rw [length_slots, width, ← length_decided] at hi
    rw [activeBefore_of_isPrefix h (Nat.le_of_lt hi), List.prefix_iff_getElem?.mp h i hi, List.getElem?_eq_getElem hi]

theorem rows_isPrefix {α : Type} (h : t.decided <+: s.decided) (c : RowConsumer α) :
    (RowConsumer.artifact c t).rows <+: (RowConsumer.artifact c s).rows := by
  rw [RowConsumer.rows_artifact, RowConsumer.rows_artifact]
  exact (slots_isPrefix h c.policy).map _

theorem opcodeOf?_of_isPrefix (h : t.decided <+: s.decided) {e : Entry} (he : e ∈ t.registry.entries) :
    t.opcodeOf? e.name.text = s.opcodeOf? e.name.text := by
  obtain ⟨position, hposition⟩ := List.mem_iff_getElem?.mp he
  obtain ⟨i, hi⟩ := exists_decided hposition
  have hlt : position < t.decided.length := (List.getElem?_eq_some_iff.mp hi).1
  rw [opcodeOf?_of_decided hi, opcodeOf?_of_decided (decided_of_isPrefix h hi),
    activeBefore_of_isPrefix h (Nat.le_of_lt hlt)]

end Selection

structure KeepsNumbers {η : Type} (t s : Selection) (handlers : Handlers η) : Prop where
  decisions : ∀ position e, t.registry.entries[position]? = some e →
    ∃ i, t.decision? position = some i ∧ s.decision? position = some i
  opcodes : ∀ e ∈ t.registry.entries, t.opcodeOf? e.name.text = s.opcodeOf? e.name.text
  opcodeRows : ∀ policy, (t.opcodeRows policy).rows <+: (s.opcodeRows policy).rows
  nameRows : ∀ policy, (t.nameRows policy).rows <+: (s.nameRows policy).rows
  stubRows : ∀ policy, (t.stubRows policy).rows <+: (s.stubRows policy).rows
  manifestRows : ∀ policy, (t.manifestRows policy).rows <+: (s.manifestRows policy).rows
  dispatchRows : ∀ policy, (RowConsumer.artifact (dispatchConsumer handlers policy) t).rows <+:
    (RowConsumer.artifact (dispatchConsumer handlers policy) s).rows

theorem keepsNumbers_of_isPrefix {η : Type} {t s : Selection} (h : t.decided <+: s.decided) (handlers : Handlers η) :
    KeepsNumbers t s handlers := by
  constructor
  case decisions =>
    intro position e he
    obtain ⟨i, hi⟩ := Selection.exists_decided he
    have hlonger := Selection.decided_of_isPrefix h hi
    exact ⟨i, (Selection.getElem?_decided.mp hi).2, (Selection.getElem?_decided.mp hlonger).2⟩
  case opcodes => exact fun e he => Selection.opcodeOf?_of_isPrefix h he
  case opcodeRows => exact fun policy => Selection.rows_isPrefix h _
  case nameRows => exact fun policy => Selection.rows_isPrefix h _
  case stubRows => exact fun policy => Selection.rows_isPrefix h _
  case manifestRows => exact fun policy => Selection.rows_isPrefix h _
  case dispatchRows => exact fun policy => Selection.rows_isPrefix h _

section

variable {first later : List Entry} {gates : GateSet} {fallback : SoftFallback} {r q : Registry} {s : Selection}

theorem freeze_of_append (h : (Draft.mk (first ++ later)).freeze gates = .ok r) :
    ∃ q, (Draft.mk first).freeze gates = .ok q ∧ q.entries = first := by
  obtain ⟨hnodup, hresolved⟩ := exists_freeze_iff.mp ⟨r, h⟩
  rw [List.map_append] at hnodup
  have hfirst : ∀ e ∈ first, e.Resolved gates := fun e he => hresolved e (List.mem_append_left later he)
  obtain ⟨q, hq⟩ := (@exists_freeze_iff ⟨first⟩ gates).mpr ⟨(List.nodup_append.mp hnodup).1, hfirst⟩
  exact ⟨q, hq, (Draft.freeze_eq_ok_iff.mp hq).2.symm⟩

theorem select_of_append (hr : r.entries = q.entries ++ later) (hs : r.select gates fallback = .ok s) :
    ∃ t, q.select gates fallback = .ok t ∧ t.decided <+: s.decided := by
  obtain ⟨hregistry, hdecisions⟩ := select_eq_ok_iff.mp hs
  rw [hr] at hdecisions
  obtain ⟨js, ks, hfirst, -, hjoined⟩ := inclusions_append_eq_ok_iff.mp hdecisions
  have hlength : js.length = q.entries.length := length_of_inclusions_eq_ok hfirst
  refine ⟨⟨q, js, hlength⟩, select_eq_ok_iff.mpr ⟨rfl, hfirst⟩, later.zip ks, ?_⟩
  rw [Selection.decided, Selection.decided, hregistry, hr, ← hjoined, List.zip_append hlength.symm]

end

theorem appending_keeps_numbers {η : Type} {first later : List Entry} {gates : GateSet} {fallback : SoftFallback}
    {r : Registry} {s : Selection} (hr : (Draft.mk (first ++ later)).freeze gates = .ok r)
    (hs : r.select gates fallback = .ok s) (handlers : Handlers η) :
    ∃ q t, (Draft.mk first).freeze gates = .ok q ∧ q.entries = first ∧ q.select gates fallback = .ok t ∧
      t.registry = q ∧ KeepsNumbers t s handlers := by
  obtain ⟨q, hq, rfl⟩ := freeze_of_append hr
  obtain ⟨t, ht, hprefix⟩ := select_of_append (Draft.freeze_eq_ok_iff.mp hr).2.symm hs
  exact ⟨q, t, hq, rfl, ht, (select_eq_ok_iff.mp ht).1, keepsNumbers_of_isPrefix hprefix handlers⟩

theorem freeze_mixedRegistry : (Draft.mk mixedRegistry.entries).freeze mixedGates = .ok mixedRegistry :=
  Draft.freeze_eq_ok_iff.mpr ⟨firstDefect?_eq_none_iff.mpr ⟨by simp, mixedRegistry.nodup, by decide⟩, rfl⟩

theorem appending_keeps_numbers_mixedRegistry :
    (Draft.mk (mixedRegistry.entries.take 2 ++ mixedRegistry.entries.drop 2)).freeze mixedGates = .ok mixedRegistry ∧
      mixedRegistry.select mixedGates .keep = .ok mixedSelection ∧
      ∃ q t, (Draft.mk (mixedRegistry.entries.take 2)).freeze mixedGates = .ok q ∧
        q.select mixedGates .keep = .ok t ∧ KeepsNumbers t mixedSelection (.ofList [("Store", 7)] (some 0)) ∧
        t.opcodeOf? "Store" = mixedSelection.opcodeOf? "Store" := by
  have hs : mixedRegistry.select mixedGates .keep = .ok mixedSelection := select_eq_ok_iff.mpr ⟨rfl, rfl⟩
  obtain ⟨q, t, hq, hentries, ht, hregistry, hkeeps⟩ := @appending_keeps_numbers Nat (mixedRegistry.entries.take 2)
    (mixedRegistry.entries.drop 2) _ _ _ _ freeze_mixedRegistry hs (.ofList [("Store", 7)] (some 0))
  have hstore : t.registry.entries[1]? = some ⟨⟨"Store", rfl⟩, .gated ⟨⟨"Mem", rfl⟩, .soft⟩⟩ := by
    rw [hregistry, hentries]
    rfl
  exact ⟨freeze_mixedRegistry, hs, q, t, hq, ht, hkeeps, hkeeps.opcodes _ (List.mem_of_getElem? hstore)⟩

end KindTable
