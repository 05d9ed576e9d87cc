import KindTable.Selection

namespace KindTable

inductive Decides (gates : GateSet) (fallback : SoftFallback) : Mode → Inclusion → Prop where
  | always : Decides gates fallback .always .always
  | gateOn {g : Gate} : gates.get? g.name.text = some true → Decides gates fallback (.gated g) .gateOn
  | softFallback {g : Gate} : gates.get? g.name.text = some false → g.kind = .soft → fallback = .keep →
    Decides gates fallback (.gated g) .softFallback
  | excluded {g : Gate} : gates.get? g.name.text = some false → ¬(g.kind = .soft ∧ fallback = .keep) →
    Decides gates fallback (.gated g) .excluded

theorem decides_of_off {gates : GateSet} {fallback : SoftFallback} {g : Gate}
    (h : gates.get? g.name.text = some false) : Decides gates fallback (.gated g) (.ofGate g.kind fallback false) := by
  obtain ⟨name, kind⟩ := g
  cases kind with
  | hard => exact .excluded h (by simp)
  | soft =>
    cases fallback with
    | keep => exact .softFallback h rfl rfl
    | drop => exact .excluded h (by simp)

theorem decides_of_inclusion {e : Entry} {gates : GateSet} {fallback : SoftFallback} {i : Inclusion}
    (h : e.inclusion gates fallback = .ok i) : Decides gates fallback e.mode i := by
  unfold Entry.inclusion at h
  split at h
  · rename_i hmode
    cases h
    rw [hmode]
    exact .always
  · rename_i gate hmode
    rw [hmode]
    split at h
    · cases h
    · rename_i isOn hgate
      cases h
      cases isOn with
      | true => exact .gateOn hgate
      | false => exact decides_of_off hgate

theorem Inclusion.isActive_iff {i : Inclusion} : i.isActive = true ↔ i ≠ .excluded := by
  simp [isActive]

structure Numbered (r : Registry) (gates : GateSet) (fallback : SoftFallback) (s : Selection) : Prop where
  registry : s.registry = r
  length : s.decisions.length = r.size
  decided : ∀ position e, r.entries[position]? = some e →
    ∃ i, s.decision? position = some i ∧ Decides gates fallback e.mode i
  listed : ∀ position e i, (∃ a ∈ s.active, a.position = position ∧ a.entry = e ∧ a.inclusion = i) ↔
    r.entries[position]? = some e ∧ s.decision? position = some i ∧ i ≠ .excluded
  increasing : s.active.Pairwise fun a b => a.position < b.position
  numbered : ∀ k a, s.active[k]? = some a → a.opcode.index = k ∧
    k = (s.decisions.take a.position).countP (· != .excluded)
  byOpcode : ∀ k < UInt32.size, s.get? (.ofIndex k) = s.active[k]?
  byName : ∀ name o, s.opcodeOf? name = some o ↔ ∃ a, s.get? o = some a ∧ a.name = name
  missing : ∀ name, s.opcodeOf? name = none ↔
    ∀ position e, r.entries[position]? = some e → e.name.text = name → s.decision? position = some .excluded

theorem active_iff_decided {s : Selection} {position : Nat} {e : Entry} {i : Inclusion} :
    (∃ a ∈ s.active, a.position = position ∧ a.entry = e ∧ a.inclusion = i) ↔
      s.registry.entries[position]? = some e ∧ s.decision? position = some i ∧ i ≠ .excluded := by
  constructor
  · rintro ⟨a, ha, rfl, rfl, rfl⟩
    obtain ⟨k, hk⟩ := List.mem_iff_getElem?.mp ha
    obtain ⟨hdecided, hactive, -⟩ := Selection.getElem?_active hk
    obtain ⟨hentry, hdecision⟩ := Selection.getElem?_decided.mp hdecided
    exact ⟨hentry, hdecision, Inclusion.isActive_iff.mp hactive⟩
  · rintro ⟨hentry, hdecision, hi⟩
    have hdecided : s.decided[position]? = some (e, i) := Selection.getElem?_decided.mpr ⟨hentry, hdecision⟩
    have hactive := Selection.active_of_decided hdecided (Inclusion.isActive_iff.mpr hi)
    exact ⟨_, List.mem_of_getElem? hactive, rfl, rfl, rfl⟩

theorem exists_opcode_iff {s : Selection} (hsize : s.registry.size ≤ UInt32.size) {name : String} :
    (∃ o, s.opcodeOf? name = some o) ↔ ∃ a ∈ s.active, a.name = name := by
  simp only [Selection.opcodeOf?_eq_some_iff hsize]
  constructor
  · rintro ⟨o, a, ha, hname⟩
    exact ⟨a, List.mem_of_getElem? ha, hname⟩
  · rintro ⟨a, ha, hname⟩
    obtain ⟨k, hk⟩ := List.mem_iff_getElem?.mp ha
    refine ⟨.ofIndex k, a, ?_, hname⟩
    rw [Selection.get?, Opcode.index_ofIndex (Selection.lt_of_active hsize hk)]
    exact hk

theorem opcodeOf?_eq_none_iff {s : Selection} (hsize : s.registry.size ≤ UInt32.size) {name : String} :
    s.opcodeOf? name = none ↔ ∀ position e, s.registry.entries[position]? = some e → e.name.text = name →
      s.decision? position = some .excluded := by
  have hnone : s.opcodeOf? name = none ↔ ¬∃ a ∈ s.active, a.name = name := by
    rw [← exists_opcode_iff hsize, ← Option.isSome_iff_exists, Option.not_isSome_iff_eq_none]
  rw [hnone]
  constructor
  · intro hinactive position e hentry hname
    obtain ⟨i, hdecided⟩ := Selection.exists_decided hentry
    have hdecision : s.decision? position = some i := (Selection.getElem?_decided.mp hdecided).2
    by_cases hexcluded : i = .excluded
    · rw [hdecision, hexcluded]
    · obtain ⟨a, ha, -, rfl, -⟩ := active_iff_decided.mpr ⟨hentry, hdecision, hexcluded⟩
      exact absurd ⟨a, ha, hname⟩ hinactive
  · rintro hexcluded ⟨a, ha, hname⟩
    obtain ⟨hentry, hdecision, hne⟩ := active_iff_decided.mp ⟨a, ha, rfl, rfl, rfl⟩
    have hdecided := hexcluded a.position a.entry hentry hname
    exact hne (Option.some.inj (hdecision.symm.trans hdecided))

theorem selection_numbered {r : Registry} {gates : GateSet} {fallback : SoftFallback} {s : Selection}
    (hs : r.select gates fallback = .ok s) (hsize : r.size ≤ UInt32.size) : Numbered r gates fallback s := by
  obtain ⟨rfl, hdecisions⟩ := select_eq_ok_iff.mp hs
  constructor
  case registry => rfl
  case length => exact s.length_decisions
  case decided =>
    intro position e he
    obtain ⟨i, hi, hinclusion⟩ := getElem?_inclusions hdecisions he
    exact ⟨i, hi, decides_of_inclusion hinclusion⟩
  case listed => exact fun position e i => active_iff_decided
  case increasing => exact pairwise_activeFrom 0 0 s.decided
  case numbered =>
    intro k a ha
    obtain ⟨-, -, hopcode, hbefore⟩ := Selection.getElem?_active ha
    refine ⟨?_, ?_⟩
    · rw [hopcode, Opcode.index_ofIndex (Selection.lt_of_active hsize ha)]
    · rw [← hbefore, Selection.activeBefore_decided]
      rfl
  case byOpcode =>
    intro k hk
    rw [Selection.get?, Opcode.index_ofIndex hk]
  case byName => exact fun name o => Selection.opcodeOf?_eq_some_iff hsize
  case missing => exact fun name => opcodeOf?_eq_none_iff hsize

def mixedRegistry : Registry :=
  ⟨[⟨⟨"Load", rfl⟩, .gated ⟨⟨"Vec", rfl⟩, .hard⟩⟩, ⟨⟨"Store", rfl⟩, .gated ⟨⟨"Mem", rfl⟩, .soft⟩⟩,
    ⟨⟨"Phi", rfl⟩, .always⟩, ⟨⟨"Call", rfl⟩, .gated ⟨⟨"Jit", rfl⟩, .soft⟩⟩], by decide⟩

def mixedGates : GateSet := .ofList [("Mem", false), ("Vec", false), ("Jit", true)]

def mixedSelection : Selection := ⟨mixedRegistry, [.excluded, .softFallback, .always, .gateOn], rfl⟩

theorem selection_numbered_mixedSelection :
    mixedRegistry.select mixedGates .keep = .ok mixedSelection ∧ mixedRegistry.size ≤ UInt32.size ∧
      Numbered mixedRegistry mixedGates .keep mixedSelection ∧
      mixedSelection.opcodeOf? "Phi" = some ⟨1⟩ ∧ mixedSelection.opcodeOf? "Load" = none := by
  have hselect : mixedRegistry.select mixedGates .keep = .ok mixedSelection := select_eq_ok_iff.mpr ⟨rfl, rfl⟩
  have hsize : mixedRegistry.size ≤ UInt32.size := by decide
  have hnumbered := selection_numbered hselect hsize
  refine ⟨hselect, hsize, hnumbered, (hnumbered.byName "Phi" ⟨1⟩).mpr ⟨_, rfl, rfl⟩, (hnumbered.missing "Load").mpr ?_⟩
  intro position e he hname
  have hposition : position < 4 := (List.getElem?_eq_some_iff.mp he).1
  match position with
  | 0 => rfl
  | 1 | 2 | 3 =>
    cases he
    exact absurd hname (by decide)

end KindTable
