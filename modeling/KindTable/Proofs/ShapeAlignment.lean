import KindTable.Generate
import KindTable.Proofs.StatefulLoops

namespace KindTable

variable {σ τ α β : Type}

namespace Consumer

def artifactFrom (c : Consumer (StateM σ) α) (s : Selection) (start : σ) : Artifact α :=
  ((c.run s).run start).run.1

def stateAt (c : Consumer (StateM σ) α) (s : Selection) (start : σ) (i : Nat) : σ :=
  ((((s.slots c.policy).take i).mapM c.row).run start).run.2

theorem getElem?_artifactFrom (c : Consumer (StateM σ) α) (s : Selection) (start : σ) (i : Nat) :
    (c.artifactFrom s start).rows[i]? =
      (s.slots c.policy)[i]?.map fun slot => ((c.row slot).run (c.stateAt s start i)).run.1 :=
  getElem?_run_mapM c.row (s.slots c.policy) start i

theorem size_artifactFrom (c : Consumer (StateM σ) α) (s : Selection) (start : σ) :
    (c.artifactFrom s start).size = s.width c.policy := by
  rw [← Selection.length_slots]
  exact length_run_mapM c.row (s.slots c.policy) start

end Consumer

namespace Selection

def entryAt? (s : Selection) (policy : SlotPolicy) (i : Nat) : Option Entry := (s.slots policy)[i]?.map Slot.entry

def mask (s : Selection) : List Bool := s.decisions.map Inclusion.isActive

theorem map_entry_slots_mask (s : Selection) :
    (s.slots .compact).map Slot.entry = ((s.registry.entries.zip s.mask).filter Prod.snd).map Prod.fst := by
  rw [map_entry_slots_compact, mask, List.zip_map_right, List.filter_map, List.map_map]
  rfl

theorem mem_slots_compact_iff {s : Selection} {k : Nat} {e : Entry} {i : Inclusion}
    (h : s.decided[k]? = some (e, i)) : e ∈ (s.slots .compact).map Slot.entry ↔ i.isActive = true := by
  rw [slots, List.map_map]
  constructor
  · intro he
    obtain ⟨a, ha, rfl⟩ := List.mem_map.mp he
    obtain ⟨n, hn⟩ := List.mem_iff_getElem?.mp ha
    obtain ⟨hdecided, hactive, -⟩ := getElem?_active hn
    -- Names are distinct, so this active entry is the one declared at `k`.
    obtain rfl : a.position = k :=
      Option.some.inj ((position?_of_decided hdecided).symm.trans (position?_of_decided h))
    have hsame := hdecided.symm.trans h
    simp only [Option.some.injEq, Prod.mk.injEq] at hsame
    exact hsame.2 ▸ hactive
  · intro hi
    exact List.mem_map.mpr ⟨_, List.mem_of_getElem? (active_of_decided h hi), rfl⟩

theorem mask_eq_iff {s t : Selection} (h : s.registry = t.registry) :
    s.mask = t.mask ↔ (s.slots .compact).map Slot.entry = (t.slots .compact).map Slot.entry := by
  constructor
  · intro hmask
    rw [map_entry_slots_mask, map_entry_slots_mask, h, hmask]
  · intro hentries
    have hdeclared : s.decided.map Prod.fst = t.decided.map Prod.fst := by
      rw [map_fst_decided, map_fst_decided, h]
    rw [mask, mask, ← map_snd_decided, ← map_snd_decided, List.map_map, List.map_map]
    apply List.ext_getElem?
    intro k
    have hk := congrArg (·[k]?) hdeclared
    simp only [List.getElem?_map] at hk ⊢
    cases hs : s.decided[k]? with
    | none =>
      rw [hs, Option.map_none, eq_comm, Option.map_eq_none_iff] at hk
      rw [hk]
    | some d =>
      rw [hs, Option.map_some, eq_comm, Option.map_eq_some_iff] at hk
      obtain ⟨d', ht, hentry⟩ := hk
      have hactive := (mem_slots_compact_iff hs).symm.trans (hentries ▸ hentry ▸ mem_slots_compact_iff ht)
      rw [ht, Option.map_some, Option.map_some]
      exact congrArg some (Bool.eq_iff_iff.mpr hactive)

theorem entryAt?_eq_iff_map {s t : Selection} {policy : SlotPolicy} :
    (∀ i, s.entryAt? policy i = t.entryAt? policy i) ↔
      (s.slots policy).map Slot.entry = (t.slots policy).map Slot.entry := by
  rw [List.ext_getElem?_iff]
  simp only [List.getElem?_map, entryAt?]

theorem entryAt?_eq_iff {s t : Selection} (h : s.registry = t.registry) (policy : SlotPolicy) :
    (∀ i, s.entryAt? policy i = t.entryAt? policy i) ↔ policy = .reserve ∨ s.mask = t.mask := by
  rw [entryAt?_eq_iff_map]
  cases policy with
  | compact => simp [mask_eq_iff h]
  | reserve => simp [map_entry_slots_reserve, h]

theorem width_eq_of_entryAt? {s t : Selection} {policy : SlotPolicy}
    (h : ∀ i, s.entryAt? policy i = t.entryAt? policy i) : s.width policy = t.width policy := by
  have hlength := congrArg List.length (entryAt?_eq_iff_map.mp h)
  rwa [List.length_map, List.length_map, length_slots, length_slots] at hlength

end Selection

theorem ensureAligned_eq (a : Artifact α) (b : Artifact β) :
    ensureAligned a b = if a.policy = b.policy ∧ a.size = b.size then .ok ()
      else .error (.misaligned a.consumer a.size b.consumer b.size) := by
  simp [ensureAligned, Artifact.isAlignedWith]

theorem ensureAligned_artifactFrom (b : Consumer (StateM σ) α) (c : Consumer (StateM τ) β) (s t : Selection) (x : σ)
    (y : τ) : ensureAligned (b.artifactFrom s x) (c.artifactFrom t y) =
      if b.policy = c.policy ∧ s.width b.policy = t.width c.policy then .ok ()
      else .error (.misaligned b.name (s.width b.policy) c.name (t.width c.policy)) := by
  rw [ensureAligned_eq, Consumer.size_artifactFrom, Consumer.size_artifactFrom]
  rfl

theorem alignment_of_shape {r : Registry} {gates others : GateSet} {fallback otherFallback : SoftFallback}
    {s t : Selection} (hs : r.select gates fallback = .ok s) (ht : r.select others otherFallback = .ok t)
    (b : Consumer (StateM σ) α) (c : Consumer (StateM τ) β) (x : σ) (y : τ) :
    (∀ i, (b.artifactFrom s x).rows[i]? =
      (s.slots b.policy)[i]?.map fun slot => ((b.row slot).run (b.stateAt s x i)).run.1) ∧
    (∀ i, (c.artifactFrom t y).rows[i]? =
      (t.slots c.policy)[i]?.map fun slot => ((c.row slot).run (c.stateAt t y i)).run.1) ∧
    (ensureAligned (b.artifactFrom s x) (c.artifactFrom t y) =
      if b.policy = c.policy ∧ s.width b.policy = t.width c.policy then .ok ()
      else .error (.misaligned b.name (s.width b.policy) c.name (t.width c.policy))) ∧
    (b.policy = c.policy → (∀ i, s.entryAt? b.policy i = t.entryAt? c.policy i) →
      ensureAligned (b.artifactFrom s x) (c.artifactFrom t y) = .ok ()) ∧
    (ensureAligned (b.artifactFrom s x) (c.artifactFrom t y) = .ok () →
      ((∀ i, s.entryAt? b.policy i = t.entryAt? c.policy i) ↔ b.policy = .reserve ∨ s.mask = t.mask)) := by
  have hregistry : s.registry = t.registry := by
    rw [(select_eq_ok_iff.mp hs).1, (select_eq_ok_iff.mp ht).1]
  have hguard := ensureAligned_artifactFrom b c s t x y
  refine ⟨b.getElem?_artifactFrom s x, c.getElem?_artifactFrom t y, hguard, ?_, ?_⟩
  · intro hpolicy hentries
    rw [← hpolicy] at hentries
    rw [hguard, ← hpolicy, if_pos ⟨rfl, Selection.width_eq_of_entryAt? hentries⟩]
  · intro haccepted
    rw [hguard] at haccepted
    split at haccepted
    · rename_i hshape
      rw [← hshape.1]
      exact Selection.entryAt?_eq_iff hregistry b.policy
    · cases haccepted

def RowConsumer.stateless (c : RowConsumer α) : Consumer (StateM Unit) α :=
  ⟨c.name, c.policy, fun slot => pure (c.row slot).run⟩

theorem artifactFrom_stateless (c : RowConsumer α) (s : Selection) :
    (RowConsumer.stateless c).artifactFrom s () = RowConsumer.artifact c s := by
  simp [RowConsumer.stateless, Consumer.artifactFrom, RowConsumer.artifact, Consumer.run]

def countingConsumer (policy : SlotPolicy) : Consumer (StateM Nat) (Nat × String) :=
  ⟨"counting", policy, fun slot count => ((count, slot.name), count + 1)⟩

def eitherRegistry : Registry :=
  ⟨[⟨⟨"Left", rfl⟩, .gated ⟨⟨"Low", rfl⟩, .hard⟩⟩, ⟨⟨"Right", rfl⟩, .gated ⟨⟨"High", rfl⟩, .hard⟩⟩], by decide⟩

def firstOnly : Selection := ⟨eitherRegistry, [.gateOn, .excluded], rfl⟩

def secondOnly : Selection := ⟨eitherRegistry, [.excluded, .gateOn], rfl⟩

theorem alignment_of_shape_reservedCounts :
    eitherRegistry.select (.ofList [("Low", true), ("High", false)]) .drop = .ok firstOnly ∧
      eitherRegistry.select (.ofList [("Low", false), ("High", true)]) .keep = .ok secondOnly ∧
      ensureAligned (firstOnly.opcodeRows .reserve) ((countingConsumer .reserve).artifactFrom secondOnly 1) = .ok () ∧
      ∀ i, firstOnly.entryAt? .reserve i = secondOnly.entryAt? .reserve i := by
  have hs : eitherRegistry.select (.ofList [("Low", true), ("High", false)]) .drop = .ok firstOnly :=
    select_eq_ok_iff.mpr ⟨rfl, rfl⟩
  have ht : eitherRegistry.select (.ofList [("Low", false), ("High", true)]) .keep = .ok secondOnly :=
    select_eq_ok_iff.mpr ⟨rfl, rfl⟩
  obtain ⟨-, -, hguard, -, hsame⟩ :=
    alignment_of_shape hs ht (RowConsumer.stateless (opcodeConsumer .reserve)) (countingConsumer .reserve) () 1
  rw [artifactFrom_stateless] at hguard hsame
  have haccepted := hguard.trans (if_pos ⟨rfl, rfl⟩)
  exact ⟨hs, ht, haccepted, (hsame haccepted).mpr (.inl rfl)⟩

theorem alignment_misses_otherGates :
    eitherRegistry.select (.ofList [("Low", true), ("High", false)]) .drop = .ok firstOnly ∧
      eitherRegistry.select (.ofList [("Low", false), ("High", true)]) .drop = .ok secondOnly ∧
      ensureAligned (firstOnly.opcodeRows .compact) (secondOnly.nameRows .compact) = .ok () ∧
      (firstOnly.opcodeRows .compact).rows = [⟨"Left", 0, false⟩] ∧
      (secondOnly.nameRows .compact).rows = [⟨"Right", false⟩] ∧
      firstOnly.entryAt? .compact 0 = eitherRegistry.entries[0]? ∧
      secondOnly.entryAt? .compact 0 = eitherRegistry.entries[1]? ∧
      eitherRegistry.entries[0]? ≠ eitherRegistry.entries[1]? := by
  have hs : eitherRegistry.select (.ofList [("Low", true), ("High", false)]) .drop = .ok firstOnly :=
    select_eq_ok_iff.mpr ⟨rfl, rfl⟩
  have ht : eitherRegistry.select (.ofList [("Low", false), ("High", true)]) .drop = .ok secondOnly :=
    select_eq_ok_iff.mpr ⟨rfl, rfl⟩
  exact ⟨hs, ht, rfl, by decide, by decide, by decide, by decide, by decide⟩

end KindTable
