import KindTable.Guarded.Generate
import KindTable.Proofs.Emission
import KindTable.Proofs.GuardedSource

namespace KindTable

def Selection.roll (s : Selection) : Guarded.Roll := ⟨s.registry, s.decisions, s.active.map (·.position)⟩

namespace Guarded

theorem rollFrom_eq (gates : GateSet) (fallback : SoftFallback) (position opcode : Nat) (entries : List Entry) :
    rollFrom gates fallback position entries = (inclusions gates fallback entries).map fun is =>
      (is, (activeFrom position opcode (entries.zip is)).map (·.position)) := by
  induction entries generalizing position opcode with
  | nil => rfl
  | cons e rest ih =>
    rw [rollFrom, inclusions]
    cases e.inclusion gates fallback with
    | error error => rfl
    | ok i =>
      cases hi : i.isActive with
      | false =>
        rw [ih (position + 1) opcode]
        cases inclusions gates fallback rest <;> simp [Except.map, bind, Except.bind, pure, Except.pure, activeFrom, hi]
      | true =>
        rw [ih (position + 1) (opcode + 1)]
        cases inclusions gates fallback rest <;> simp [Except.map, bind, Except.bind, pure, Except.pure, activeFrom, hi]

theorem classify_eq (r : Registry) (gates : GateSet) (fallback : SoftFallback) :
    classify r gates fallback = settled ((r.select gates fallback).map Selection.roll) := by
  rw [classify, rollFrom_eq gates fallback 0 0]
  cases hselect : r.select gates fallback with
  | error error =>
    rw [inclusions_of_select_error hselect]
    rfl
  | ok s =>
    obtain ⟨rfl, hinclusions⟩ := select_eq_ok_iff.mp hselect
    have hexcluded : subtract s.registry.size
        ((activeFrom 0 0 (s.registry.entries.zip s.decisions)).map (·.position)).length =
          .ok (s.registry.size - s.size) := by
      rw [List.length_map]
      exact subtract_eq s.size_le
    simp only [hinclusions, Except.map, settled_ok_bind, hexcluded]
    rfl

namespace Roll

theorem entries_roll (s : Selection) : s.roll.entries = .ok s.active := by
  have hentry : ∀ a ∈ s.active.zipIdx, s.roll.entryAt a.2 a.1.position = .ok a.1 := by
    rintro ⟨a, k⟩ ha
    have hget : s.active[k]? = some a := List.mk_mem_zipIdx_iff_getElem?.mp ha
    obtain ⟨hdecided, -, hopcode, -⟩ := Selection.getElem?_active hget
    obtain ⟨hentry, hinclusion⟩ := Selection.getElem?_decided.mp hdecided
    have hfields : a = ⟨.ofIndex k, a.position, a.inclusion, a.entry⟩ := by rw [← hopcode]
    rw [entryAt]
    change (do
      let inclusion ← index s.decisions a.position
      let entry ← index s.registry.entries a.position
      return ⟨.ofIndex k, a.position, inclusion, entry⟩ : Guarded ActiveEntry) = _
    rw [index_eq hinclusion, index_eq hentry, hfields]
    rfl
  have hpositions : s.roll.active = s.active.map (·.position) := rfl
  rw [entries, hpositions, List.zipIdx_map, List.mapM_map]
  exact (mapM_eq_ok hentry).trans (congrArg Except.ok (List.zipIdx_map_fst 0 s.active))

theorem slots_roll (s : Selection) (policy : SlotPolicy) : s.roll.slots policy = .ok (s.slots policy) := by
  rw [slots, entries_roll]
  cases policy <;> rfl

theorem artifact_roll {α : Type} (s : Selection) (c : RowConsumer α) :
    s.roll.artifact c = .ok (RowConsumer.artifact c s) := by
  rw [artifact, slots_roll, ok_bind, ← RowConsumer.rows_artifact]
  rfl

end Roll

section

variable {α β : Type}

theorem emitted_bind (x : Except EmissionError α) (f : α → Except EmissionError β) :
    (emitted x >>= fun a => emitted (f a)) = emitted (x >>= f) := by
  cases x with
  | ok a => rfl
  | error error => cases error <;> rfl

theorem emitted_map (x : Except EmissionError α) (f : α → β) :
    (emitted x >>= fun a => liftM (.ok (f a) : Guarded β)) = emitted (x.map f) := by
  cases x with
  | ok a => rfl
  | error error => cases error <;> rfl

theorem emitted_eq {x : Except EmissionError α} (h : ∀ word, x ≠ .error (.malformedWord word)) :
    emitted x = settled x := by
  cases x with
  | ok a => rfl
  | error error =>
    cases error with
    | malformedWord word => exact absurd rfl (h word)
    | _ => rfl

theorem mapM_settled {ε : Type} {f : α → ExceptT ε Guarded β} {g : α → Except ε β} {xs : List α}
    (h : ∀ x ∈ xs, f x = settled (g x)) : xs.mapM f = settled (xs.mapM g) := by
  induction xs with
  | nil => rfl
  | cons x rest ih =>
    obtain ⟨hx, hrest⟩ := List.forall_mem_cons.mp h
    rw [List.mapM_cons, List.mapM_cons, hx, ih hrest]
    apply settled_bind
    intro b hb
    apply settled_bind
    exact fun later hlater => rfl

end

namespace Roll

variable [Toolkit]

theorem visitorTable_roll (s : Selection) (policy : SlotPolicy) :
    s.roll.visitorTable policy = emitted (s.visitorTable policy) := by
  rw [visitorTable, entries_roll, Selection.visitorTable, ← emitted_map]
  simp only [artifact_roll]
  rfl

omit [Toolkit] in
theorem manifest_roll (s : Selection) (gates : GateSet) (fallback : SoftFallback) (rows : Artifact ManifestRow) :
    s.roll.manifest gates fallback rows = Manifest.ofArtifact s gates fallback rows := by
  simp [manifest, Manifest.ofArtifact, Selection.roll, Selection.size]

theorem outputText_roll (s : Selection) (c : Config) (o : Output) :
    s.roll.outputText c (s.opcodeRows c.policy) o = emitted (s.outputText c o) := by
  cases o with
  | opcodes => rfl
  | names =>
    simp only [outputText, Selection.outputText, artifact_roll, ← emitted_bind]
    rfl
  | stubs =>
    simp only [outputText, Selection.outputText, artifact_roll, ← emitted_bind]
    rfl
  | visitor => simp only [outputText, Selection.outputText, visitorTable_roll, emitted_bind]
  | manifest =>
    simp only [outputText, Selection.outputText, artifact_roll, ← emitted_bind, lift_bind, manifest_roll]
    rfl

variable [LawfulNaming] [TotalSerializer]

theorem emit_roll (s : Selection) (c : Config) : s.roll.emit c = settled (s.emit c) := by
  have htexts : ∀ o ∈ c.wanted, ((o.fileName, ·) <$> s.roll.outputText c (s.opcodeRows c.policy) o) =
      settled ((s.outputText c o).map (o.fileName, ·)) := by
    intro o ho
    have hwords : ∀ word, s.outputText c o ≠ .error (.malformedWord word) := by
      intro word htext
      rw [Selection.outputText_eq] at htext
      split at htext
      · obtain ⟨method, first, second, -, -, hcollision⟩ := Selection.collision_of_methods (map_eq_error_iff.mp htext)
        cases hcollision
      · cases htext
    rw [outputText_roll, emitted_eq hwords, settled_map]
  rw [emit, artifact_roll, lift_bind, bind_pure_comp]
  exact (congrArg _ (mapM_settled htexts)).trans (settled_map _ _)

end Roll

theorem generate_eq [Toolkit] [LawfulNaming] [TotalSerializer] (c : Config) (origin source : String) :
    generate c origin source = settled (c.generate origin source) := by
  rw [generate, loadTable_eq, adapt_settled]
  apply settled_bind
  intro loaded hload
  rw [classify_eq, adapt_settled, Config.select]
  cases loaded.registry.select c.gates c.fallback with
  | error error => rfl
  | ok s =>
    change (s.roll.emit c).adapt GenerationError.emission = _
    rw [Roll.emit_roll, adapt_settled]
    rfl

end Guarded

theorem generate_fails_only_on_authoring [Toolkit] [LawfulNaming] [TotalSerializer] (c : Config)
    (origin source : String) : (Guarded.generate c origin source).run = .ok (c.generate origin source) ∧
      ((∃ files, c.generate origin source = .ok files) ∨
        (∃ e, c.generate origin source = .error (.table e) ∧ loadTable origin source c.gates = .error e) ∨
        ∃ loaded s method first second,
          c.generate origin source = .error (.emission (.methodCollision method first second)) ∧
          loadTable origin source c.gates = .ok loaded ∧ loaded.registry.select c.gates c.fallback = .ok s ∧
          c.wants .visitor = true ∧ s.methods = .error (.methodCollision method first second) ∧
          method = methodName second ∧ ∃ a ∈ s.active, a.name = second) := by
  refine ⟨congrArg ExceptT.run (Guarded.generate_eq c origin source), ?_⟩
  rcases c.refuses_or_selects origin source with ⟨e, hload⟩ | ⟨loaded, s, hload, hselect⟩
  · exact .inr (.inl ⟨e, Config.generate_of_load_error hload, hload⟩)
  · have hgenerate := Config.generate_of_select hload hselect
    rw [Selection.emit_eq] at hgenerate
    cases hmethods : s.methods with
    | ok methods =>
      refine .inl ⟨s.outputsOf c, ?_⟩
      rw [hgenerate, hmethods]
      split <;> rfl
    | error e =>
      rw [hmethods] at hgenerate
      split at hgenerate
      · rename_i hwants
        obtain ⟨method, first, second, hsecond, hmethod, rfl⟩ := Selection.collision_of_methods hmethods
        obtain ⟨a, ha, hname⟩ := List.mem_map.mp hsecond
        exact .inr (.inr ⟨loaded, s, method, first, second, hgenerate, hload, hselect, hwants, hmethods, hmethod, a, ha,
          hname⟩)
      · exact .inl ⟨s.outputsOf c, hgenerate⟩

theorem generate_fails_only_on_authoring_reserving :
    ∃ files, (Guarded.generate reservingConfig "kinds" "A\nB if(X)").run = .ok (.ok files) := by
  obtain ⟨hrun, -⟩ := generate_fails_only_on_authoring reservingConfig "kinds" "A\nB if(X)"
  obtain ⟨files, hfiles⟩ := generate_reserving
  exact ⟨files, hfiles ▸ hrun⟩

end KindTable
