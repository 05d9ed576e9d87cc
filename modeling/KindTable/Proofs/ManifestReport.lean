import KindTable.Proofs.Emission
import KindTable.Proofs.Lowering
import KindTable.Proofs.ManifestReading
import KindTable.Proofs.Numbering

namespace KindTable

namespace Declaration

def gateName? (d : Declaration) : Option String := d.mode.map (·.gate.text)

def IsSoft (d : Declaration) : Prop := ∃ clause, d.mode = some clause ∧ clause.kind = .soft

theorem Declares.gateName? {d : Declaration} {e : Entry} (h : d.Declares e) : e.gateName? = d.gateName? := by
  obtain ⟨-, hmode⟩ := h
  rw [Entry.gateName?, Entry.gate?, Declaration.gateName?]
  cases hclause : d.mode with
  | none =>
    rw [hclause] at hmode
    rw [hmode]
    rfl
  | some clause =>
    rw [hclause] at hmode
    obtain ⟨g, hgated, hname, -⟩ := hmode
    rw [hgated, Option.map_some, ← hname]
    rfl

end Declaration

namespace Manifest

def inclusionOf (m : Manifest) (d : Declaration) : String :=
  match d.mode with
  | none => "always"
  | some clause =>
    if m.gates.get? clause.gate.text = some true then "gate-on"
    else if clause.kind = .soft ∧ m.softFallback = "include" then "soft-fallback"
    else "excluded"

def keeps (m : Manifest) (d : Declaration) : Bool := m.inclusionOf d != "excluded"

def rowOf (m : Manifest) (slot : Nat) (d : Declaration) : ManifestRow :=
  ⟨slot, d.name.text, m.inclusionOf d, d.gateName?⟩

def rowsOf (m : Manifest) (declarations : List Declaration) : SlotPolicy → List ManifestRow
  | .reserve => declarations.mapIdx m.rowOf
  | .compact => (declarations.filter m.keeps).mapIdx fun i d => m.rowOf (Opcode.ofIndex i).index d

structure RowExplained (m : Manifest) (d : Declaration) (row : ManifestRow) : Prop where
  name : row.name = d.name.text
  gate : row.gate = d.gateName?
  always : row.inclusion = "always" ↔ row.gate = none
  gateOn : row.inclusion = "gate-on" ↔ ∃ g, row.gate = some g ∧ m.gates.get? g = some true
  softFallback : row.inclusion = "soft-fallback" ↔
    ∃ g, row.gate = some g ∧ m.gates.get? g = some false ∧ m.softFallback = "include" ∧ d.IsSoft
  excluded : row.inclusion = "excluded" ↔
    ∃ g, row.gate = some g ∧ m.gates.get? g = some false ∧ ¬(m.softFallback = "include" ∧ d.IsSoft)

theorem explained_rowOf {m : Manifest} {d : Declaration}
    (hlisted : ∀ g, d.gateName? = some g → ∃ value, m.gates.get? g = some value) (slot : Nat) :
    RowExplained m d (m.rowOf slot d) := by
  cases hmode : d.mode with
  | none =>
    have hgate : d.gateName? = none := congrArg (Option.map _) hmode
    constructor <;> simp [rowOf, inclusionOf, hmode, hgate]
  | some clause =>
    have hgate : d.gateName? = some clause.gate.text := congrArg (Option.map _) hmode
    have hsoft : d.IsSoft ↔ clause.kind = .soft := by simp [Declaration.IsSoft, hmode]
    obtain ⟨value, hvalue⟩ := hlisted _ hgate
    cases value with
    | true => constructor <;> simp [rowOf, inclusionOf, hmode, hgate, hvalue]
    | false =>
      by_cases hkept : m.softFallback = "include" ∧ d.IsSoft
      · have hinclusion : m.inclusionOf d = "soft-fallback" := by
          simp [inclusionOf, hmode, hvalue, hkept.1, hsoft.mp hkept.2]
        constructor <;> simp [rowOf, hinclusion, hgate, hvalue, hkept]
      · have hinclusion : m.inclusionOf d = "excluded" := by
          have hdropped : ¬(clause.kind = .soft ∧ m.softFallback = "include") := by
            rwa [and_comm, ← hsoft]
          simp [inclusionOf, hmode, hvalue, hdropped]
        constructor <;> simp [rowOf, hinclusion, hgate, hvalue, hkept]

theorem exists_declaration_of_row {m : Manifest} {declarations : List Declaration} {policy : SlotPolicy}
    {row : ManifestRow} (h : row ∈ m.rowsOf declarations policy) :
    ∃ d ∈ declarations, (∃ slot, row = m.rowOf slot d) ∧ (policy = .compact → m.keeps d = true) := by
  cases policy with
  | reserve =>
    obtain ⟨i, hi, rfl⟩ := List.mem_mapIdx.mp h
    exact ⟨_, List.getElem_mem hi, ⟨i, rfl⟩, nofun⟩
  | compact =>
    obtain ⟨i, hi, rfl⟩ := List.mem_mapIdx.mp h
    obtain ⟨hd, hkept⟩ := List.mem_filter.mp (List.getElem_mem hi)
    exact ⟨_, hd, ⟨_, rfl⟩, fun _ => hkept⟩

theorem slot_of_rowsOf_reserve {m : Manifest} {declarations : List Declaration} {i : Nat} {row : ManifestRow}
    (h : (m.rowsOf declarations .reserve)[i]? = some row) : row.slot = i := by
  rw [rowsOf, List.getElem?_mapIdx, Option.map_eq_some_iff] at h
  obtain ⟨d, -, rfl⟩ := h
  rfl

theorem slot_of_rowsOf_compact {m : Manifest} {declarations : List Declaration} {i : Nat} {row : ManifestRow}
    (h : (m.rowsOf declarations .compact)[i]? = some row) : row.slot = i % UInt32.size := by
  rw [rowsOf, List.getElem?_mapIdx, Option.map_eq_some_iff] at h
  obtain ⟨d, -, rfl⟩ := h
  exact UInt32.toNat_ofNat'

theorem countP_mapIdx {α β : Type} {p : β → Bool} {q : α → Bool} {f : Nat → α → β} (h : ∀ i a, p (f i a) = q a)
    (as : List α) : (as.mapIdx f).countP p = as.countP q := by
  induction as generalizing f with
  | nil => rfl
  | cons a rest ih => rw [List.mapIdx_cons, List.countP_cons, List.countP_cons, h, ih fun i => h (i + 1)]

theorem countP_rowsOf (m : Manifest) (declarations : List Declaration) (policy : SlotPolicy) :
    (m.rowsOf declarations policy).countP (·.inclusion != "excluded") = (declarations.filter m.keeps).length := by
  let active : ManifestRow → Bool := (·.inclusion != "excluded")
  have hactive (slot : Nat) (d : Declaration) : active (m.rowOf slot d) = m.keeps d := rfl
  rw [← List.countP_eq_length_filter]
  cases policy with
  | reserve => exact countP_mapIdx hactive declarations
  | compact =>
    refine (countP_mapIdx (fun i d => hactive (Opcode.ofIndex i).index d) (declarations.filter m.keeps)).trans ?_
    rw [List.countP_filter]
    simp only [Bool.and_self]

theorem length_rowsOf (m : Manifest) (declarations : List Declaration) (policy : SlotPolicy) :
    (m.rowsOf declarations policy).length = match policy with
      | .reserve => declarations.length
      | .compact => (declarations.filter m.keeps).length := by
  cases policy <;> exact List.length_mapIdx

end Manifest

def decidedRow (slot : Nat) (d : Entry × Inclusion) : ManifestRow := ⟨slot, d.1.name.text, d.2.text, d.1.gateName?⟩

namespace Selection

theorem rows_manifest_reserve (s : Selection) : (s.manifestRows .reserve).rows = s.decided.mapIdx decidedRow := by
  have hpolicy : (manifestConsumer .reserve).policy = .reserve := rfl
  apply List.ext_getElem?
  intro i
  rw [manifestRows, RowConsumer.getElem?_rows, hpolicy, getElem?_slots_reserve, List.getElem?_mapIdx, Option.map_map]
  congr 1
  funext d
  have hentry := Slot.entry_slotAt i (activeBefore s.decided i) d.1 d.2
  have hinclusion := Slot.inclusion_slotAt i (activeBefore s.decided i) d.1 d.2
  simp only [Function.comp_apply, manifestConsumer, Slot.name, hentry, hinclusion]
  rfl

theorem rows_manifest_compact (s : Selection) : (s.manifestRows .compact).rows =
    (s.decided.filter (·.2.isActive)).mapIdx fun i d => decidedRow (Opcode.ofIndex i).index d := by
  have hpolicy : (manifestConsumer .compact).policy = .compact := rfl
  apply List.ext_getElem?
  intro i
  rw [manifestRows, RowConsumer.getElem?_rows, hpolicy, slots, List.getElem?_map, List.getElem?_mapIdx,
    ← map_activeFrom 0 0, List.getElem?_map, Option.map_map, Option.map_map]
  change s.active[i]?.map _ = s.active[i]?.map _
  cases ha : s.active[i]? with
  | none => rfl
  | some a =>
    obtain ⟨-, -, hopcode, -⟩ := getElem?_active ha
    rw [Option.map_some, Option.map_some, ← hopcode]
    rfl

def manifest (s : Selection) (c : Config) : Manifest := .ofArtifact s c.gates c.fallback (s.manifestRows c.policy)

theorem gates_manifest {s : Selection} {c : Config} {g : String} {value : Bool} :
    (s.manifest c).gates.get? g = some value ↔
      (∃ e ∈ s.registry.entries, e.gateName? = some g) ∧ c.gates.get? g = some value := by
  rw [← Registry.mem_gates_iff]
  exact GateSet.mem_bindings_iff.symm.trans (Manifest.mem_referencedGates_iff (b := (g, value)))

end Selection

section

variable {c : Config} {declarations : List Declaration} {s : Selection}

theorem text_eq_include_iff (fallback : SoftFallback) : fallback.text = "include" ↔ fallback = .keep := by
  cases fallback <;> decide

theorem inclusionOf_manifest {d : Declaration} {e : Entry} {i : Inclusion} (hd : d.Declares e)
    (he : e ∈ s.registry.entries) (hi : e.inclusion c.gates c.fallback = .ok i) :
    (s.manifest c).inclusionOf d = i.text := by
  have hlisted (g : Gate) (value : Bool) (hmode : e.mode = .gated g) (hvalue : c.gates.get? g.name.text = some value) :
      (s.manifest c).gates.get? g.name.text = some value :=
    Selection.gates_manifest.mpr ⟨⟨e, he, by rw [Entry.gateName?, Entry.gate?, hmode]; rfl⟩, hvalue⟩
  have hfallback : (s.manifest c).softFallback = "include" ↔ c.fallback = .keep := text_eq_include_iff c.fallback
  obtain ⟨-, hmode⟩ := hd
  have hdecides := decides_of_inclusion hi
  unfold Manifest.inclusionOf
  cases hclause : d.mode with
  | none =>
    simp only [hclause] at hmode
    rw [hmode] at hdecides
    cases hdecides
    rfl
  | some clause =>
    simp only [hclause] at hmode
    obtain ⟨g, hgated, hname, hkind⟩ := hmode
    rw [hgated] at hdecides
    cases hdecides with
    | gateOn hon => simp [← hname, hlisted g true hgated hon, Inclusion.text]
    | softFallback hoff hsoft hkeep =>
      simp [← hname, hlisted g false hgated hoff, ← hkind, hsoft, hfallback, hkeep, Inclusion.text]
    | excluded hoff hdropped =>
      simp [← hname, hlisted g false hgated hoff, ← hkind, hfallback, hdropped, Inclusion.text]

theorem forall₂_decided {gates : GateSet} {fallback : SoftFallback} {entries : List Entry} {is : List Inclusion}
    (hentries : declarations.map Declaration.entry? = entries.map .ok)
    (his : inclusions gates fallback entries = .ok is) :
    List.Forall₂ (fun x d => d.Declares x.1 ∧ x.1.inclusion gates fallback = .ok x.2) (entries.zip is)
      declarations := by
  induction declarations generalizing entries is with
  | nil =>
    obtain rfl := List.map_eq_nil_iff.mp hentries.symm
    exact .nil
  | cons d rest ih =>
    obtain ⟨e, later, rfl, hd, hlater⟩ := List.map_eq_cons_iff.mp hentries.symm
    obtain ⟨i, js, hi, hjs, rfl⟩ := inclusions_cons_eq_ok_iff.mp his
    exact .cons ⟨Declaration.entry?_eq_ok_iff_declares.mp hd.symm, hi⟩ (ih hlater.symm hjs)

theorem mapIdx_eq_of_forall₂ {α β γ : Type} {R : α → β → Prop} {as : List α} {bs : List β} (h : List.Forall₂ R as bs)
    {f : Nat → α → γ} {g : Nat → β → γ} (hsame : ∀ i a b, R a b → f i a = g i b) : as.mapIdx f = bs.mapIdx g := by
  induction h generalizing f g with
  | nil => rfl
  | cons hhead _ ih =>
    rw [List.mapIdx_cons, List.mapIdx_cons, hsame 0 _ _ hhead, ih fun i => hsame (i + 1)]

structure Recounts (m : Manifest) (x : Entry × Inclusion) (d : Declaration) : Prop where
  name : x.1.name.text = d.name.text
  gate : x.1.gateName? = d.gateName?
  inclusion : x.2.text = m.inclusionOf d

theorem Recounts.row {m : Manifest} {x : Entry × Inclusion} {d : Declaration} (h : Recounts m x d) (slot : Nat) :
    decidedRow slot x = m.rowOf slot d := by
  rw [decidedRow, Manifest.rowOf, h.name, h.gate, h.inclusion]

theorem Recounts.keeps {m : Manifest} {x : Entry × Inclusion} {d : Declaration} (h : Recounts m x d) :
    m.keeps d = x.2.isActive := by
  rw [Manifest.keeps, ← h.inclusion]
  cases x.2 <;> rfl

variable (hentries : declarations.map Declaration.entry? = s.registry.entries.map .ok)
  (hdecisions : inclusions c.gates c.fallback s.registry.entries = .ok s.decisions)

include hentries hdecisions

theorem recounted : List.Forall₂ (Recounts (s.manifest c)) s.decided declarations := by
  have hmem : ∀ x ∈ s.decided, x.1 ∈ s.registry.entries := fun x hx => (List.of_mem_zip hx).1
  have hread := (List.forall₂_and_left _ _).mpr ⟨hmem, forall₂_decided hentries hdecisions⟩
  refine hread.imp ?_
  rintro ⟨e, i⟩ d ⟨he, hd, hi⟩
  exact ⟨hd.1, hd.gateName?, (inclusionOf_manifest hd he hi).symm⟩

theorem gateNames_of_recounted : s.registry.entries.map Entry.gateName? = declarations.map Declaration.gateName? := by
  rw [← Selection.map_fst_decided, List.map_map, ← List.forall₂_eq_eq_eq, List.forall₂_map_left_iff,
    List.forall₂_map_right_iff]
  exact (recounted hentries hdecisions).imp fun x d h => h.gate

theorem recounted_active : List.Forall₂ (Recounts (s.manifest c)) (s.decided.filter (·.2.isActive))
    (declarations.filter (s.manifest c).keeps) := by
  refine List.rel_filter ?_ (recounted hentries hdecisions)
  intro x d h
  simp only [h.keeps]

theorem entries_manifest : (s.manifest c).entries = (s.manifest c).rowsOf declarations c.policy := by
  change (s.manifestRows c.policy).rows = _
  cases c.policy with
  | reserve =>
    rw [Selection.rows_manifest_reserve]
    exact mapIdx_eq_of_forall₂ (recounted hentries hdecisions) fun i x d h => h.row i
  | compact =>
    rw [Selection.rows_manifest_compact]
    exact mapIdx_eq_of_forall₂ (recounted_active hentries hdecisions) fun i x d h => h.row _

theorem size_eq_kept : s.size = (declarations.filter (s.manifest c).keeps).length := by
  rw [← (recounted_active hentries hdecisions).length_eq, ← List.countP_eq_length_filter]
  exact length_activeFrom 0 0 s.decided

end

structure Explains (m : Manifest) (c : Config) (declarations : List Declaration) : Prop where
  policy : m.slotPolicy = c.policy.text
  fallback : m.softFallback = c.fallback.text
  gates : ∀ g value, m.gates.get? g = some value ↔
    (∃ d ∈ declarations, d.gateName? = some g) ∧ c.gates.get? g = some value
  complete : ∀ d ∈ declarations, ∀ g, d.gateName? = some g → ∃ value, m.gates.get? g = some value
  declared : m.declared = declarations.length
  rows : m.entries = m.rowsOf declarations c.policy
  length : m.entries.length = match c.policy with
    | .reserve => declarations.length
    | .compact => m.active
  slots : ∀ i row, m.entries[i]? = some row → c.policy = .reserve ∨ i < UInt32.size → row.slot = i
  wrapped : ∀ i row, m.entries[i]? = some row → c.policy = .compact → row.slot = i % UInt32.size
  active : m.active = m.entries.countP (·.inclusion != "excluded")
  explained : ∀ row ∈ m.entries, ∃ d ∈ declarations, m.RowExplained d row
  excluded : ∀ row ∈ m.entries, row.inclusion = "excluded" → c.policy = .reserve

theorem entries_of_load {origin source : String} {gates : GateSet} {loaded : LoadedTable}
    (h : loadTable origin source gates = .ok loaded) :
    loaded.declarations.map Declaration.entry? = loaded.registry.entries.map .ok := by
  obtain ⟨-, draft, -, -, hlower, hfreeze⟩ := loadText_eq_ok_iff.mp (loadTable_eq_ok_iff.mp h)
  rw [lower_eq_ok_iff.mp hlower, (Draft.freeze_eq_ok_iff.mp hfreeze).2]

theorem explains_of_select {c : Config} {origin source : String} {loaded : LoadedTable} {s : Selection}
    (hload : loadTable origin source c.gates = .ok loaded)
    (hselect : loaded.registry.select c.gates c.fallback = .ok s) :
    Explains (s.manifest c) c loaded.declarations := by
  obtain ⟨declarations, registry⟩ := loaded
  have hentries := entries_of_load hload
  have hresolved := exists_select_iff.mp ⟨s, hselect⟩
  obtain ⟨rfl, hdecisions⟩ := select_eq_ok_iff.mp hselect
  have hrows := entries_manifest hentries hdecisions
  have hkept := size_eq_kept hentries hdecisions
  have hgates := gateNames_of_recounted hentries hdecisions
  have hlisted : ∀ g value, (s.manifest c).gates.get? g = some value ↔
      (∃ d ∈ declarations, d.gateName? = some g) ∧ c.gates.get? g = some value := by
    intro g value
    rw [Selection.gates_manifest, ← List.mem_map, ← List.mem_map, hgates]
  have hcomplete : ∀ d ∈ declarations, ∀ g, d.gateName? = some g →
      ∃ value, (s.manifest c).gates.get? g = some value := by
    intro d hd g hg
    have hused : some g ∈ s.registry.entries.map Entry.gateName? := hgates ▸ List.mem_map.mpr ⟨d, hd, hg⟩
    obtain ⟨e, he, hgate⟩ := List.mem_map.mp hused
    obtain ⟨value, hvalue⟩ := Option.isSome_iff_exists.mp (hresolved e he g hgate)
    exact ⟨value, (hlisted g value).mpr ⟨⟨d, hd, hg⟩, hvalue⟩⟩
  constructor
  case policy => rfl
  case fallback => rfl
  case gates => exact hlisted
  case complete => exact hcomplete
  case declared =>
    have hlength := congrArg List.length hentries
    rw [List.length_map, List.length_map] at hlength
    exact hlength.symm
  case rows => exact hrows
  case length =>
    rw [hrows, Manifest.length_rowsOf, ← hkept]
    rfl
  case wrapped =>
    intro i row hrow hpolicy
    rw [hrows, hpolicy] at hrow
    exact Manifest.slot_of_rowsOf_compact hrow
  case slots =>
    intro i row hrow hi
    rw [hrows] at hrow
    cases hpolicy : c.policy with
    | reserve =>
      rw [hpolicy] at hrow
      exact Manifest.slot_of_rowsOf_reserve hrow
    | compact =>
      rw [hpolicy] at hrow hi
      rw [Manifest.slot_of_rowsOf_compact hrow, Nat.mod_eq_of_lt (hi.resolve_left nofun)]
  case active =>
    rw [hrows, Manifest.countP_rowsOf, ← hkept]
    rfl
  case explained =>
    intro row hrow
    rw [hrows] at hrow
    obtain ⟨d, hd, ⟨slot, rfl⟩, -⟩ := Manifest.exists_declaration_of_row hrow
    exact ⟨d, hd, Manifest.explained_rowOf (hcomplete d hd) slot⟩
  case excluded =>
    intro row hrow hexcluded
    rw [hrows] at hrow
    obtain ⟨d, -, ⟨slot, rfl⟩, hkeeps⟩ := Manifest.exists_declaration_of_row hrow
    cases hpolicy : c.policy with
    | reserve => rfl
    | compact =>
      have hkeep := hkeeps hpolicy
      rw [Manifest.keeps, bne_iff_ne] at hkeep
      exact absurd hexcluded hkeep

/-- Compact slots are opcodes, words of 32 bits: beyond 2 ^ 32 active entries they wrap, which is the one case that
`Explains.slots` leaves out and `Explains.wrapped` tells. -/
theorem manifest_explains_build [Toolkit] [LawfulSerializer] {c : Config} {origin source : String} {files : FileSet}
    (h : c.generate origin source = .ok files) (hwants : c.wants .manifest = true) :
    ∃ loaded s text m, loadTable origin source c.gates = .ok loaded ∧
      loaded.registry.select c.gates c.fallback = .ok s ∧
      files.get? Output.manifest.fileName = some text ∧ Manifest.read? text = some m ∧ m.active = s.size ∧
      Explains m c loaded.declarations := by
  obtain ⟨loaded, s, hload, hselect, hemit⟩ := Config.generate_eq_ok_iff.mp h
  obtain ⟨text, htext, hfile⟩ := Selection.text_of_emit hemit hwants
  rw [outputText_manifest] at htext
  exact ⟨loaded, s, text, s.manifest c, hload, hselect, hfile, Manifest.read?_text htext, rfl,
    explains_of_select hload hselect⟩

theorem manifest_explains_build_reserving : ∃ files, reservingConfig.generate "kinds" "A\nB if(X)" = .ok files ∧
    reservingConfig.wants .manifest = true ∧ ∃ text m, files.get? "manifest.json" = some text ∧
      Manifest.read? text = some m ∧ m.gates.get? "X" = some false ∧ m.declared = 2 ∧ m.active = 1 ∧
      m.entries = [⟨0, "A", "always", none⟩, ⟨1, "B", "excluded", some "X"⟩] := by
  obtain ⟨files, hfiles⟩ := generate_reserving
  have hwants : reservingConfig.wants .manifest = true := rfl
  obtain ⟨loaded, s, text, m, hload, hselect, hfile, hread, hactive, hexplains⟩ := manifest_explains_build hfiles hwants
  obtain rfl := Except.ok.inj (load_reserving.symm.trans hload)
  obtain rfl := Except.ok.inj (select_reserving.symm.trans hselect)
  have hgate : m.gates.get? "X" = some false :=
    (hexplains.gates "X" false).mpr ⟨⟨_, List.mem_cons_of_mem _ List.mem_cons_self, rfl⟩, by decide⟩
  have hrows : m.entries = [⟨0, "A", "always", none⟩, ⟨1, "B", "excluded", some "X"⟩] := by
    rw [hexplains.rows]
    simp [reservingConfig, reservingDeclarations, Manifest.rowsOf, Manifest.rowOf, Manifest.inclusionOf, hgate,
      Declaration.gateName?]
  exact ⟨files, hfiles, hwants, text, m, hfile, hread, hgate, hexplains.declared, hactive, hrows⟩

end KindTable
