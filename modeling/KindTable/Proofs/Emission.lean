import KindTable.Proofs.JsonReading
import KindTable.Proofs.Language
import KindTable.Proofs.LegalNames
import KindTable.Proofs.MethodCollisions

namespace KindTable

section

variable [Toolkit]

def Manifest.written (m : Manifest) : String := m.text.toOption.getD ""

theorem Manifest.text_eq_written [TotalSerializer] (m : Manifest) : m.text = .ok m.written := by
  obtain ⟨text, htext⟩ := TotalSerializer.exists_serialized m.value
  rw [Manifest.written, Manifest.text, htext]
  rfl

namespace Selection

def outputOf (s : Selection) (c : Config) : Output → String
  | .opcodes => (CodeSet.ofSlots (s.slots c.policy)).opcodes.file.text
  | .names => (CodeSet.ofSlots (s.slots c.policy)).names.file.text
  | .stubs => (CodeSet.ofSlots (s.slots c.policy)).stubs.file.text
  | .visitor => (CodeSet.ofSlots (s.slots c.policy)).visitor.file.text
  | .manifest => (Manifest.ofArtifact s c.gates c.fallback (s.manifestRows c.policy)).written

def outputsOf (s : Selection) (c : Config) : FileSet := .ofList (c.wanted.map fun o => (o.fileName, s.outputOf c o))

theorem get?_outputsOf (s : Selection) (c : Config) (o : Output) :
    (s.outputsOf c).get? o.fileName = if c.wants o then some (s.outputOf c o) else none := by
  split
  · rename_i hwants
    exact FileSet.get?_ofList_outputs (Config.mem_wanted.mpr hwants)
  · rename_i hwants
    rw [outputsOf, FileSet.get?_ofList, List.lookup_eq_none_iff]
    intro f hf
    obtain ⟨other, hother, rfl⟩ := List.mem_map.mp (List.mem_reverse.mp hf)
    rw [bne_iff_ne]
    intro hsame
    obtain rfl := Output.fileName_inj hsame
    exact hwants (Config.mem_wanted.mp hother)

variable [LawfulNaming]

theorem print_ofSlots (slots : List Slot) : ∀ f ∈ (CodeSet.ofSlots slots).files, f.print = .ok f.text := by
  intro f hf
  rw [CodeFile.print, check_ofSlots slots f hf]
  rfl

variable [TotalSerializer]

theorem outputText_eq (s : Selection) (c : Config) (o : Output) : s.outputText c o =
    if o = .visitor then s.methods.map fun _ => s.outputOf c o else .ok (s.outputOf c o) := by
  have hprint := print_ofSlots (s.slots c.policy)
  simp only [CodeSet.files, List.forall_mem_cons] at hprint
  obtain ⟨hopcodes, hnames, hstubs, hvisitor, -⟩ := hprint
  cases o with
  | opcodes => rw [outputText_opcodes, hopcodes]; rfl
  | names => rw [outputText_names, hnames]; rfl
  | stubs => rw [outputText_stubs, hstubs]; rfl
  | manifest => rw [outputText_manifest, Manifest.text_eq_written]; rfl
  | visitor =>
    cases hmethods : s.methods with
    | ok methods =>
      have htable : s.visitorTable c.policy =
          .ok (RowConsumer.artifact (dispatchConsumer (.ofList methods none) c.policy) s) := by
        rw [visitorTable, hmethods]
        rfl
      rw [outputText_visitor s c htable, hvisitor]
      rfl
    | error e =>
      rw [outputText, visitorTable, hmethods]
      rfl

theorem emit_eq (s : Selection) (c : Config) : s.emit c =
    if c.wants .visitor then s.methods.map fun _ => s.outputsOf c else .ok (s.outputsOf c) := by
  have hfine : (∀ o ∈ c.wanted, s.outputText c o = .ok (s.outputOf c o)) → s.emit c = .ok (s.outputsOf c) :=
    fun h => emit_eq_ok_iff.mpr ⟨s.outputOf c, h, rfl⟩
  cases hwants : c.wants .visitor with
  | false =>
    apply hfine
    intro o ho
    have hother : o ≠ .visitor := by
      rintro rfl
      rw [Config.mem_wanted, hwants] at ho
      cases ho
    rw [outputText_eq, if_neg hother]
  | true =>
    cases hmethods : s.methods with
    | ok methods =>
      apply hfine
      intro o ho
      rw [outputText_eq, hmethods]
      split <;> rfl
    | error e =>
      have hfails : (c.wanted.mapM fun o => (s.outputText c o).map (o.fileName, ·)) = .error e := by
        apply mapM_eq_error
        · intro o ho other hother
          rw [map_eq_error_iff, outputText_eq, hmethods] at hother
          split at hother
          · exact (Except.error.inj hother).symm
          · cases hother
        · refine ⟨.visitor, Config.mem_wanted.mpr hwants, ?_⟩
          rw [outputText_eq, hmethods]
          rfl
      rw [emit, hfails]
      rfl

end Selection

end

theorem exists_select_of_load {origin source : String} {gates : GateSet} {loaded : LoadedTable}
    (h : loadTable origin source gates = .ok loaded) (fallback : SoftFallback) :
    ∃ s, loaded.registry.select gates fallback = .ok s :=
  exists_select_iff.mpr (loaded_entries_iff.mp ⟨loaded, h, rfl⟩).2.2

namespace Config

section

variable [Toolkit]

theorem generate_of_load_error {c : Config} {origin source : String} {e : TableError}
    (h : loadTable origin source c.gates = .error e) : c.generate origin source = .error (.table e) := by
  rw [generate, load, h]
  rfl

theorem generate_of_select {c : Config} {origin source : String} {loaded : LoadedTable} {s : Selection}
    (hload : loadTable origin source c.gates = .ok loaded)
    (hselect : loaded.registry.select c.gates c.fallback = .ok s) :
    c.generate origin source = (s.emit c).mapError .emission := by
  rw [generate, load, hload]
  change (c.select loaded.registry >>= c.emit) = _
  rw [select, hselect]
  rfl

variable [LawfulNaming] [TotalSerializer] {c : Config} {origin source : String} {loaded : LoadedTable}
  {s : Selection}

theorem generate_eq_ok_iff_of_select (hload : loadTable origin source c.gates = .ok loaded)
    (hselect : loaded.registry.select c.gates c.fallback = .ok s) {files : FileSet} :
    c.generate origin source = .ok files ↔
      (c.wants .visitor = true → ∃ methods, s.methods = .ok methods) ∧ s.outputsOf c = files := by
  rw [generate_of_select hload hselect, Selection.emit_eq, mapError_eq_ok_iff]
  cases c.wants .visitor with
  | false => simp
  | true => simp [map_eq_ok_iff]

theorem generate_eq_error_iff_of_select (hload : loadTable origin source c.gates = .ok loaded)
    (hselect : loaded.registry.select c.gates c.fallback = .ok s) {e : GenerationError} :
    c.generate origin source = .error e ↔
      c.wants .visitor = true ∧ ∃ fault, s.methods = .error fault ∧ .emission fault = e := by
  rw [generate_of_select hload hselect, Selection.emit_eq, mapError_eq_error_iff]
  cases c.wants .visitor with
  | false => simp
  | true => simp [map_eq_error_iff]

end

theorem refuses_or_selects (c : Config) (origin source : String) :
    (∃ e, loadTable origin source c.gates = .error e) ∨
      ∃ loaded s, loadTable origin source c.gates = .ok loaded ∧
        loaded.registry.select c.gates c.fallback = .ok s := by
  cases hload : loadTable origin source c.gates with
  | error e => exact .inl ⟨e, rfl⟩
  | ok loaded =>
    obtain ⟨s, hselect⟩ := exists_select_of_load hload c.fallback
    exact .inr ⟨loaded, s, rfl, hselect⟩

end Config

def reservingConfig : Config := ⟨.ofList [("X", false)], .keep, .reserve, Output.all⟩

def reservingRegistry : Registry :=
  ⟨[⟨⟨"A", rfl⟩, .always⟩, ⟨⟨"B", rfl⟩, .gated ⟨⟨"X", rfl⟩, .hard⟩⟩], by decide⟩

def reservingSelection : Selection := ⟨reservingRegistry, [.always, .excluded], rfl⟩

def reservingDeclarations : List Declaration :=
  [⟨⟨"A", ⟨0, 1⟩⟩, none, ⟨0, 1⟩⟩, ⟨⟨"B", ⟨2, 3⟩⟩, some ⟨.hard, ⟨"X", ⟨7, 8⟩⟩, ⟨4, 9⟩⟩, ⟨2, 9⟩⟩]

theorem load_reserving :
    loadTable "kinds" "A\nB if(X)" reservingConfig.gates = .ok ⟨reservingDeclarations, reservingRegistry⟩ := by
  have hlex : lex "A\nB if(X)" = .ok [⟨.word "A", ⟨0, 1⟩⟩, ⟨.newline, ⟨1, 2⟩⟩, ⟨.word "B", ⟨2, 3⟩⟩,
      ⟨.word "if", ⟨4, 6⟩⟩, ⟨.openParen, ⟨6, 7⟩⟩, ⟨.word "X", ⟨7, 8⟩⟩, ⟨.closeParen, ⟨8, 9⟩⟩,
      ⟨.newline, ⟨9, 9⟩⟩, ⟨.endOfFile, ⟨9, 9⟩⟩] := by
    decide +kernel
  have hparse : parseTable [⟨.word "A", ⟨0, 1⟩⟩, ⟨.newline, ⟨1, 2⟩⟩, ⟨.word "B", ⟨2, 3⟩⟩, ⟨.word "if", ⟨4, 6⟩⟩,
      ⟨.openParen, ⟨6, 7⟩⟩, ⟨.word "X", ⟨7, 8⟩⟩, ⟨.closeParen, ⟨8, 9⟩⟩, ⟨.newline, ⟨9, 9⟩⟩, ⟨.endOfFile, ⟨9, 9⟩⟩] =
      .ok reservingDeclarations := by decide +kernel
  have hlower : lower reservingDeclarations = .ok ⟨reservingRegistry.entries⟩ := rfl
  have hfreeze : (Draft.mk reservingRegistry.entries).freeze reservingConfig.gates = .ok reservingRegistry :=
    Draft.freeze_eq_ok_iff.mpr ⟨firstDefect?_eq_none_iff.mpr ⟨by simp, reservingRegistry.nodup, by decide⟩, rfl⟩
  exact loadTable_of_ok (loadText_eq_ok_iff.mpr ⟨_, _, hlex, hparse, hlower, hfreeze⟩)

theorem select_reserving :
    reservingRegistry.select reservingConfig.gates reservingConfig.fallback = .ok reservingSelection :=
  select_eq_ok_iff.mpr ⟨rfl, rfl⟩

theorem generate_reserving : ∃ files, reservingConfig.generate "kinds" "A\nB if(X)" = .ok files := by
  have htable : ∃ table, reservingSelection.visitorTable reservingConfig.policy = .ok table :=
    ⟨_, Selection.visitorTable_eq_ok_iff.mpr
      ⟨by decide +kernel, by decide +kernel, reservingSelection.isWord_method_of_active, rfl⟩⟩
  obtain ⟨table, htable⟩ := htable
  obtain ⟨methods, hmethods, -⟩ := map_eq_ok_iff.mp htable
  exact ⟨_, (Config.generate_eq_ok_iff_of_select load_reserving select_reserving).mpr
    ⟨fun _ => ⟨methods, hmethods⟩, rfl⟩⟩

end KindTable
