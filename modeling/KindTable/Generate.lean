import KindTable.Code.Names
import KindTable.Code.Opcodes
import KindTable.Code.Stubs
import KindTable.Code.Visitor
import KindTable.FileSet
import KindTable.Manifest
import KindTable.Source.Table

namespace KindTable

def ensureAligned {α β : Type} (a : Artifact α) (b : Artifact β) : Except EmissionError Unit :=
  if a.isAlignedWith b then .ok () else .error (.misaligned a.consumer a.size b.consumer b.size)

theorem ensureAligned_artifact {α β : Type} {b : RowConsumer α} {c : RowConsumer β} (s : Selection)
    (h : b.policy = c.policy) : ensureAligned (RowConsumer.artifact b s) (RowConsumer.artifact c s) = .ok () := by
  have hpolicy : (RowConsumer.artifact b s).policy = (RowConsumer.artifact c s).policy := h
  have hsize : (RowConsumer.artifact b s).size = (RowConsumer.artifact c s).size := by
    rw [RowConsumer.size_artifact, RowConsumer.size_artifact, h]
  simp [ensureAligned, Artifact.isAlignedWith, hpolicy, hsize]

variable [Toolkit]

namespace Selection

def opcodeRows (s : Selection) (policy : SlotPolicy) : Artifact OpcodeRow :=
  RowConsumer.artifact (opcodeConsumer policy) s

def nameRows (s : Selection) (policy : SlotPolicy) : Artifact NameRow :=
  RowConsumer.artifact (nameConsumer policy) s

def stubRows (s : Selection) (policy : SlotPolicy) : Artifact StubRow :=
  RowConsumer.artifact (stubConsumer policy) s

def manifestRows (s : Selection) (policy : SlotPolicy) : Artifact ManifestRow :=
  RowConsumer.artifact (manifestConsumer policy) s

def outputText (s : Selection) (c : Config) : Output → Except EmissionError String
  | .opcodes => (OpcodeCode.ofRows (s.opcodeRows c.policy).rows).file.print
  | .names => do
    let rows := s.nameRows c.policy
    ensureAligned (s.opcodeRows c.policy) rows
    (NameCode.ofRows rows.rows).file.print
  | .stubs => do
    let rows := s.stubRows c.policy
    ensureAligned (s.opcodeRows c.policy) rows
    (StubCode.ofRows rows.rows).file.print
  | .visitor => do
    let table ← s.visitorTable c.policy
    ensureAligned (s.opcodeRows c.policy) table
    (VisitorCode.ofRows table.rows).file.print
  | .manifest => do
    let rows := s.manifestRows c.policy
    ensureAligned (s.opcodeRows c.policy) rows
    (Manifest.ofArtifact s c.gates c.fallback rows).text

def emit (s : Selection) (c : Config) : Except EmissionError FileSet :=
  (c.wanted.mapM fun o => (s.outputText c o).map (o.fileName, ·)).map .ofList

theorem emit_eq_ok_iff {s : Selection} {c : Config} {files : FileSet} : s.emit c = .ok files ↔
    ∃ text : Output → String, (∀ o ∈ c.wanted, s.outputText c o = .ok (text o)) ∧
      .ofList (c.wanted.map fun o => (o.fileName, text o)) = files := by
  simp only [emit, map_eq_ok_iff, mapM_eq_ok_iff]
  constructor
  · rintro ⟨_, ⟨named, hnamed, rfl⟩, rfl⟩
    have htext : ∀ o ∈ c.wanted, s.outputText c o = .ok (named o).2 ∧ (o.fileName, (named o).2) = named o := by
      intro o ho
      obtain ⟨text, hok, hname⟩ := hnamed o ho
      rw [← hname]
      exact ⟨hok, rfl⟩
    refine ⟨fun o => (named o).2, fun o ho => (htext o ho).1, ?_⟩
    congr 1
    exact List.map_congr_left fun o ho => (htext o ho).2
  · rintro ⟨text, htext, rfl⟩
    exact ⟨_, ⟨fun o => (o.fileName, text o), fun o ho => ⟨_, htext o ho, rfl⟩, rfl⟩, rfl⟩

theorem text_of_emit {s : Selection} {c : Config} {files : FileSet} (h : s.emit c = .ok files) {o : Output}
    (ho : c.wants o = true) : ∃ text, s.outputText c o = .ok text ∧ files.get? o.fileName = some text := by
  obtain ⟨text, htext, rfl⟩ := emit_eq_ok_iff.mp h
  have hwanted : o ∈ c.wanted := Config.mem_wanted.mpr ho
  exact ⟨text o, htext o hwanted, FileSet.get?_ofList_outputs hwanted⟩

end Selection

inductive GenerationError where
  | table (error : TableError)
  | registry (error : RegistryError)
  | emission (error : EmissionError)
  deriving DecidableEq, Repr

namespace Config

def load (c : Config) (origin source : String) : Except GenerationError LoadedTable :=
  (loadTable origin source c.gates).mapError .table

def select (c : Config) (r : Registry) : Except GenerationError Selection :=
  (r.select c.gates c.fallback).mapError .registry

def emit (c : Config) (s : Selection) : Except GenerationError FileSet := (s.emit c).mapError .emission

def generate (c : Config) (origin source : String) : Except GenerationError FileSet := do
  let loaded ← c.load origin source
  let selection ← c.select loaded.registry
  c.emit selection

theorem generate_eq_ok_iff {c : Config} {origin source : String} {files : FileSet} :
    c.generate origin source = .ok files ↔ ∃ loaded s, loadTable origin source c.gates = .ok loaded ∧
      loaded.registry.select c.gates c.fallback = .ok s ∧ s.emit c = .ok files := by
  simp only [generate, bind_eq_ok_iff, load, select, emit, mapError_eq_ok_iff]
  constructor
  · rintro ⟨loaded, hload, s, hselect, hemit⟩
    exact ⟨loaded, s, hload, hselect, hemit⟩
  · rintro ⟨loaded, s, hload, hselect, hemit⟩
    exact ⟨loaded, hload, s, hselect, hemit⟩

end Config

end KindTable
