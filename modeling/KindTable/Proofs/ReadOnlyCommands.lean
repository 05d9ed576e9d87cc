import KindTable.Proofs.Acceptance
import KindTable.Proofs.Regeneration

namespace KindTable

namespace Content

def toBytes : Content → ByteArray
  | bytes data => data
  | zeros count => ⟨.replicate count 0⟩

theorem toByteArray_pushn (count : Nat) : ("".pushn '\x00' count).toByteArray = ⟨.replicate count 0⟩ := by
  rw [String.pushn_eq_repeat_push]
  induction count with
  | zero => rfl
  | succ count ih =>
    have hnul : ['\x00'].utf8Encode = ⟨#[0]⟩ := by decide
    rw [Nat.repeat, String.toByteArray_push, ih, hnul]
    apply ByteArray.ext
    simp [Array.replicate_succ]

theorem text?_eq_some_iff {content : Content} {text : String} :
    content.text? = some text ↔ content.toBytes = text.toUTF8 := by
  rw [String.toUTF8_eq_toByteArray]
  cases content with
  | bytes data =>
    rw [text?, toBytes, String.fromUTF8?]
    constructor
    · intro h
      split at h
      · cases h
        rfl
      · cases h
    · rintro rfl
      rw [dif_pos text.isValidUTF8]
      rfl
  | zeros count => rw [text?, toBytes, Option.some.injEq, ← toByteArray_pushn, String.toByteArray_inj]

end Content

namespace Disk

def Holds (d : Disk) (path text : String) : Prop :=
  ∃ content, d.find path = .ok (.file content) ∧ content.toBytes = text.toUTF8

theorem holds_iff_read {d : Disk} {path text : String} : d.Holds path text ↔ d.read path = .ok text := by
  simp only [Holds, ← Content.text?_eq_some_iff, read, bind_eq_ok_iff]
  constructor
  · rintro ⟨content, hfind, htext⟩
    refine ⟨_, hfind, ?_⟩
    simp only [htext]
    rfl
  · rintro ⟨node, hfind, htext⟩
    cases node with
    | directory => cases htext
    | file content =>
      refine ⟨content, hfind, ?_⟩
      cases hread : content.text? with
      | none =>
        simp only [hread] at htext
        cases htext
      | some other =>
        simp only [hread] at htext
        cases htext
        rfl

end Disk

def Keeps {ε α : Type} (program : ExceptT ε (StateM Disk) α) : Prop := ∀ d : Disk, (d.run program).2 = d

namespace Keeps

variable {ε ε' α β : Type}

theorem result (r : Except ε α) : Keeps (ExceptT.mk (pure r)) := fun _ => rfl

theorem pure (a : α) : Keeps (Pure.pure a : ExceptT ε (StateM Disk) α) := fun _ => rfl

theorem bind {program : ExceptT ε (StateM Disk) α} {next : α → ExceptT ε (StateM Disk) β} (h : Keeps program)
    (hnext : ∀ a, Keeps (next a)) : Keeps (program >>= next) := by
  intro d
  cases hrun : d.run program with
  | mk r left =>
    obtain rfl : left = d := (congrArg Prod.snd hrun).symm.trans (h d)
    cases r with
    | error e => rw [Disk.run_bind_error hrun]
    | ok a =>
      rw [Disk.run_bind_ok hrun]
      exact hnext a left

theorem map {program : ExceptT ε (StateM Disk) α} (h : Keeps program) (f : α → β) : Keeps (f <$> program) := by
  rw [map_eq_pure_bind]
  exact .bind h fun _ => .pure _

theorem adapt {program : ExceptT ε (StateM Disk) α} (h : Keeps program) (f : ε → ε') : Keeps (program.adapt f) := by
  intro d
  rw [Disk.run_adapt]
  exact h d

theorem access {look : StateM Disk β} {next : β → StateM Disk (Except ε α)} (h : ∀ d, (look d).2 = d)
    (hnext : ∀ b, Keeps (ExceptT.mk (next b))) : Keeps (ExceptT.mk (look >>= next)) := by
  intro d
  rw [Disk.run_mk_bind, h]
  exact hnext _ d

theorem fileSize {path : String} {next : Except DiskFault Nat → StateM Disk (Except ε α)}
    (hnext : ∀ b, Keeps (ExceptT.mk (next b))) : Keeps (ExceptT.mk (KindTable.fileSize path >>= next)) :=
  access (fun _ => rfl) hnext

theorem readText {path : String} {next : Except DiskFault String → StateM Disk (Except ε α)}
    (hnext : ∀ b, Keeps (ExceptT.mk (next b))) : Keeps (ExceptT.mk (KindTable.readText path >>= next)) :=
  access (fun _ => rfl) hnext

end Keeps

theorem keeps_readTable (path : String) : Keeps (readTable path) := by
  refine Keeps.fileSize fun size => ?_
  cases size with
  | error fault => exact .result _
  | ok size =>
    dsimp only
    split
    · exact .result _
    · refine Keeps.readText fun text => ?_
      cases text <;> exact .result _

theorem keeps_loadGatesFile (path : String) : Keeps (loadGatesFile path) := by
  refine Keeps.readText fun text => ?_
  cases text <;> exact .result _

theorem keeps_resolveGates (defaults : GateSet) (file : Option String) (settings : List String) :
    Keeps (resolveGates defaults file settings) := by
  cases file with
  | none => exact .bind (.pure _) fun _ => .result _
  | some path => exact .bind (.map (keeps_loadGatesFile path) _) fun _ => .result _

theorem keeps_source (a : TableArguments) : Keeps a.source := by
  rw [TableArguments.source]
  split
  · exact keeps_readTable _
  · exact .pure _

theorem keeps_inputs (a : TableArguments) : Keeps a.inputs :=
  .bind (keeps_source a) fun _ => .bind (.adapt (keeps_resolveGates _ _ _) _) fun _ => .pure _

theorem keeps_prepare (a : TableArguments) : Keeps a.prepare := by
  rw [TableArguments.prepare_eq]
  exact .map (keeps_inputs a) _

theorem keeps_liftGeneration {α : Type} (result : Except GenerationError α) : Keeps (liftGeneration result) :=
  .result _

theorem keeps_readExisting (path : String) : Keeps (readExisting path) := by
  refine Keeps.readText fun text => ?_
  cases text with
  | ok text => exact .result _
  | error fault => cases fault <;> exact .result _

theorem keeps_driftOf (directory : String) (files : List (String × String)) :
    Keeps (FileSet.driftOf directory files) := by
  induction files with
  | nil => exact .pure _
  | cons f rest ih => exact .bind (keeps_readExisting _) fun _ => .bind ih fun _ => .pure _

theorem keeps_list (a : TableArguments) : Keeps (runList a) :=
  .bind (keeps_prepare a) fun _ => .bind (keeps_liftGeneration _) fun _ =>
    .bind (keeps_liftGeneration _) fun _ => .pure _

theorem keeps_check (a : TableArguments) : Keeps (runCheck a) :=
  .bind (keeps_prepare a) fun _ => .bind (keeps_liftGeneration _) fun _ =>
    .bind (keeps_liftGeneration _) fun _ => .bind (keeps_liftGeneration _) fun _ => .pure _

theorem keeps_generate (a : TableArguments) {options : GenerateArguments} (h : options.onlyChecks = true) :
    Keeps (runGenerate a options) := by
  refine .bind (keeps_prepare a) fun _ => .bind (keeps_liftGeneration _) fun files => ?_
  rw [if_pos h]
  exact .bind (.adapt (keeps_driftOf _ _) _) fun _ => .pure _

namespace Invocation

def isReadOnly : Invocation → Bool
  | generate _ options => options.onlyChecks
  | list _ => true
  | check _ => true

def leaves (i : Invocation) (d : Disk) : Disk := ((i.execute : StateM Disk Outcome).run d).run.2

theorem leaves_eq (i : Invocation) (d : Disk) : i.leaves d = (d.run i.run).2 := by
  rw [leaves, execute_eq]
  rfl

theorem keeps_of_isReadOnly {i : Invocation} (h : i.isReadOnly = true) : Keeps i.run := by
  cases i with
  | generate a options => exact keeps_generate a h
  | list a => exact keeps_list a
  | check a => exact keeps_check a

end Invocation

section

variable {d : Disk} {a : TableArguments} {options : GenerateArguments} {directory : String}
  {files : List (String × String)}

theorem run_of_keeps {ε α : Type} {program : ExceptT ε (StateM Disk) α} (h : Keeps program) {r : Except ε α}
    (hr : (d.run program).1 = r) : d.run program = (r, d) := Prod.ext hr (h d)

theorem readable_of_readExisting {path : String} {actual : Option String}
    (h : (d.run (readExisting path)).1 = .ok actual) : d.Readable path := by
  rw [readExisting, Disk.run_readText_bind] at h
  cases htext : d.read path with
  | ok text => exact .inr ⟨text, htext⟩
  | error fault =>
    rw [htext] at h
    cases fault with
    | missing => exact .inl htext
    | _ => cases h

theorem readable_of_driftOf {drifts : List Drift} (h : (d.run (FileSet.driftOf directory files)).1 = .ok drifts) :
    ∀ f ∈ files, d.Readable (joinPath directory f.1) := by
  induction files generalizing drifts with
  | nil => exact fun f hf => nomatch hf
  | cons f rest ih =>
    rw [FileSet.driftOf] at h
    cases hactual : (d.run (readExisting (joinPath directory f.1))).1 with
    | error e =>
      rw [Disk.run_bind_error (run_of_keeps (keeps_readExisting _) hactual)] at h
      cases h
    | ok actual =>
      rw [Disk.run_bind_ok (run_of_keeps (keeps_readExisting _) hactual)] at h
      cases hlater : (d.run (FileSet.driftOf directory rest)).1 with
      | error e =>
        rw [Disk.run_bind_error (run_of_keeps (keeps_driftOf _ _) hlater)] at h
        cases h
      | ok later => exact List.forall_mem_cons.mpr ⟨readable_of_readExisting hactual, ih hlater⟩

theorem driftOf_eq_nil_iff : (d.run (FileSet.driftOf directory files)).1 = .ok [] ↔
    ∀ f ∈ files, d.read (joinPath directory f.1) = .ok f.2 := by
  rw [← driftsIn_eq_nil_iff]
  constructor
  · intro h
    rw [run_driftOf (readable_of_driftOf h)] at h
    exact Except.ok.inj h
  · intro h
    rw [run_driftOf fun f hf => .inr ⟨_, driftsIn_eq_nil_iff.mp h f hf⟩, h]

theorem holds_iff_current {c : Config} {origin source : String} {files : FileSet}
    (h : c.generate origin source = .ok files) :
    (∀ o, c.wants o = true → ∃ text, files.get? o.fileName = some text ∧ d.Holds (joinPath directory o.fileName) text) ↔
      ∀ f ∈ files.files, d.read (joinPath directory f.1) = .ok f.2 := by
  obtain ⟨loaded, s, -, -, hemit⟩ := Config.generate_eq_ok_iff.mp h
  obtain ⟨text, -, rfl⟩ := Selection.emit_eq_ok_iff.mp hemit
  constructor
  · rintro hholds ⟨name, expected⟩ hf
    obtain ⟨f, hmade, hname⟩ := List.mem_map.mp (FileSet.name_of_mem_ofList hf)
    obtain ⟨o, ho, rfl⟩ := List.mem_map.mp hmade
    obtain rfl : o.fileName = name := hname
    obtain ⟨held, hget, hheld⟩ := hholds o (Config.mem_wanted.mp ho)
    rw [FileSet.get?_ofList_eq_some_iff.mpr hf] at hget
    cases hget
    exact Disk.holds_iff_read.mp hheld
  · intro hcurrent o ho
    have hget : (FileSet.ofList (c.wanted.map fun o => (o.fileName, text o))).get? o.fileName = some (text o) :=
      FileSet.get?_ofList_outputs (Config.mem_wanted.mpr ho)
    have hread := hcurrent (o.fileName, text o) (FileSet.get?_ofList_eq_some_iff.mp hget)
    exact ⟨text o, hget, Disk.holds_iff_read.mpr hread⟩

theorem failure_checkOutcome {files : FileSet} {drifts : List Drift} :
    (checkOutcome options files drifts).failure = none ↔ drifts = [] := by
  rw [checkOutcome]
  cases drifts <;> simp [Outcome.succeeded]

theorem run_drift (d : Disk) (files : FileSet) (directory : String) :
    d.run ((files.driftFrom directory).adapt CommandError.access) =
      ((d.run (FileSet.driftOf directory files.files)).1.mapError .access, d) := by
  rw [Disk.run_adapt, FileSet.driftFrom, run_of_keeps (keeps_driftOf _ _) rfl]

theorem failure_of_onlyChecks {t : TableSource} {gates : GateSet} {files : FileSet}
    (hinputs : d.run a.inputs = (.ok (t, gates), d)) (hchecks : options.onlyChecks = true)
    (hfiles : (options.config a gates).generate t.origin t.source = .ok files) :
    ((Invocation.generate a options).outcomeOn d).failure = none ↔
      (d.run (FileSet.driftOf options.directory files.files)).1 = .ok [] := by
  rw [Invocation.outcomeOn_eq, Invocation.run, run_generate_ok hinputs hfiles, if_pos hchecks]
  have hdrift := run_drift d files options.directory
  cases hdrifts : (d.run (FileSet.driftOf options.directory files.files)).1 with
  | error e =>
    rw [hdrifts] at hdrift
    rw [Disk.run_bind_error hdrift]
    simp [settle, Outcome.failed]
  | ok drifts =>
    rw [hdrifts] at hdrift
    rw [Disk.run_bind_ok hdrift, Except.ok.injEq]
    exact failure_checkOutcome

end

structure SafeOn (d : Disk) (a : TableArguments) (options : GenerateArguments) : Prop where
  inputs : ∀ e, (d.run a.inputs).1 = .error e →
    ((Invocation.generate a options).outcomeOn d).failure = some e ∧ (Invocation.generate a options).leaves d = d
  pipeline : ∀ t gates e, (d.run a.inputs).1 = .ok (t, gates) →
    (options.config a gates).generate t.origin t.source = .error e →
    ((Invocation.generate a options).outcomeOn d).failure = some (.generation e) ∧
      (Invocation.generate a options).leaves d = d
  early : ∀ e, ((Invocation.generate a options).outcomeOn d).failure = some e → e.isOfDirectory = false →
    (Invocation.generate a options).leaves d = d
  upToDate : options.onlyChecks = true → (((Invocation.generate a options).outcomeOn d).failure = none ↔
    ∃ t gates files, (d.run a.inputs).1 = .ok (t, gates) ∧
      (options.config a gates).generate t.origin t.source = .ok files ∧
      ∀ o, (options.config a gates).wants o = true → ∃ text, files.get? o.fileName = some text ∧
        d.Holds (joinPath options.directory o.fileName) text)

theorem safeOn (d : Disk) (a : TableArguments) (options : GenerateArguments) : SafeOn d a options := by
  have hinputsError {e : CommandError} (h : (d.run a.inputs).1 = .error e) :
      d.run (Invocation.generate a options).run = (.error e, d) := by
    have hprepare := run_prepare_error (run_of_keeps (keeps_inputs a) h)
    exact Disk.run_bind_error hprepare _
  have hgenerateError {t : TableSource} {gates : GateSet} {e : GenerationError}
      (h : (d.run a.inputs).1 = .ok (t, gates))
      (he : (options.config a gates).generate t.origin t.source = .error e) :
      d.run (Invocation.generate a options).run = (.error (.generation e), d) :=
    run_generate_error (run_of_keeps (keeps_inputs a) h) he
  constructor
  case inputs =>
    intro e h
    rw [Invocation.leaves_eq, hinputsError h]
    exact ⟨failure_of_error (hinputsError h), rfl⟩
  case pipeline =>
    intro t gates e h he
    rw [Invocation.leaves_eq, hgenerateError h he]
    exact ⟨failure_of_error (hgenerateError h he), rfl⟩
  case early =>
    intro e he hearly
    rw [Invocation.leaves_eq]
    cases hinputs : (d.run a.inputs).1 with
    | error fault => rw [hinputsError hinputs]
    | ok inputs =>
      cases hfiles : (options.config a inputs.2).generate inputs.1.origin inputs.1.source with
      | error fault => rw [hgenerateError hinputs hfiles]
      | ok files =>
        have hlate := isOfDirectory_of_generate (run_of_keeps (keeps_inputs a) hinputs) hfiles he
        rw [hearly] at hlate
        cases hlate
  case upToDate =>
    intro hchecks
    constructor
    · intro hnone
      cases hinputs : (d.run a.inputs).1 with
      | error fault =>
        rw [failure_of_error (hinputsError hinputs)] at hnone
        cases hnone
      | ok inputs =>
        cases hfiles : (options.config a inputs.2).generate inputs.1.origin inputs.1.source with
        | error fault =>
          rw [failure_of_error (hgenerateError hinputs hfiles)] at hnone
          cases hnone
        | ok files =>
          refine ⟨inputs.1, inputs.2, files, rfl, hfiles, (holds_iff_current hfiles).mpr ?_⟩
          rw [← driftOf_eq_nil_iff]
          exact (failure_of_onlyChecks (run_of_keeps (keeps_inputs a) hinputs) hchecks hfiles).mp hnone
    · rintro ⟨t, gates, files, hinputs, hfiles, hholds⟩
      rw [failure_of_onlyChecks (run_of_keeps (keeps_inputs a) hinputs) hchecks hfiles, driftOf_eq_nil_iff]
      exact (holds_iff_current hfiles).mp hholds

theorem read_only_commands_keep_disk :
    (∀ (d : Disk) i, Invocation.isReadOnly i = true → i.leaves d = d) ∧
      ∀ d a options, SafeOn d a options := by
  refine ⟨?_, safeOn⟩
  intro d i h
  rw [Invocation.leaves_eq]
  exact Invocation.keeps_of_isReadOnly h d

def currentArguments : TableArguments := ⟨some "kinds", ["X=false"], none, .keep⟩

def currentOptions : GenerateArguments := ⟨"out", true, [.names], false, true⟩

def currentDisk (text : String) : Disk :=
  ⟨[], [(["kinds"], .file (.ofText "A\nB if(X)")), (["out"], .directory), (["out", "names.rs"], .file (.ofText text))]⟩

theorem inputs_current (text : String) : ((currentDisk text).run currentArguments.inputs).1 =
    .ok (⟨"kinds", "A\nB if(X)", .empty⟩, reservingConfig.gates) := by
  have hfind : (currentDisk text).find "kinds" = .ok (.file (.ofText "A\nB if(X)")) := rfl
  have hsource : (currentDisk text).run currentArguments.source =
      (.ok ⟨"kinds", "A\nB if(X)", .empty⟩, currentDisk text) :=
    run_readTable_of_find hfind (by decide)
  have hsetting : parseSetting "X=false" = .ok ("X", false) := by decide +kernel
  have hlayers : layerGates .empty none ["X=false"] = .ok reservingConfig.gates := by
    rw [layerGates, applySettings, hsetting]
    rfl
  have hresolve : (currentDisk text).run (resolveGates .empty none ["X=false"]) =
      (layerGates .empty none ["X=false"], currentDisk text) := rfl
  have hgates : (currentDisk text).run (currentArguments.gates ⟨"kinds", "A\nB if(X)", .empty⟩) =
      (.ok reservingConfig.gates, currentDisk text) := by
    rw [TableArguments.gates, Disk.run_adapt, currentArguments, hresolve, hlayers]
    rfl
  rw [TableArguments.inputs, Disk.run_bind_ok hsource, Disk.run_bind_ok hgates]
  rfl

theorem read_only_commands_keep_disk_current :
    (Invocation.check takenArguments).isReadOnly = true ∧
      (Invocation.check takenArguments).leaves takenDisk = takenDisk ∧
      (Invocation.generate takenArguments takenOptions).leaves takenDisk = takenDisk ∧
      currentOptions.onlyChecks = true ∧
      ∃ text, ((Invocation.generate currentArguments currentOptions).outcomeOn (currentDisk text)).failure = none := by
  obtain ⟨hreads, hsafe⟩ := read_only_commands_keep_disk
  have hchecks : (Invocation.check takenArguments).isReadOnly = true := rfl
  have hdiff : currentOptions.onlyChecks = true := rfl
  have htaken : (takenOptions.config takenArguments .empty).generate "kinds" "Default" = .error takenError :=
    generate_taken rfl
  have hfails := (hsafe takenDisk takenArguments takenOptions).pipeline _ _ _ (congrArg Prod.fst inputs_taken) htaken
  obtain ⟨files, hfiles⟩ := generates_of_check check_reserving.choose_spec .reserve [.names]
  obtain ⟨loaded, s, -, -, hemit⟩ := Config.generate_eq_ok_iff.mp hfiles
  have hnames : (currentOptions.config currentArguments reservingConfig.gates).wants .names = true := rfl
  obtain ⟨text, -, hget⟩ := Selection.text_of_emit hemit hnames
  have hholds : (currentDisk text).Holds "out/names.rs" text := ⟨.ofText text, rfl, rfl⟩
  refine ⟨hchecks, hreads _ _ hchecks, hfails.2, hdiff, text, ?_⟩
  refine ((hsafe (currentDisk text) currentArguments currentOptions).upToDate hdiff).mpr ?_
  refine ⟨_, _, files, inputs_current text, hfiles, ?_⟩
  intro o ho
  obtain rfl : o = .names := by
    cases o <;> first | rfl | cases ho
  exact ⟨text, hget, hholds⟩

end KindTable
