import KindTable.CommandLine.Execute
import KindTable.Disk.Run
import KindTable.Proofs.Emission

namespace KindTable

theorem Config.error_of_error {c other : Config} {origin source : String} {e : GenerationError}
    (h : c.generate origin source = .error e) (hgates : c.gates = other.gates) (hfallback : c.fallback = other.fallback)
    (hvisitor : c.wants .visitor = true → other.wants .visitor = true) :
    other.generate origin source = .error e := by
  rcases c.refuses_or_selects origin source with ⟨failure, hload⟩ | ⟨loaded, s, hload, hselect⟩
  · rw [generate_of_load_error hload] at h
    rw [hgates] at hload
    rw [generate_of_load_error hload]
    exact h
  · obtain ⟨hwants, hfault⟩ := (generate_eq_error_iff_of_select hload hselect).mp h
    rw [hgates] at hload
    rw [hgates, hfallback] at hselect
    exact (generate_eq_error_iff_of_select hload hselect).mpr ⟨hvisitor hwants, hfault⟩

def checkConfig (gates : GateSet) (fallback : SoftFallback) : Config :=
  { Config.standard with gates := gates, fallback := fallback }

section

variable {gates : GateSet} {fallback : SoftFallback} {origin source : String} {policy : SlotPolicy}
  {outputs : List Output}

theorem check_error_of_generate_error {e : GenerationError}
    (h : (Config.mk gates fallback policy outputs).generate origin source = .error e) :
    (checkConfig gates fallback).generate origin source = .error e :=
  Config.error_of_error h rfl rfl fun _ => rfl

theorem generates_of_check {files : FileSet} (h : (checkConfig gates fallback).generate origin source = .ok files)
    (policy : SlotPolicy) (outputs : List Output) :
    ∃ files, (Config.mk gates fallback policy outputs).generate origin source = .ok files := by
  cases hgenerate : (Config.mk gates fallback policy outputs).generate origin source with
  | ok files => exact ⟨files, rfl⟩
  | error e =>
    rw [check_error_of_generate_error hgenerate] at h
    cases h

theorem generate_error_of_check_error {e : GenerationError} (hvisitor : .visitor ∈ outputs)
    (h : (checkConfig gates fallback).generate origin source = .error e) :
    (Config.mk gates fallback policy outputs).generate origin source = .error e := by
  have hwants : (Config.mk gates fallback policy outputs).wants .visitor = true := by
    simp [Config.wants, hvisitor]
  exact Config.error_of_error h rfl rfl fun _ => hwants

theorem check_of_generates {files : FileSet} (hvisitor : .visitor ∈ outputs)
    (h : (Config.mk gates fallback policy outputs).generate origin source = .ok files) :
    ∃ files, (checkConfig gates fallback).generate origin source = .ok files := by
  cases hcheck : (checkConfig gates fallback).generate origin source with
  | ok files => exact ⟨files, rfl⟩
  | error e =>
    rw [generate_error_of_check_error hvisitor hcheck] at h
    cases h

end

def GenerateArguments.config (options : GenerateArguments) (a : TableArguments) (gates : GateSet) : Config :=
  options.adjust (checkConfig gates a.fallback)

def TableArguments.inputs {m : Type → Type} [Monad m] [FileAccess m] (a : TableArguments) :
    ExceptT CommandError m (TableSource × GateSet) := do
  let t ← a.source
  let gates ← a.gates t
  return (t, gates)

theorem TableArguments.prepare_eq {m : Type → Type} [Monad m] [LawfulMonad m] [FileAccess m] (a : TableArguments)
    : (a.prepare : ExceptT CommandError m _) = (fun i => (i.1, checkConfig i.2 a.fallback)) <$> a.inputs := by
  simp [prepare, inputs, checkConfig]

section

variable {a : TableArguments} {d d' : Disk} {t : TableSource} {gates : GateSet}

theorem run_prepare_ok (h : d.run a.inputs = (.ok (t, gates), d')) :
    d.run a.prepare = (.ok (t, checkConfig gates a.fallback), d') := by
  rw [TableArguments.prepare_eq]
  exact Disk.run_map_ok h _

theorem run_prepare_error {e : CommandError} (h : d.run a.inputs = (.error e, d')) :
    d.run a.prepare = (.error e, d') := by
  rw [TableArguments.prepare_eq, map_eq_pure_bind]
  exact Disk.run_bind_error h _

theorem run_lift_ok {α : Type} {result : Except GenerationError α} {x : α} (h : result = .ok x) :
    d.run (liftGeneration result) = (.ok x, d) := by
  rw [h]
  rfl

theorem run_lift_error {α : Type} {result : Except GenerationError α} {e : GenerationError} (h : result = .error e) :
    d.run (liftGeneration result) = (.error (.generation e), d) := by
  rw [h]
  rfl

theorem run_check (h : d.run a.inputs = (.ok (t, gates), d')) : d.run (runCheck a) = d'.run (do
    let loaded ← liftGeneration ((checkConfig gates a.fallback).load t.origin t.source)
    let s ← liftGeneration ((checkConfig gates a.fallback).select loaded.registry)
    let _ ← liftGeneration ((checkConfig gates a.fallback).emit s)
    return .succeeded ("✓ " ++ t.origin ++ ": " ++ toString loaded.registry.size ++ " declared, " ++
      toString s.size ++ " active\n")) := by
  rw [runCheck, Disk.run_bind_ok (run_prepare_ok h)]

theorem run_check_error {e : GenerationError} (h : d.run a.inputs = (.ok (t, gates), d'))
    (he : (checkConfig gates a.fallback).generate t.origin t.source = .error e) :
    d.run (runCheck a) = (.error (.generation e), d') := by
  rw [run_check h]
  rcases bind_eq_error_iff.mp he with hload | ⟨loaded, hload, he⟩
  · exact Disk.run_bind_error (run_lift_error hload) _
  · rw [Disk.run_bind_ok (run_lift_ok hload)]
    rcases bind_eq_error_iff.mp he with hselect | ⟨s, hselect, he⟩
    · exact Disk.run_bind_error (run_lift_error hselect) _
    · rw [Disk.run_bind_ok (run_lift_ok hselect)]
      exact Disk.run_bind_error (run_lift_error he) _

theorem run_check_ok {files : FileSet} (h : d.run a.inputs = (.ok (t, gates), d'))
    (hfiles : (checkConfig gates a.fallback).generate t.origin t.source = .ok files) :
    ∃ printed, d.run (runCheck a) = (.ok (.succeeded printed), d') := by
  obtain ⟨loaded, hload, hfiles⟩ := bind_eq_ok_iff.mp hfiles
  obtain ⟨s, hselect, hemit⟩ := bind_eq_ok_iff.mp hfiles
  rw [run_check h, Disk.run_bind_ok (run_lift_ok hload), Disk.run_bind_ok (run_lift_ok hselect),
    Disk.run_bind_ok (run_lift_ok hemit)]
  exact ⟨_, rfl⟩

theorem run_generate_error {options : GenerateArguments} {e : GenerationError}
    (h : d.run a.inputs = (.ok (t, gates), d'))
    (he : (options.config a gates).generate t.origin t.source = .error e) :
    d.run (runGenerate a options) = (.error (.generation e), d') := by
  rw [runGenerate, Disk.run_bind_ok (run_prepare_ok h)]
  exact Disk.run_bind_error (run_lift_error he) _

theorem run_generate_ok {options : GenerateArguments} {files : FileSet} (h : d.run a.inputs = (.ok (t, gates), d'))
    (hfiles : (options.config a gates).generate t.origin t.source =
      .ok files) : d.run (runGenerate a options) = d'.run (do
        if options.onlyChecks then
          return checkOutcome options files (← (files.driftFrom options.directory).adapt .access)
        else
          return .succeeded (writtenText files (← (files.writeTo options.directory).adapt .access))) := by
  rw [runGenerate, Disk.run_bind_ok (run_prepare_ok h)]
  exact Disk.run_bind_ok (run_lift_ok hfiles) _

end

def CommandError.isOfDirectory : CommandError → Bool
  | access _ => true
  | outOfDate _ _ => true
  | _ => false

def Invocation.outcomeOn (i : Invocation) (d : Disk) : Outcome := ((i.execute : StateM Disk Outcome).run d).run.1

def settle : Except CommandError Outcome → Outcome
  | .ok outcome => outcome
  | .error e => .failed e

theorem Invocation.execute_eq (i : Invocation) :
    (i.execute : StateM Disk Outcome) = i.run.run >>= fun result => pure (settle result) := by
  rw [execute]
  congr 1
  funext result
  cases result <;> rfl

theorem Invocation.outcomeOn_eq (i : Invocation) (d : Disk) : i.outcomeOn d = settle (d.run i.run).1 := by
  rw [outcomeOn, execute_eq]
  rfl

section

variable {a : TableArguments} {d d' : Disk} {options : GenerateArguments}

theorem failure_of_error {i : Invocation} {e : CommandError} (h : d.run i.run = (.error e, d')) :
    (i.outcomeOn d).failure = some e := by
  rw [Invocation.outcomeOn_eq, h]
  rfl

theorem failure_of_ok {i : Invocation} {outcome : Outcome} (h : d.run i.run = (.ok outcome, d')) :
    (i.outcomeOn d).failure = outcome.failure := by
  rw [Invocation.outcomeOn_eq, h]
  rfl

theorem isOfDirectory_of_access {α : Type} {program : ExceptT AccessError (StateM Disk) α} {f : α → Outcome}
    (hf : ∀ x e, (f x).failure = some e → e.isOfDirectory = true) {e : CommandError}
    (h : (settle (d.run (do return f (← program.adapt CommandError.access))).1).failure = some e) :
    e.isOfDirectory = true := by
  cases hrun : d.run program with
  | mk result left =>
    cases result with
    | error fault =>
      have hadapt : d.run (program.adapt CommandError.access) = (.error (.access fault), left) := by
        rw [Disk.run_adapt, hrun]
        rfl
      rw [Disk.run_bind_error hadapt] at h
      cases h
      rfl
    | ok x =>
      have hadapt : d.run (program.adapt CommandError.access) = (.ok x, left) := by
        rw [Disk.run_adapt, hrun]
        rfl
      rw [Disk.run_bind_ok hadapt] at h
      exact hf x e h

theorem isOfDirectory_of_checkOutcome {files : FileSet} {drifts : List Drift} {e : CommandError}
    (h : (checkOutcome options files drifts).failure = some e) : e.isOfDirectory = true := by
  rw [checkOutcome] at h
  split at h <;> cases h
  rfl

theorem isOfDirectory_of_generate {t : TableSource} {gates : GateSet} {files : FileSet}
    (h : d.run a.inputs = (.ok (t, gates), d'))
    (hfiles : (options.config a gates).generate t.origin t.source = .ok files)
    {e : CommandError} (he : ((Invocation.generate a options).outcomeOn d).failure = some e) :
    e.isOfDirectory = true := by
  rw [Invocation.outcomeOn_eq, Invocation.run, run_generate_ok h hfiles] at he
  split at he
  · exact isOfDirectory_of_access (fun drifts e => isOfDirectory_of_checkOutcome) he
  · exact isOfDirectory_of_access (fun written e hwritten => by cases hwritten) he

theorem failures_of_inputs {e : CommandError} (h : d.run a.inputs = (.error e, d')) :
    ((Invocation.generate a options).outcomeOn d).failure = some e ∧
      ((Invocation.check a).outcomeOn d).failure = some e := by
  constructor
  · apply failure_of_error
    exact Disk.run_bind_error (run_prepare_error h) _
  · apply failure_of_error
    exact Disk.run_bind_error (run_prepare_error h) _

theorem check_failure_of_generate {e : CommandError}
    (he : ((Invocation.generate a options).outcomeOn d).failure = some e) :
    e.isOfDirectory = true ∨ ((Invocation.check a).outcomeOn d).failure = some e := by
  cases hinputs : d.run a.inputs with
  | mk result left =>
    cases result with
    | error fault =>
      right
      obtain ⟨hgenerate, hcheck⟩ := @failures_of_inputs a d left options fault hinputs
      rw [hcheck, ← he, hgenerate]
    | ok inputs =>
      cases hfiles : (options.config a inputs.2).generate inputs.1.origin
          inputs.1.source with
      | ok files => exact .inl (isOfDirectory_of_generate hinputs hfiles he)
      | error error =>
        right
        have hgenerate : d.run (Invocation.generate a options).run = (.error (.generation error), left) :=
          run_generate_error hinputs hfiles
        have hcheck : d.run (Invocation.check a).run = (.error (.generation error), left) :=
          run_check_error hinputs (check_error_of_generate_error hfiles)
        rw [failure_of_error hcheck, ← he, failure_of_error hgenerate]

theorem generate_failure_of_check (hvisitor : .visitor ∈ options.outputs) {e : CommandError}
    (he : ((Invocation.check a).outcomeOn d).failure = some e) :
    ((Invocation.generate a options).outcomeOn d).failure = some e := by
  cases hinputs : d.run a.inputs with
  | mk result left =>
    cases result with
    | error fault =>
      obtain ⟨hgenerate, hcheck⟩ := @failures_of_inputs a d left options fault hinputs
      rw [hgenerate, ← he, hcheck]
    | ok inputs =>
      have hwants : (options.config a inputs.2).wants .visitor = true :=
        Config.wants_withOutputs_iff.mpr (.inr hvisitor)
      cases hfiles : (checkConfig inputs.2 a.fallback).generate inputs.1.origin inputs.1.source with
      | ok files =>
        obtain ⟨printed, hcheck⟩ := run_check_ok hinputs hfiles
        have hcheck : d.run (Invocation.check a).run = (.ok (.succeeded printed), left) := hcheck
        rw [failure_of_ok hcheck] at he
        cases he
      | error error =>
        have hgenerate : d.run (Invocation.generate a options).run = (.error (.generation error), left) :=
          run_generate_error hinputs (Config.error_of_error hfiles rfl rfl fun _ => hwants)
        have hcheck : d.run (Invocation.check a).run = (.error (.generation error), left) :=
          run_check_error hinputs hfiles
        rw [failure_of_error hgenerate, ← he, failure_of_error hcheck]

end

theorem check_agrees_with_generate :
    (∀ gates fallback origin source, (∃ files, (checkConfig gates fallback).generate origin source = .ok files) →
      ∀ policy outputs, ∃ files, (Config.mk gates fallback policy outputs).generate origin source = .ok files) ∧
    (∀ gates fallback origin source policy outputs e,
      (Config.mk gates fallback policy outputs).generate origin source = .error e →
        (checkConfig gates fallback).generate origin source = .error e) ∧
    (∀ gates fallback origin source policy outputs, .visitor ∈ outputs →
      ((∃ files, (Config.mk gates fallback policy outputs).generate origin source = .ok files) ↔
        ∃ files, (checkConfig gates fallback).generate origin source = .ok files)) ∧
    (∀ (d : Disk) a options e, ((Invocation.generate a options).outcomeOn d).failure = some e →
      e.isOfDirectory = true ∨ ((Invocation.check a).outcomeOn d).failure = some e) ∧
    ∀ (d : Disk) a options e, .visitor ∈ options.outputs → ((Invocation.check a).outcomeOn d).failure = some e →
      ((Invocation.generate a options).outcomeOn d).failure = some e := by
  refine ⟨?_, ?_, ?_, ?_, ?_⟩
  · rintro gates fallback origin source ⟨files, hfiles⟩
    exact generates_of_check hfiles
  · exact fun gates fallback origin source policy outputs e => check_error_of_generate_error
  · intro gates fallback origin source policy outputs hvisitor
    constructor
    · rintro ⟨files, hfiles⟩
      exact check_of_generates hvisitor hfiles
    · rintro ⟨files, hfiles⟩
      exact generates_of_check hfiles policy outputs
  · exact fun d a options e => check_failure_of_generate
  · exact fun d a options e hvisitor => generate_failure_of_check hvisitor

theorem check_reserving :
    ∃ files, (checkConfig reservingConfig.gates .keep).generate "kinds" "A\nB if(X)" = .ok files := by
  obtain ⟨files, hfiles⟩ := generate_reserving
  cases hcheck : (checkConfig reservingConfig.gates .keep).generate "kinds" "A\nB if(X)" with
  | ok files => exact ⟨files, rfl⟩
  | error e =>
    have hreserving : reservingConfig.generate "kinds" "A\nB if(X)" = .error e :=
      Config.error_of_error hcheck rfl rfl fun _ => rfl
    rw [hfiles] at hreserving
    cases hreserving

def takenRegistry : Registry := ⟨[⟨⟨"Default", rfl⟩, .always⟩], by decide⟩

def takenSelection : Selection := ⟨takenRegistry, [.always], rfl⟩

def takenError : GenerationError := .emission (.methodCollision fallbackMethod fallbackOwner "Default")

def takenDeclarations : List Declaration := [⟨⟨"Default", ⟨0, 7⟩⟩, none, ⟨0, 7⟩⟩]

theorem load_taken (gates : GateSet) :
    loadTable "kinds" "Default" gates = .ok ⟨takenDeclarations, takenRegistry⟩ := by
  have hlex : lex "Default" = .ok [⟨.word "Default", ⟨0, 7⟩⟩, ⟨.newline, ⟨7, 7⟩⟩, ⟨.endOfFile, ⟨7, 7⟩⟩] := by
    decide +kernel
  have hparse : parseTable [⟨.word "Default", ⟨0, 7⟩⟩, ⟨.newline, ⟨7, 7⟩⟩, ⟨.endOfFile, ⟨7, 7⟩⟩] =
      .ok takenDeclarations := by decide +kernel
  have hlower : lower takenDeclarations = .ok ⟨takenRegistry.entries⟩ := rfl
  have hresolved : ∀ e ∈ takenRegistry.entries, unresolvedGate? gates e = none := by
    intro e he
    obtain rfl := List.mem_singleton.mp he
    rfl
  have hfreeze : (Draft.mk takenRegistry.entries).freeze gates = .ok takenRegistry :=
    Draft.freeze_eq_ok_iff.mpr ⟨firstDefect?_eq_none_iff.mpr ⟨by simp, takenRegistry.nodup, hresolved⟩, rfl⟩
  exact loadTable_of_ok (loadText_eq_ok_iff.mpr ⟨_, _, hlex, hparse, hlower, hfreeze⟩)

theorem select_taken (gates : GateSet) (fallback : SoftFallback) :
    takenRegistry.select gates fallback = .ok takenSelection := select_eq_ok_iff.mpr ⟨rfl, rfl⟩

theorem methods_taken : takenSelection.methods = .error (.methodCollision fallbackMethod fallbackOwner "Default") := by
  have hname : methodName "Default" = fallbackMethod := by decide +kernel
  change assignMethods _ ["Default"] = _
  simp [assignMethods, hname]

theorem generate_taken {c : Config} (h : c.wants .visitor = true) :
    c.generate "kinds" "Default" = .error takenError :=
  (Config.generate_eq_error_iff_of_select (load_taken c.gates) (select_taken c.gates c.fallback)).mpr
    ⟨h, _, methods_taken, rfl⟩

def takenDisk : Disk := ⟨[], [(["kinds"], .file (.ofText "Default"))]⟩

def takenArguments : TableArguments := ⟨some "kinds", [], none, .keep⟩

def takenOptions : GenerateArguments := ⟨"out", true, [.visitor], false, false⟩

theorem run_readTable_eq_ok_iff {d d' : Disk} {path : String} {t : TableSource} :
    d.run (readTable path) = (.ok t, d') ↔ (∃ size, d.size path = .ok size ∧ size ≤ largestTable) ∧
      d.read path = .ok t.source ∧ t = ⟨path, t.source, .empty⟩ ∧ d = d' := by
  have hstat : (fileSize path : StateM Disk _) d = (d.size path, d) := rfl
  rw [readTable, Disk.run_mk_bind, hstat]
  cases d.size path with
  | error fault =>
    constructor
    · intro h
      cases h
    · rintro ⟨⟨size, hsize, -⟩, -⟩
      cases hsize
  | ok size =>
    by_cases hlarge : largestTable < size
    · simp only [if_pos hlarge]
      constructor
      · intro h
        cases h
      · rintro ⟨⟨other, hsize, hsmall⟩, -⟩
        cases hsize
        exact absurd hlarge (Nat.not_lt.mpr hsmall)
    · simp only [if_neg hlarge]
      rw [Disk.run_readText_bind]
      cases d.read path with
      | error fault =>
        constructor
        · intro h
          cases h
        · rintro ⟨-, hread, -⟩
          cases hread
      | ok source =>
        constructor
        · intro h
          cases h
          exact ⟨⟨size, rfl, Nat.not_lt.mp hlarge⟩, rfl, rfl, rfl⟩
        · rintro ⟨-, hread, ht, rfl⟩
          cases hread
          rw [ht]
          rfl

theorem run_readTable_of_find {d : Disk} {path text : String} (hfind : d.find path = .ok (.file (.ofText text)))
    (hsmall : text.utf8ByteSize ≤ largestTable) : d.run (readTable path) = (.ok ⟨path, text, .empty⟩, d) :=
  run_readTable_eq_ok_iff.mpr ⟨⟨_, Disk.size_of_find hfind, hsmall⟩, Disk.read_of_find hfind, rfl, rfl⟩

theorem inputs_taken :
    takenDisk.run takenArguments.inputs = (.ok (⟨"kinds", "Default", .empty⟩, .empty), takenDisk) := by
  have hfind : takenDisk.find "kinds" = .ok (.file (.ofText "Default")) := rfl
  have hsource : takenDisk.run takenArguments.source = (.ok ⟨"kinds", "Default", .empty⟩, takenDisk) :=
    run_readTable_of_find hfind (by decide)
  rw [TableArguments.inputs, Disk.run_bind_ok hsource]
  rfl

theorem check_agrees_with_generate_taken :
    (∀ policy outputs, ∃ files,
      (Config.mk reservingConfig.gates .keep policy outputs).generate "kinds" "A\nB if(X)" = .ok files) ∧
    (checkConfig .empty .keep).generate "kinds" "Default" = .error takenError ∧
    ((∃ files, (Config.mk .empty .keep .reserve [.visitor]).generate "kinds" "Default" = .ok files) ↔
      ∃ files, (checkConfig .empty .keep).generate "kinds" "Default" = .ok files) ∧
    ((Invocation.check takenArguments).outcomeOn takenDisk).failure = some (.generation takenError) ∧
    ((Invocation.generate takenArguments takenOptions).outcomeOn takenDisk).failure =
      some (.generation takenError) := by
  obtain ⟨hall, herror, hvisitor, hcheck, hgenerate⟩ := check_agrees_with_generate
  have htaken : (Config.mk .empty .keep .reserve [.visitor]).generate "kinds" "Default" = .error takenError :=
    generate_taken rfl
  have hrun : takenDisk.run (Invocation.generate takenArguments takenOptions).run =
      (.error (.generation takenError), takenDisk) := run_generate_error inputs_taken htaken
  have hfails := (hcheck takenDisk takenArguments takenOptions _ (failure_of_error hrun)).resolve_left (by decide)
  exact ⟨hall _ _ _ _ check_reserving, herror _ _ _ _ _ _ _ htaken,
    hvisitor _ _ _ _ _ _ List.mem_cons_self, hfails, hgenerate _ _ _ _ List.mem_cons_self hfails⟩

end KindTable
