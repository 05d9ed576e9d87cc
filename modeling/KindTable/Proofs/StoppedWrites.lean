import KindTable.Proofs.ReadOnlyCommands

namespace KindTable

namespace Disk

inductive Unreadable (d : Disk) (path : String) (place : Location) : DiskFault → Prop where
  | directory : d.node? place = some .directory → Unreadable d path place .isDirectory
  | notText {content : Content} : d.node? place = some (.file content) →
    (∀ text : String, content.toBytes ≠ text.toUTF8) → Unreadable d path place .notText
  | path {fault : DiskFault} : pathFault? path = some fault → Unreadable d path place fault

theorem unreadable_of_leads {d : Disk} {directory name : String} {place : Location}
    (hname : IsFileName name) (hleads : Leads d (d.startOf directory) (pathNames directory) place)
    (h : ¬d.Readable (joinPath directory name)) :
    ∃ fault, d.read (joinPath directory name) = .error fault ∧ fault ≠ .missing ∧
      d.Unreadable (joinPath directory name) (place ++ [name]) fault := by
  rw [Readable, not_or, not_exists] at h
  obtain ⟨hmissing, htext⟩ := h
  cases hread : d.read (joinPath directory name) with
  | ok text => exact absurd hread (htext text)
  | error fault =>
    refine ⟨fault, rfl, ?_, ?_⟩
    · rintro rfl
      exact hmissing hread
    · cases hfault : pathFault? (joinPath directory name) with
      | some other =>
        rw [read_of_fault hfault] at hread
        cases hread
        exact .path hfault
      | none =>
        rw [read_of_leads hfault hname hleads] at hread hmissing
        cases hnode : d.node? (place ++ [name]) with
        | none =>
          rw [hnode] at hmissing
          exact absurd rfl hmissing
        | some node =>
          rw [hnode] at hread
          cases node with
          | directory =>
            cases hread
            exact .directory hnode
          | file content =>
            cases hcontent : content.text? with
            | some text =>
              simp only [hcontent] at hread
              cases hread
            | none =>
              simp only [hcontent] at hread
              cases hread
              refine .notText hnode fun text hbytes => ?_
              rw [Content.text?_eq_some_iff.mpr hbytes] at hcontent
              cases hcontent

end Disk

section

variable {d left last : Disk} {directory path : String} {place : Location} {before later : List (String × String)}

theorem run_readExisting_error {fault : DiskFault} (h : d.read path = .error fault) (hne : fault ≠ .missing) :
    d.run (readExisting path) = (.error ⟨path, fault⟩, d) := by
  rw [readExisting, Disk.run_readText_bind, h]
  cases fault with
  | missing => exact absurd rfl hne
  | _ => rfl

theorem writeFiles_append {m : Type → Type} [Monad m] [LawfulMonad m] [FileAccess m] (directory : String)
    (before later : List (String × String)) :
    (FileSet.writeFiles directory (before ++ later) : ExceptT AccessError m (List String)) = do
      let written ← FileSet.writeFiles directory before
      let more ← FileSet.writeFiles directory later
      return written ++ more := by
  induction before with
  | nil => simp [FileSet.writeFiles]
  | cons f rest ih =>
    simp only [List.cons_append, FileSet.writeFiles, ih, bind_assoc]
    congr 1
    funext actual
    split <;> simp

theorem run_writeFiles_stopped {written : List String} {e : AccessError}
    (h : d.run (FileSet.writeFiles directory before) = (.ok written, left))
    (hlater : left.run (FileSet.writeFiles directory later) = (.error e, last)) :
    d.run (FileSet.writeFiles directory (before ++ later)) = (.error e, last) := by
  rw [writeFiles_append, Disk.run_bind_ok h, Disk.run_bind_error hlater]

end

def changedFiles (d : Disk) (directory : String) (files : List (String × String)) : List (String × String) :=
  files.filter fun f => d.text? (joinPath directory f.1) ≠ some f.2

def putFile (place : Location) (d : Disk) (f : String × String) : Disk := d.put (place ++ [f.1]) (.file (.ofText f.2))

section

variable {d left : Disk} {directory : String} {place : Location} {files : List (String × String)} {f : String × String}

theorem mem_changedFiles_iff :
    f ∈ changedFiles d directory files ↔ f ∈ files ∧ ¬d.Holds (joinPath directory f.1) f.2 := by
  rw [changedFiles, List.mem_filter, decide_eq_true_eq, Disk.holds_iff_read, ne_eq, Disk.text?_eq_some_iff]

theorem map_driftsIn (d : Disk) (directory : String) (files : List (String × String)) :
    (driftsIn d directory files).map (fun x => (x.file, x.expected)) = changedFiles d directory files := by
  induction files with
  | nil => rfl
  | cons f rest ih =>
    by_cases hcurrent : d.text? (joinPath directory f.1) = some f.2
    · rw [driftsIn_cons_current hcurrent, ih, changedFiles, changedFiles,
        List.filter_cons_of_neg (by simpa using hcurrent)]
    · rw [driftsIn_cons_drifted hcurrent, List.map_cons, ih, changedFiles, changedFiles,
        List.filter_cons_of_pos (by simpa using hcurrent)]

structure Updated (left d : Disk) (directory : String) (place : Location) (files changed : List (String × String)) :
    Prop where
  order : changed.Sublist files
  stale : ∀ f ∈ files, f ∈ changed ↔ ¬d.Holds (joinPath directory f.1) f.2
  holds : ∀ f ∈ files, left.Holds (joinPath directory f.1) f.2
  writes : left = changed.foldl (putFile place) d
  kept : ∀ p, (∀ f ∈ changed, p ≠ place ++ [f.1]) → left.node? p = d.node? p

theorem WrittenFrom.updated (h : WrittenFrom left d directory place files) :
    Updated left d directory place files (changedFiles d directory files) := by
  constructor
  case order => exact List.filter_sublist
  case stale =>
    intro f hf
    rw [mem_changedFiles_iff]
    exact and_iff_right hf
  case holds => exact fun f hf => Disk.holds_iff_read.mpr (h.written f hf)
  case writes =>
    rw [← map_driftsIn, List.foldl_map]
    exact h.writes
  case kept =>
    intro p hp
    apply h.kept
    intro x hx
    exact hp (x.file, x.expected) (map_driftsIn d directory files ▸ List.mem_map_of_mem hx)

theorem Updated.kept_of_later {before later changed : List (String × String)}
    (h : Updated left d directory place before changed) (hnodup : ((before ++ later).map (·.1)).Nodup) :
    ∀ f ∈ later, left.node? (place ++ [f.1]) = d.node? (place ++ [f.1]) := by
  intro f hf
  apply h.kept
  intro g hg hsame
  obtain ⟨hname, -⟩ := List.cons.inj (List.append_cancel_left hsame)
  rw [List.map_append, List.nodup_append] at hnodup
  exact hnodup.2.2 g.1 (List.mem_map_of_mem (h.order.subset hg)) f.1 (List.mem_map_of_mem hf) hname.symm

end

inductive WriteOutcome (left d : Disk) (directory : String) (place : Location) :
    List (String × String) → Except AccessError (List String) → Prop where
  | all {files changed : List (String × String)} : (∀ f ∈ files, d.Readable (joinPath directory f.1)) →
    Updated left d directory place files changed → changed.length ≤ files.length →
    WriteOutcome left d directory place files (.ok (changed.map fun f => joinPath directory f.1))
  | stopped {before later changed : List (String × String)} {name text : String} {fault : DiskFault} :
    (∀ f ∈ before, d.Readable (joinPath directory f.1)) →
    d.Unreadable (joinPath directory name) (place ++ [name]) fault →
    Updated left d directory place before changed →
    (∀ f ∈ (name, text) :: later, left.node? (place ++ [f.1]) = d.node? (place ++ [f.1])) →
    WriteOutcome left d directory place (before ++ (name, text) :: later) (.error ⟨joinPath directory name, fault⟩)

theorem exists_first_unreadable (d : Disk) (directory : String) (files : List (String × String)) :
    (∀ f ∈ files, d.Readable (joinPath directory f.1)) ∨
      ∃ before f later, files = before ++ f :: later ∧ (∀ g ∈ before, d.Readable (joinPath directory g.1)) ∧
        ¬d.Readable (joinPath directory f.1) := by
  induction files with
  | nil => exact .inl fun f hf => nomatch hf
  | cons f rest ih =>
    by_cases hf : d.Readable (joinPath directory f.1)
    · rcases ih with hrest | ⟨before, g, later, rfl, hbefore, hg⟩
      · exact .inl (List.forall_mem_cons.mpr ⟨hf, hrest⟩)
      · exact .inr ⟨f :: before, g, later, rfl, List.forall_mem_cons.mpr ⟨hf, hbefore⟩, hg⟩
    · exact .inr ⟨[], f, rest, rfl, fun g hg => (nomatch hg), hf⟩

theorem writeFiles_outcome {d : Disk} {directory : String} {place : Location} {files : List (String × String)}
    (hleads : d.Leads (d.startOf directory) (Disk.pathNames directory) place)
    (hnames : ∀ f ∈ files, Disk.IsFileName f.1) (hnodup : (files.map (·.1)).Nodup) :
    ∃ outcome left, d.run (FileSet.writeFiles directory files) = (outcome, left) ∧
      left.Leads (left.startOf directory) (Disk.pathNames directory) place ∧
      WriteOutcome left d directory place files outcome := by
  rcases exists_first_unreadable d directory files with
    hreadable | ⟨before, ⟨name, text⟩, later, rfl, hreadable, hfails⟩
  · obtain ⟨left, hrun, hwritten⟩ := run_writeFiles hleads hnames hnodup hreadable
    have hupdated := hwritten.updated
    have hpaths : (driftsIn d directory files).map (fun x => joinPath directory x.file) =
        (changedFiles d directory files).map fun f => joinPath directory f.1 := by
      rw [← map_driftsIn, List.map_map]
      rfl
    rw [hpaths] at hrun
    exact ⟨_, left, hrun, hwritten.leads, .all hreadable hupdated hupdated.order.length_le⟩
  · have hname : Disk.IsFileName name := hnames (name, text) (by simp)
    have hnodupBefore : (before.map (·.1)).Nodup := hnodup.sublist ((List.sublist_append_left before _).map _)
    obtain ⟨left, hrun, hwritten⟩ :=
      run_writeFiles hleads (fun f hf => hnames f (List.mem_append_left _ hf)) hnodupBefore hreadable
    have hupdated := hwritten.updated
    have hlater := hupdated.kept_of_later hnodup
    obtain ⟨fault, hread, hne, hunreadable⟩ := Disk.unreadable_of_leads hname hleads hfails
    have hleft : left.read (joinPath directory name) = .error fault := by
      rw [Disk.read_congr hname hleads hwritten.leads (hlater (name, text) List.mem_cons_self), hread]
    have hstops : left.run (FileSet.writeFiles directory ((name, text) :: later)) =
        (.error ⟨joinPath directory name, fault⟩, left) := by
      rw [FileSet.writeFiles, Disk.run_bind_error (run_readExisting_error hleft hne)]
    exact ⟨_, left, run_writeFiles_stopped hrun hstops, hwritten.leads,
      .stopped hreadable hunreadable hupdated hlater⟩

theorem writeTo_outcome (texts : List (Output × String)) {d : Disk} {directory : String} (hnested : d.Nested)
    (hopens : d.Opens directory) :
    ∃ made place outcome left,
      d.makeDirectories directory = (.ok (), made) ∧ (d.isDirectory directory = true → made = d) ∧
      (∀ p n, d.node? p = some n → made.node? p = some n) ∧
      (∀ name, Disk.IsFileName name → made.read (joinPath directory name) = d.read (joinPath directory name)) ∧
      made.Leads (made.startOf directory) (Disk.pathNames directory) place ∧
      left.Leads (left.startOf directory) (Disk.pathNames directory) place ∧
      ((FileSet.ofOutputs texts).files.map (·.1)).Pairwise (· < ·) ∧
      d.run ((FileSet.ofOutputs texts).writeTo directory) = (outcome, left) ∧
      WriteOutcome left made directory place (FileSet.ofOutputs texts).files outcome := by
  obtain ⟨made, place, hmade, hleads, hkeeps, hreads⟩ := Disk.makeDirectories_of_opens hnested hopens
  have hnames : ∀ f ∈ (FileSet.ofOutputs texts).files, Disk.IsFileName f.1 := by
    intro f hf
    obtain ⟨o, ho⟩ := FileSet.output_of_mem_ofOutputs hf
    rw [ho]
    exact isFileName_output o
  have hthere : d.isDirectory directory = true → made = d := by
    intro h
    obtain ⟨hfault, there, hthere⟩ := Disk.leads_of_isDirectory h
    rw [Disk.makeDirectories_there hfault hthere] at hmade
    exact (congrArg Prod.snd hmade).symm
  obtain ⟨outcome, left, hrun, hleft, houtcome⟩ :=
    writeFiles_outcome hleads hnames (FileSet.nodup_ofList _)
  refine ⟨made, place, outcome, left, hmade, hthere, hkeeps, hreads, hleads, hleft,
    List.pairwise_map.mpr (FileSet.sorted_ofList _), ?_, houtcome⟩
  rw [FileSet.writeTo, Disk.run_bind_ok (run_guardDirectories hmade), hrun]

def blockedDisk : Disk :=
  ⟨[], [(["out"], .directory), (["out", "manifest.json"], .file (.ofText "old")),
    (["out", "names.rs"], .file (.ofText "names")), (["out", "opcodes.rs"], .directory),
    (["out", "stubs.rs"], .file (.bytes ⟨#[0xff]⟩))]⟩

def blockedTexts : List (Output × String) :=
  [(.opcodes, "opcodes"), (.names, "names"), (.stubs, "stubs"), (.manifest, "manifest")]

def blockedLeft : Disk :=
  ⟨[], [(["out", "manifest.json"], .file (.ofText "manifest")), (["out"], .directory),
    (["out", "names.rs"], .file (.ofText "names")), (["out", "opcodes.rs"], .directory),
    (["out", "stubs.rs"], .file (.bytes ⟨#[0xff]⟩))]⟩

theorem nested_blocked : blockedDisk.Nested := by
  apply Disk.nested_of_nodes
  simp only [blockedDisk, List.forall_mem_cons]
  exact ⟨rfl, rfl, rfl, rfl, rfl, fun n hn => nomatch hn⟩

theorem files_blocked : (FileSet.ofOutputs blockedTexts).files =
    [("manifest.json", "manifest"), ("names.rs", "names"), ("opcodes.rs", "opcodes"), ("stubs.rs", "stubs")] := by
  decide +kernel

theorem run_blocked : blockedDisk.run ((FileSet.ofOutputs blockedTexts).writeTo "out") =
    (.error ⟨"out/opcodes.rs", .isDirectory⟩, blockedLeft) := by
  rfl

theorem writeTo_outcome_blocked :
    blockedDisk.Nested ∧ blockedDisk.Opens "out" ∧
      blockedDisk.run ((FileSet.ofOutputs blockedTexts).writeTo "out") =
        (.error ⟨"out/opcodes.rs", .isDirectory⟩, blockedLeft) ∧
      ∃ place, WriteOutcome blockedLeft blockedDisk "out" place
        [("manifest.json", "manifest"), ("names.rs", "names"), ("opcodes.rs", "opcodes"), ("stubs.rs", "stubs")]
        (.error ⟨"out/opcodes.rs", .isDirectory⟩) := by
  have hopens : blockedDisk.Opens "out" := Disk.opens_of_isDirectory (by rfl)
  refine ⟨nested_blocked, hopens, run_blocked, ?_⟩
  obtain ⟨made, place, outcome, left, -, hthere, -, -, -, -, -, hrun, houtcome⟩ :=
    writeTo_outcome blockedTexts nested_blocked hopens
  rw [run_blocked] at hrun
  cases hrun
  rw [hthere (by rfl), files_blocked] at houtcome
  exact ⟨place, houtcome⟩

end KindTable
