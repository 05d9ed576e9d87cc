import KindTable.Disk.Made
import KindTable.Disk.Run
import KindTable.Drift

namespace KindTable

namespace Disk

variable {d left : Disk} {path directory name text : String} {place : Location}

def Readable (d : Disk) (path : String) : Prop := d.read path = .error .missing ∨ ∃ text, d.read path = .ok text

def text? (d : Disk) (path : String) : Option String := (d.read path).toOption

theorem text?_eq_some_iff : d.text? path = some text ↔ d.read path = .ok text := by
  rw [text?]
  cases d.read path <;> simp [Except.toOption]

theorem text?_eq_none_iff (h : d.Readable path) : d.text? path = none ↔ d.read path = .error .missing := by
  rw [text?]
  rcases h with h | ⟨text, h⟩ <;> simp [h, Except.toOption]

theorem pathFault?_of_readable (h : d.Readable path) : pathFault? path = none := by
  cases hfault : pathFault? path with
  | none => rfl
  | some fault =>
    rw [Readable, read_of_fault hfault] at h
    rcases h with h | ⟨text, h⟩
    · rw [pathFault?] at hfault
      split at hfault
      · cases hfault
        cases h
      · split at hfault <;> cases hfault
        cases h
    · cases h

theorem read_congr (hname : IsFileName name) (hd : Leads d (d.startOf directory) (pathNames directory) place)
    (hleft : Leads left (left.startOf directory) (pathNames directory) place)
    (h : left.node? (place ++ [name]) = d.node? (place ++ [name])) :
    left.read (joinPath directory name) = d.read (joinPath directory name) := by
  cases hfault : pathFault? (joinPath directory name) with
  | some fault => rw [read_of_fault hfault, read_of_fault hfault]
  | none => rw [read_of_leads hfault hname hleft, read_of_leads hfault hname hd, h]

theorem node?_ne_directory (hname : IsFileName name)
    (hleads : Leads d (d.startOf directory) (pathNames directory) place) (h : d.Readable (joinPath directory name)) :
    d.node? (place ++ [name]) ≠ some .directory := by
  intro hnode
  rw [Readable, read_of_leads (pathFault?_of_readable h) hname hleads, hnode] at h
  rcases h with h | ⟨text, h⟩ <;> cases h

theorem write_of_leads (hname : IsFileName name)
    (hleads : Leads d (d.startOf directory) (pathNames directory) place) (h : d.Readable (joinPath directory name))
    (content : Content) :
    d.write (joinPath directory name) content = .ok (d.put (place ++ [name]) (.file content)) := by
  have hnode := node?_ne_directory hname hleads h
  rw [write, locate_joinPath (pathFault?_of_readable h) hname, hleads.walk (List.cons_ne_nil _ _),
    walk_last hname.1]
  simp only [bind, Except.bind]
  rfl

theorem leads_put (hleads : Leads d (d.startOf directory) (pathNames directory) place)
    (hnode : d.node? (place ++ [name]) ≠ some .directory) (n : DiskNode) :
    Leads (d.put (place ++ [name]) n) (d.startOf directory) (pathNames directory) place := by
  apply hleads.mono
  intro p hp
  rw [node?_put_ne, hp]
  rintro rfl
  exact hnode hp

end Disk

section

variable {d : Disk} {path text : String}

theorem run_readExisting (h : d.Readable path) : d.run (readExisting path) = (.ok (d.text? path), d) := by
  rw [readExisting, Disk.run_readText_bind, Disk.text?]
  rcases h with h | ⟨text, h⟩ <;> rw [h] <;> rfl

theorem run_guardWrite {left : Disk} (h : d.write path (.ofText text) = .ok left) :
    d.run (guardAccess path (writeText path text)) = (.ok (), left) := by
  have hwrite : (writeText path text : StateM Disk _) d = (.ok (), left) := by
    simp only [writeText, bind, StateT.bind, get, getThe, MonadStateOf.get, StateT.get, pure, h]
    rfl
  rw [guardAccess, Disk.run_mk_bind, hwrite]
  rfl

theorem run_guardDirectories {left : Disk} (h : d.makeDirectories path = (.ok (), left)) :
    d.run (guardAccess path (makeDirectories path)) = (.ok (), left) := by
  have hmake : (makeDirectories path : StateM Disk _) d = (.ok (), left) := h
  rw [guardAccess, Disk.run_mk_bind, hmake]
  rfl

end

def driftsIn (d : Disk) (directory : String) (files : List (String × String)) : List Drift :=
  files.filterMap fun f =>
    if d.text? (joinPath directory f.1) = some f.2 then none else some ⟨f.1, d.text? (joinPath directory f.1), f.2⟩

section

variable {d left : Disk} {directory : String} {files rest : List (String × String)} {f : String × String}

theorem driftsIn_cons_current (h : d.text? (joinPath directory f.1) = some f.2) :
    driftsIn d directory (f :: rest) = driftsIn d directory rest := by
  rw [driftsIn, List.filterMap_cons_none (by rw [if_pos h])]
  rfl

theorem driftsIn_cons_drifted (h : d.text? (joinPath directory f.1) ≠ some f.2) : driftsIn d directory (f :: rest) =
    ⟨f.1, d.text? (joinPath directory f.1), f.2⟩ :: driftsIn d directory rest := by
  rw [driftsIn, List.filterMap_cons_some (by rw [if_neg h])]
  rfl

theorem file_of_mem_driftsIn {x : Drift} (h : x ∈ driftsIn d directory files) : x.file ∈ files.map (·.1) := by
  obtain ⟨f, hf, hx⟩ := List.mem_filterMap.mp h
  split at hx
  · cases hx
  · cases hx
    exact List.mem_map_of_mem hf

theorem driftsIn_congr (h : ∀ f ∈ files, left.read (joinPath directory f.1) = d.read (joinPath directory f.1)) :
    driftsIn left directory files = driftsIn d directory files := by
  apply List.filterMap_congr
  intro f hf
  rw [Disk.text?, Disk.text?, h f hf]

theorem driftsIn_eq_nil_iff :
    driftsIn d directory files = [] ↔ ∀ f ∈ files, d.read (joinPath directory f.1) = .ok f.2 := by
  simp only [driftsIn, List.filterMap_eq_nil_iff, ite_eq_left_iff, reduceCtorEq, imp_false, not_not,
    Disk.text?_eq_some_iff]

theorem driftsIn_eq_nil (h : ∀ f ∈ files, d.read (joinPath directory f.1) = .ok f.2) :
    driftsIn d directory files = [] := driftsIn_eq_nil_iff.mpr h

theorem run_driftOf (h : ∀ f ∈ files, d.Readable (joinPath directory f.1)) :
    d.run (FileSet.driftOf directory files) = (.ok (driftsIn d directory files), d) := by
  induction files with
  | nil => rfl
  | cons f rest ih =>
    obtain ⟨hf, hrest⟩ := List.forall_mem_cons.mp h
    rw [FileSet.driftOf, Disk.run_bind_ok (run_readExisting hf), Disk.run_bind_ok (ih hrest)]
    by_cases hcurrent : d.text? (joinPath directory f.1) = some f.2
    · rw [if_pos hcurrent, driftsIn_cons_current hcurrent]
      rfl
    · rw [if_neg hcurrent, driftsIn_cons_drifted hcurrent]
      rfl

theorem run_writeFiles_current (h : ∀ f ∈ files, d.read (joinPath directory f.1) = .ok f.2) :
    d.run (FileSet.writeFiles directory files) = (.ok [], d) := by
  induction files with
  | nil => rfl
  | cons f rest ih =>
    obtain ⟨hf, hrest⟩ := List.forall_mem_cons.mp h
    rw [FileSet.writeFiles, Disk.run_bind_ok (run_readExisting (.inr ⟨_, hf⟩)),
      if_pos (Disk.text?_eq_some_iff.mpr hf), ih hrest]

end

def putDrift (place : Location) (d : Disk) (x : Drift) : Disk := d.put (place ++ [x.file]) (.file (.ofText x.expected))

structure WrittenFrom (left d : Disk) (directory : String) (place : Location) (files : List (String × String)) :
    Prop where
  leads : left.Leads (left.startOf directory) (Disk.pathNames directory) place
  written : ∀ f ∈ files, left.read (joinPath directory f.1) = .ok f.2
  kept : ∀ p, (∀ x ∈ driftsIn d directory files, p ≠ place ++ [x.file]) → left.node? p = d.node? p
  writes : left = (driftsIn d directory files).foldl (putDrift place) d

theorem read_put {d : Disk} {directory name text : String} {place : Location} (hname : Disk.IsFileName name)
    (hleads : d.Leads (d.startOf directory) (Disk.pathNames directory) place)
    (hread : d.Readable (joinPath directory name)) :
    (d.put (place ++ [name]) (.file (.ofText text))).read (joinPath directory name) = .ok text := by
  have hnode := Disk.node?_ne_directory hname hleads hread
  have hput := Disk.leads_put hleads hnode (.file (.ofText text))
  rw [Disk.read_of_leads (Disk.pathFault?_of_readable hread) hname hput, Disk.node?_put_self hnode]
  simp only [Content.text?_ofText]

theorem run_writeFiles {d : Disk} {directory : String} {place : Location} {files : List (String × String)}
    (hleads : d.Leads (d.startOf directory) (Disk.pathNames directory) place)
    (hnames : ∀ f ∈ files, Disk.IsFileName f.1) (hnodup : (files.map (·.1)).Nodup)
    (hreadable : ∀ f ∈ files, d.Readable (joinPath directory f.1)) :
    ∃ left, d.run (FileSet.writeFiles directory files) =
        (.ok ((driftsIn d directory files).map fun x => joinPath directory x.file), left) ∧
      WrittenFrom left d directory place files := by
  induction files generalizing d with
  | nil => exact ⟨d, rfl, hleads, fun f hf => (nomatch hf), fun p _ => rfl, rfl⟩
  | cons f rest ih =>
    obtain ⟨hname, hnamesRest⟩ := List.forall_mem_cons.mp hnames
    obtain ⟨hread, hreadRest⟩ := List.forall_mem_cons.mp hreadable
    obtain ⟨hfresh, hnodupRest⟩ := List.nodup_cons.mp hnodup
    have hplaces {other : String} (hother : other ∈ rest.map (·.1)) : place ++ [f.1] ≠ place ++ [other] := by
      intro hsame
      obtain ⟨rfl, -⟩ := List.cons.inj (List.append_cancel_left hsame)
      exact hfresh hother
    rw [FileSet.writeFiles, Disk.run_bind_ok (run_readExisting hread)]
    by_cases hcurrent : d.text? (joinPath directory f.1) = some f.2
    · obtain ⟨left, hrun, hwritten⟩ := ih hleads hnamesRest hnodupRest hreadRest
      rw [if_pos hcurrent, hrun, driftsIn_cons_current hcurrent]
      refine ⟨left, rfl, hwritten.leads, List.forall_mem_cons.mpr ⟨?_, hwritten.written⟩, ?_, ?_⟩
      · have hkept := hwritten.kept _ fun x hx => hplaces (file_of_mem_driftsIn hx)
        rw [Disk.read_congr hname hleads hwritten.leads hkept]
        exact Disk.text?_eq_some_iff.mp hcurrent
      · rw [driftsIn_cons_current hcurrent]
        exact hwritten.kept
      · rw [driftsIn_cons_current hcurrent]
        exact hwritten.writes
    · have hnode := Disk.node?_ne_directory hname hleads hread
      have hput := Disk.leads_put hleads hnode (.file (.ofText f.2))
      have hwrite := Disk.write_of_leads hname hleads hread (.ofText f.2)
      have hsame : ∀ g ∈ rest, (d.put (place ++ [f.1]) (.file (.ofText f.2))).read (joinPath directory g.1) =
          d.read (joinPath directory g.1) := by
        intro g hg
        apply Disk.read_congr (hnamesRest g hg) hleads hput
        exact Disk.node?_put_ne (hplaces (List.mem_map_of_mem hg)).symm
      obtain ⟨left, hrun, hwritten⟩ := ih hput hnamesRest hnodupRest fun g hg => by
        rw [Disk.Readable, hsame g hg]
        exact hreadRest g hg
      have hkept := hwritten.kept
      have hwrites := hwritten.writes
      rw [driftsIn_congr hsame] at hrun hkept hwrites
      rw [if_neg hcurrent, Disk.run_bind_ok (run_guardWrite hwrite), Disk.run_bind_ok hrun,
        driftsIn_cons_drifted hcurrent]
      refine ⟨left, rfl, hwritten.leads, List.forall_mem_cons.mpr ⟨?_, hwritten.written⟩, ?_, ?_⟩
      · have hf := hkept _ fun x hx => hplaces (file_of_mem_driftsIn hx)
        rw [Disk.read_congr hname hput hwritten.leads hf]
        exact read_put hname hleads hread
      · rw [driftsIn_cons_drifted hcurrent]
        intro p hp
        obtain ⟨hother, hlater⟩ := List.forall_mem_cons.mp hp
        rw [hkept p hlater, Disk.node?_put_ne hother]
      · rw [driftsIn_cons_drifted hcurrent]
        exact hwrites

theorem isFileName_output (o : Output) : Disk.IsFileName o.fileName := by
  cases o <;> decide

theorem isMissing_of_mem_driftsIn {d : Disk} {directory : String} {files : List (String × String)}
    (hreadable : ∀ f ∈ files, d.Readable (joinPath directory f.1)) :
    ∀ x ∈ driftsIn d directory files, x.isMissing = true ↔ d.read (joinPath directory x.file) = .error .missing := by
  intro x hx
  obtain ⟨f, hf, hdrift⟩ := List.mem_filterMap.mp hx
  split at hdrift
  · cases hdrift
  · cases hdrift
    rw [← Disk.text?_eq_none_iff (hreadable f hf), Drift.isMissing, Option.isNone_iff_eq_none]

theorem regeneration_settles_drift (texts : List (Output × String)) {d : Disk} {directory : String}
    (hnested : d.Nested) (hopens : d.Opens directory)
    (hreadable : ∀ f ∈ (FileSet.ofOutputs texts).files, d.Readable (joinPath directory f.1)) :
    ∃ drifts left place,
      d.run ((FileSet.ofOutputs texts).driftFrom directory) = (.ok drifts, d) ∧
      drifts = driftsIn d directory (FileSet.ofOutputs texts).files ∧
      (∀ x ∈ drifts, x.isMissing = true ↔ d.read (joinPath directory x.file) = .error .missing) ∧
      d.run ((FileSet.ofOutputs texts).writeTo directory) =
        (.ok (drifts.map fun x => joinPath directory x.file), left) ∧
      left.Leads (left.startOf directory) (Disk.pathNames directory) place ∧
      (∀ f ∈ (FileSet.ofOutputs texts).files, left.read (joinPath directory f.1) = .ok f.2) ∧
      (∀ p n, d.node? p = some n → (∀ x ∈ drifts, p ≠ place ++ [x.file]) → left.node? p = some n) ∧
      left.run ((FileSet.ofOutputs texts).driftFrom directory) = (.ok [], left) ∧
      left.run ((FileSet.ofOutputs texts).writeTo directory) = (.ok [], left) := by
  obtain ⟨made, place, hmade, hleads, hkeeps, hreads⟩ := Disk.makeDirectories_of_opens hnested hopens
  have hnames : ∀ f ∈ (FileSet.ofOutputs texts).files, Disk.IsFileName f.1 := by
    intro f hf
    obtain ⟨o, ho⟩ := FileSet.output_of_mem_ofOutputs hf
    rw [ho]
    exact isFileName_output o
  have hsame : ∀ f ∈ (FileSet.ofOutputs texts).files,
      made.read (joinPath directory f.1) = d.read (joinPath directory f.1) :=
    fun f hf => hreads f.1 (hnames f hf)
  have hreadableMade : ∀ f ∈ (FileSet.ofOutputs texts).files, made.Readable (joinPath directory f.1) := by
    intro f hf
    rw [Disk.Readable, hsame f hf]
    exact hreadable f hf
  obtain ⟨left, hrun, hwritten⟩ :=
    run_writeFiles hleads hnames (FileSet.nodup_ofList _) hreadableMade
  have hkept := hwritten.kept
  rw [driftsIn_congr hsame] at hrun hkept
  refine ⟨driftsIn d directory (FileSet.ofOutputs texts).files, left, place, run_driftOf hreadable, rfl,
    isMissing_of_mem_driftsIn hreadable, ?_, hwritten.leads, hwritten.written, ?_, ?_, ?_⟩
  · rw [FileSet.writeTo, Disk.run_bind_ok (run_guardDirectories hmade), hrun]
  · intro p n hn hp
    rw [hkept p hp, hkeeps p n hn]
  · have hcurrent := run_driftOf fun f hf => .inr ⟨_, hwritten.written f hf⟩
    rw [driftsIn_eq_nil hwritten.written] at hcurrent
    exact hcurrent
  · have hthere := Disk.makeDirectories_there hopens.faultless hwritten.leads
    rw [FileSet.writeTo, Disk.run_bind_ok (run_guardDirectories hthere), run_writeFiles_current hwritten.written]

def driftedDisk : Disk :=
  ⟨["work"], [(["work", "out"], .directory), (["work", "out", "names.rs"], .file (.ofText "names")),
    (["work", "out", "opcodes.rs"], .file (.ofText "old"))]⟩

def driftedTexts : List (Output × String) := [(.opcodes, "opcodes"), (.names, "names"), (.stubs, "stubs")]

theorem nested_drifted : driftedDisk.Nested := by
  apply Disk.nested_of_nodes
  simp only [driftedDisk, List.forall_mem_cons]
  exact ⟨rfl, rfl, rfl, fun n hn => nomatch hn⟩

theorem files_drifted : (FileSet.ofOutputs driftedTexts).files =
    [("names.rs", "names"), ("opcodes.rs", "opcodes"), ("stubs.rs", "stubs")] := by
  decide +kernel

theorem regeneration_settles_drift_drifted :
    (∃ left, driftedDisk.run ((FileSet.ofOutputs driftedTexts).driftFrom "out") =
        (.ok [⟨"opcodes.rs", some "old", "opcodes"⟩, ⟨"stubs.rs", none, "stubs"⟩], driftedDisk) ∧
      driftedDisk.run ((FileSet.ofOutputs driftedTexts).writeTo "out") =
        (.ok ["out/opcodes.rs", "out/stubs.rs"], left) ∧
      left.run ((FileSet.ofOutputs driftedTexts).driftFrom "out") = (.ok [], left)) ∧
    ∃ left, driftedDisk.run ((FileSet.ofOutputs driftedTexts).writeTo "/new/./code/") =
        (.ok ["/new/./code/names.rs", "/new/./code/opcodes.rs", "/new/./code/stubs.rs"], left) ∧
      left.read "/new/./code/stubs.rs" = .ok "stubs" := by
  constructor
  · have hnames : driftedDisk.read (joinPath "out" "names.rs") = .ok "names" := Disk.read_of_find rfl
    have hopcodes : driftedDisk.read (joinPath "out" "opcodes.rs") = .ok "old" := Disk.read_of_find rfl
    have hstubs : driftedDisk.read (joinPath "out" "stubs.rs") = .error .missing := rfl
    have hreadable : ∀ f ∈ (FileSet.ofOutputs driftedTexts).files, driftedDisk.Readable (joinPath "out" f.1) := by
      rw [files_drifted]
      simp only [List.forall_mem_cons]
      exact ⟨.inr ⟨_, hnames⟩, .inr ⟨_, hopcodes⟩, .inl hstubs, fun f hf => nomatch hf⟩
    have hdrifts : driftsIn driftedDisk "out" (FileSet.ofOutputs driftedTexts).files =
        [⟨"opcodes.rs", some "old", "opcodes"⟩, ⟨"stubs.rs", none, "stubs"⟩] := by
      rw [files_drifted]
      simp [driftsIn, Disk.text?, hnames, hopcodes, hstubs, Except.toOption]
    obtain ⟨drifts, left, place, hdrift, rfl, -, hwrite, -, -, -, hsettled, -⟩ :=
      regeneration_settles_drift driftedTexts nested_drifted (Disk.opens_of_isDirectory rfl) hreadable
    rw [hdrifts] at hdrift hwrite
    exact ⟨left, hdrift, hwrite, hsettled⟩
  · have hmissing : ∀ f ∈ (FileSet.ofOutputs driftedTexts).files,
        driftedDisk.read (joinPath "/new/./code/" f.1) = .error .missing := by
      rw [files_drifted]
      simp only [List.forall_mem_cons]
      exact ⟨rfl, rfl, rfl, fun f hf => nomatch hf⟩
    have hopens : driftedDisk.Opens "/new/./code/" :=
      Disk.opens_of_missing rfl rfl (by decide) ⟨by decide +kernel, by decide +kernel⟩
    obtain ⟨drifts, left, place, -, rfl, -, hwrite, -, hwritten, -⟩ :=
      regeneration_settles_drift driftedTexts nested_drifted hopens fun f hf => .inl (hmissing f hf)
    have hdrifts : driftsIn driftedDisk "/new/./code/" (FileSet.ofOutputs driftedTexts).files =
        [⟨"names.rs", none, "names"⟩, ⟨"opcodes.rs", none, "opcodes"⟩, ⟨"stubs.rs", none, "stubs"⟩] := by
      rw [files_drifted] at hmissing ⊢
      simp only [List.forall_mem_cons] at hmissing
      simp [driftsIn, Disk.text?, hmissing, Except.toOption]
    rw [hdrifts] at hwrite
    rw [files_drifted] at hwritten
    exact ⟨left, hwrite, hwritten ("stubs.rs", "stubs") (by decide)⟩

end KindTable
