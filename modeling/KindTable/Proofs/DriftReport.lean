import KindTable.Proofs.LineDiff
import KindTable.Proofs.LineEndings
import KindTable.Proofs.ReadOnlyCommands

namespace KindTable

section

variable {d : Disk} {directory text : String} {files : List (String × String)} {x : Drift}

theorem ne_expected_of_mem_driftsIn (h : x ∈ driftsIn d directory files) (hactual : x.actual = some text) :
    text ≠ x.expected := by
  obtain ⟨f, -, hx⟩ := List.mem_filterMap.mp h
  split at hx
  · cases hx
  · rename_i hdrifted
    cases hx
    rintro rfl
    exact hdrifted hactual

theorem diff_eq_empty_iff (hactual : x.actual = some text) :
    x.diff = "" ↔ ∃ lines, Lined lines text.toList ∧ Lined lines x.expected.toList := by
  rw [Drift.diff, hactual, Option.getD_some, lineDiff_eq_empty_iff]
  simp only [lined_iff]
  constructor
  · exact fun h => ⟨_, h, rfl⟩
  · rintro ⟨lines, htext, hexpected⟩
    rw [htext, hexpected]

end

theorem stale_diff_empty_iff {files : FileSet} {d : Disk} {directory : String} {drifts : List Drift}
    (h : (d.run (files.driftFrom directory)).1 = .ok drifts) :
    ∀ x ∈ drifts, ∀ text, x.actual = some text → text ≠ x.expected ∧
      (x.diff = "" ↔ ∃ lines, Lined lines text.toList ∧ Lined lines x.expected.toList) := by
  have hrun := run_driftOf (readable_of_driftOf h)
  obtain rfl : driftsIn d directory files.files = drifts := Except.ok.inj ((congrArg Prod.fst hrun).symm.trans h)
  intro x hx text hactual
  exact ⟨ne_expected_of_mem_driftsIn hx hactual, diff_eq_empty_iff hactual⟩

def namesConfig : Config := ⟨.empty, .drop, .compact, [.names]⟩

def emptyRegistry : Registry := ⟨[], .nil⟩

def emptySelection : Selection := ⟨emptyRegistry, [], rfl⟩

def emptyNamesLines : List String :=
  ["// @generated by nodekind 0.1.0. Do not edit by hand.", "", "/// Node-class names, indexed by opcode.",
    "pub static NODE_CLASS_NAMES: [&str; 0] = [];"]

def emptyNames : String := joinLines emptyNamesLines

theorem generate_empty : namesConfig.generate "kinds" "" = .ok ⟨[("names.rs", emptyNames)]⟩ := by
  have hload : loadTable "kinds" "" namesConfig.gates = .ok ⟨[], emptyRegistry⟩ :=
    loadTable_of_ok (loadText_eq_ok_iff.mpr ⟨[⟨.endOfFile, ⟨0, 0⟩⟩], ⟨[]⟩, by decide +kernel, by decide +kernel, rfl,
      Draft.freeze_eq_ok_iff.mpr ⟨rfl, rfl⟩⟩)
  have hselect : emptyRegistry.select namesConfig.gates namesConfig.fallback = .ok emptySelection :=
    select_eq_ok_iff.mpr ⟨rfl, rfl⟩
  have htext : emptySelection.outputText namesConfig .names = .ok emptyNames := by decide +kernel
  have hemit : emptySelection.emit namesConfig = .ok ⟨[("names.rs", emptyNames)]⟩ := by
    refine Selection.emit_eq_ok_iff.mpr ⟨fun _ => emptyNames, ?_, rfl⟩
    intro o ho
    obtain rfl : o = .names := by simpa [Config.wanted, Config.wants, namesConfig, Output.all] using ho
    exact htext
  exact Config.generate_eq_ok_iff.mpr ⟨_, _, hload, hselect, hemit⟩

def convertedNames : String := .join (emptyNamesLines.map (· ++ "\r\n"))

def convertedDisk : Disk := ⟨[], [(["out"], .directory), (["out", "names.rs"], .file (.ofText convertedNames))]⟩

def convertedDrift : Drift := ⟨"names.rs", some convertedNames, emptyNames⟩

theorem textLines_emptyNames : textLines emptyNames = emptyNamesLines :=
  textLines_joinLines (by decide +kernel)

theorem textLines_convertedNames : textLines convertedNames = emptyNamesLines := by
  have hfree : ∀ line ∈ emptyNamesLines, '\n' ∉ line.toList := by decide +kernel
  have hending : "\r\n".toList = ['\r', '\n'] := by decide
  exact textLines_join fun line hline => ⟨hfree line hline, hending ▸ .returnFeed⟩

theorem diff_converted : convertedDrift.diff = "" :=
  lineDiff_eq_empty_iff.mpr (textLines_convertedNames.trans textLines_emptyNames.symm)

theorem drift_converted :
    (convertedDisk.run ((⟨[("names.rs", emptyNames)]⟩ : FileSet).driftFrom "out")).1 = .ok [convertedDrift] := by
  have hread : convertedDisk.read (joinPath "out" "names.rs") = .ok convertedNames := Disk.read_of_find rfl
  have hreadable : ∀ f ∈ [("names.rs", emptyNames)], convertedDisk.Readable (joinPath "out" f.1) := by
    intro f hf
    obtain rfl := List.mem_singleton.mp hf
    exact .inr ⟨_, hread⟩
  have hne : convertedNames ≠ emptyNames := by decide
  have hdrifts : driftsIn convertedDisk "out" [("names.rs", emptyNames)] = [convertedDrift] := by
    simp [driftsIn, Disk.text?, hread, Except.toOption, hne, convertedDrift]
  rw [FileSet.driftFrom, run_driftOf hreadable, hdrifts]

theorem stale_diff_empty_iff_converted :
    (convertedDisk.run ((⟨[("names.rs", emptyNames)]⟩ : FileSet).driftFrom "out")).1 = .ok [convertedDrift] ∧
      convertedNames ≠ emptyNames ∧
      ∃ lines, Lined lines convertedNames.toList ∧ Lined lines emptyNames.toList := by
  obtain ⟨hne, hdiff⟩ := stale_diff_empty_iff drift_converted convertedDrift List.mem_cons_self convertedNames rfl
  exact ⟨drift_converted, hne, hdiff.mp diff_converted⟩

theorem stale_file_without_diff :
    ∃ files, namesConfig.generate "kinds" "" = .ok files ∧
      (convertedDisk.run (files.driftFrom "out")).1 = .ok [convertedDrift] ∧
      convertedDrift.isMissing = false ∧ convertedDrift.diff = "" ∧
      checkOutcome ⟨"out", false, [.names], true, true⟩ files [convertedDrift] =
        ⟨"Out of date: out/names.rs\n--- out/names.rs\n\n", some (.outOfDate 1 1)⟩ := by
  refine ⟨_, generate_empty, drift_converted, rfl, diff_converted, ?_⟩
  simp only [checkOutcome, List.map_cons, driftText, diff_converted]
  decide +kernel

end KindTable
