import KindTable.Proofs.Acceptance

namespace KindTable

section

variable {c other : Config} (s : Selection)

theorem Selection.outputOf_eq_of_inputs (hgates : c.gates = other.gates) (hfallback : c.fallback = other.fallback)
    (hpolicy : c.policy = other.policy) (o : Output) : s.outputOf c o = s.outputOf other o := by
  cases o <;> simp only [outputOf, hgates, hfallback, hpolicy]

theorem Selection.outputsOf_narrower (hgates : c.gates = other.gates) (hfallback : c.fallback = other.fallback)
    (hpolicy : c.policy = other.policy) (hwants : ∀ o, c.wants o = true → other.wants o = true) :
    s.outputsOf c = (s.outputsOf other).restrict c.fileNames := by
  have hkept : (fun f : String × String => c.fileNames.contains f.1) ∘ (fun o => (o.fileName, s.outputOf other o)) =
      c.wants := by
    funext o
    rw [Function.comp_apply, Bool.eq_iff_iff, List.contains_iff_mem, Config.mem_fileNames]
  rw [outputsOf, outputsOf, FileSet.restrict_ofList, List.filter_map, hkept, Config.wanted_of_narrower hwants]
  congr 1
  apply List.map_congr_left
  intro o _
  rw [outputOf_eq_of_inputs s hgates hfallback hpolicy]

end

theorem FileSet.mem_names_iff {s : FileSet} {name : String} : name ∈ s.names ↔ ∃ text, (name, text) ∈ s.files := by
  simp [names]

theorem Selection.mem_names_outputsOf {s : Selection} {c : Config} {name : String} :
    name ∈ (s.outputsOf c).names ↔ ∃ o, c.wants o = true ∧ o.fileName = name := by
  simp only [FileSet.mem_names_iff, outputsOf, ← FileSet.get?_ofList_eq_some_iff]
  constructor
  · rintro ⟨text, htext⟩
    obtain ⟨o, ho, hname⟩ := List.mem_map.mp (FileSet.name_of_mem_ofList (FileSet.get?_ofList_eq_some_iff.mp htext))
    obtain ⟨o, hwanted, rfl⟩ := List.mem_map.mp ho
    exact ⟨o, Config.mem_wanted.mp hwanted, hname⟩
  · rintro ⟨o, ho, rfl⟩
    exact ⟨_, FileSet.get?_ofList_outputs (Config.mem_wanted.mpr ho)⟩

theorem output_selection_projects {c wider : Config} (hgates : c.gates = wider.gates)
    (hfallback : c.fallback = wider.fallback) (hpolicy : c.policy = wider.policy) (houtputs : c.outputs ⊆ wider.outputs)
    (origin source : String) :
    (∀ files, wider.generate origin source = .ok files →
      c.generate origin source = .ok (files.restrict c.fileNames) ∧
      ∀ name, name ∈ (files.restrict c.fileNames).names ↔ ∃ o ∈ c.outputs, o.fileName = name) ∧
    ∀ e files, wider.generate origin source = .error e → c.generate origin source = .ok files →
      (∃ method first second, e = .emission (.methodCollision method first second)) ∧
        .visitor ∈ wider.outputs ∧ .visitor ∉ c.outputs := by
  have hwants : ∀ o, c.wants o = true → wider.wants o = true :=
    fun o ho => Config.wants_iff.mpr (houtputs (Config.wants_iff.mp ho))
  rcases c.refuses_or_selects origin source with ⟨failure, hload⟩ | ⟨loaded, s, hload, hselect⟩
  · have hwider : wider.generate origin source = .error (.table failure) :=
      Config.generate_of_load_error (hgates ▸ hload)
    simp [Config.generate_of_load_error hload, hwider]
  · have hnarrower : s.outputsOf c = (s.outputsOf wider).restrict c.fileNames :=
      s.outputsOf_narrower hgates hfallback hpolicy hwants
    have hloadWider : loadTable origin source wider.gates = .ok loaded := hgates ▸ hload
    have hselectWider : loaded.registry.select wider.gates wider.fallback = .ok s := hgates ▸ hfallback ▸ hselect
    have hok {files : FileSet} : c.generate origin source = .ok files ↔ _ :=
      Config.generate_eq_ok_iff_of_select hload hselect
    constructor
    · intro files hfiles
      obtain ⟨hmethods, rfl⟩ := (Config.generate_eq_ok_iff_of_select hloadWider hselectWider).mp hfiles
      rw [← hnarrower]
      refine ⟨hok.mpr ⟨fun h => hmethods (hwants .visitor h), rfl⟩, fun name => ?_⟩
      simp only [Selection.mem_names_outputsOf, Config.wants_iff]
    · intro e files he hfiles
      obtain ⟨hvisitor, fault, hfault, rfl⟩ :=
        (Config.generate_eq_error_iff_of_select hloadWider hselectWider).mp he
      obtain ⟨hmethods, -⟩ := hok.mp hfiles
      obtain ⟨method, first, second, -, -, rfl⟩ := Selection.collision_of_methods hfault
      refine ⟨⟨method, first, second, rfl⟩, Config.wants_iff.mp hvisitor, fun hasked => ?_⟩
      obtain ⟨methods, hfree⟩ := hmethods (Config.wants_iff.mpr hasked)
      rw [hfault] at hfree
      cases hfree

theorem output_selection_projects_taken :
    (∃ files, reservingConfig.generate "kinds" "A\nB if(X)" = .ok files ∧
      Config.generate { reservingConfig with outputs := [.names, .manifest] } "kinds" "A\nB if(X)" =
        .ok (files.restrict ["names.rs", "manifest.json"]) ∧
      Config.generate { reservingConfig with outputs := [] } "kinds" "A\nB if(X)" = .ok (files.restrict [])) ∧
    (∃ files, Config.generate { reservingConfig with outputs := [.names] } "kinds" "Default" = .ok files) ∧
    Config.generate { reservingConfig with outputs := [.visitor, .names] } "kinds" "Default" = .error takenError ∧
    .visitor ∉ [Output.names] := by
  obtain ⟨files, hfiles⟩ := generate_reserving
  have hprojects (outputs : List Output) :=
    (@output_selection_projects { reservingConfig with outputs := outputs } reservingConfig rfl rfl rfl
      (fun o _ => o.mem_all) "kinds" "A\nB if(X)").1 files hfiles
  have hnames : Config.generate { reservingConfig with outputs := [.names] } "kinds" "Default" =
      .ok (takenSelection.outputsOf { reservingConfig with outputs := [.names] }) :=
    (Config.generate_eq_ok_iff_of_select (load_taken _) (select_taken _ _)).mpr ⟨fun h => (nomatch h), rfl⟩
  have hvisitor : Config.generate { reservingConfig with outputs := [.visitor, .names] } "kinds" "Default" =
      .error takenError := generate_taken rfl
  obtain ⟨-, hcollides⟩ := @output_selection_projects { reservingConfig with outputs := [.names] }
    { reservingConfig with outputs := [.visitor, .names] } rfl rfl rfl (List.subset_cons_self _ _) "kinds" "Default"
  exact ⟨⟨files, hfiles, (hprojects [.names, .manifest]).1, (hprojects []).1⟩, ⟨_, hnames⟩, hvisitor,
    (hcollides _ _ hvisitor hnames).2.2⟩

end KindTable
