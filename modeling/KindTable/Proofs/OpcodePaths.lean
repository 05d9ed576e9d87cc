import KindTable.Proofs.Ungated

namespace KindTable

inductive OpcodeItem where
  | variant (name : String)
  | associated (name : String)
  deriving DecidableEq

def OpcodeItem.name : OpcodeItem → String
  | variant name => name
  | associated name => name

theorem filter_named {item : String → OpcodeItem} (hname : ∀ name, (item name).name = name) {names : List String}
    (hnodup : names.Nodup) (path : String) :
    (names.map item).filter (·.name == path) = if path ∈ names then [item path] else [] := by
  split
  · rename_i hpath
    have hlabels : (names.map fun name => name).Nodup := by rwa [List.map_id']
    exact filter_map_eq hlabels (fun name _ => hname name) hpath
  · rename_i hpath
    rw [List.filter_eq_nil_iff]
    intro other hother hsame
    obtain ⟨name, hmem, rfl⟩ := List.mem_map.mp hother
    rw [beq_iff_eq, hname] at hsame
    exact hpath (hsame ▸ hmem)

namespace OpcodeCode

def items (c : OpcodeCode) : List OpcodeItem :=
  c.variants.map (fun v => .variant v.name) ++ associatedItems.map .associated

def named (c : OpcodeCode) (path : String) : List OpcodeItem := c.items.filter (·.name == path)

section

variable {c : OpcodeCode} (hnodup : (c.variants.map (·.name)).Nodup)

include hnodup

theorem named_eq (path : String) : c.named path =
    (if path ∈ c.variants.map (·.name) then [.variant path] else []) ++
      if path ∈ associatedItems then [.associated path] else [] := by
  have hvariants : c.variants.map (fun v => OpcodeItem.variant v.name) =
      (c.variants.map (·.name)).map OpcodeItem.variant := by
    rw [List.map_map]
    rfl
  rw [named, items, List.filter_append, hvariants, filter_named (fun _ => rfl) hnodup,
    filter_named (fun _ => rfl) (by decide)]

theorem exists_named_iff {path : String} (h : path ∈ c.variants.map (·.name) ∨ path ∈ associatedItems) :
    (∃ item, c.named path = [item]) ↔ ¬(path ∈ c.variants.map (·.name) ∧ path ∈ associatedItems) := by
  rw [named_eq hnodup]
  by_cases hvariant : path ∈ c.variants.map (·.name)
  · by_cases hassociated : path ∈ associatedItems <;> simp [hvariant, hassociated]
  · simp [hvariant, h.resolve_left hvariant]

end

end OpcodeCode

def pathsOf (mentions : List Mention) : List String := (mentions.filter (·.place = .path)).map (·.word)

theorem mem_pathsOf {mentions : List Mention} {path : String} : path ∈ pathsOf mentions ↔ ⟨.path, path⟩ ∈ mentions := by
  simp only [pathsOf, List.mem_map, List.mem_filter, decide_eq_true_eq]
  constructor
  · rintro ⟨⟨place, word⟩, ⟨hmem, rfl⟩, rfl⟩
    exact hmem
  · exact fun h => ⟨_, ⟨h, rfl⟩, rfl⟩

namespace CodeSet

def opcodePaths (c : CodeSet) : List String :=
  pathsOf c.opcodes.file.mentions ++ pathsOf c.visitor.file.mentions ++ OpcodeCode.associatedItems

theorem names_ofSlots (slots : List Slot) :
    (CodeSet.ofSlots slots).opcodes.variants.map (·.name) = slots.map Slot.name := List.map_map

theorem mem_paths_opcodes {slots : List Slot} {path : String} :
    path ∈ pathsOf (ofSlots slots).opcodes.file.mentions ↔ path ∈ slots.map Slot.name := by
  simp [mem_pathsOf, OpcodeCode.mentions_file, ofSlots]

theorem mem_of_mem_paths_visitor {slots : List Slot} {path : String}
    (h : path ∈ pathsOf (ofSlots slots).visitor.file.mentions) : path ∈ slots.map Slot.name := by
  rw [mem_pathsOf, VisitorCode.mentions_file] at h
  rcases List.mem_append.mp h with h | h
  · obtain ⟨method, hmethod, hpath⟩ := List.mem_flatMap.mp h
    obtain ⟨slot, hslot, hname⟩ := List.mem_filterMap.mp hmethod
    obtain ⟨_, -, rfl⟩ := Option.map_eq_some_iff.mp hname
    obtain rfl : path = slot.name := by simpa using hpath
    exact List.mem_map_of_mem hslot
  · obtain ⟨slot, hslot, rfl⟩ : ∃ slot ∈ slots, path = slot.name := by simpa [ofSlots] using h
    exact List.mem_map_of_mem hslot

theorem mem_opcodePaths_ofSlots {slots : List Slot} {path : String} :
    path ∈ (ofSlots slots).opcodePaths ↔ path ∈ slots.map Slot.name ∨ path ∈ OpcodeCode.associatedItems := by
  rw [opcodePaths, List.mem_append, List.mem_append, mem_paths_opcodes]
  exact or_congr_left (or_iff_left_of_imp mem_of_mem_paths_visitor)

end CodeSet

namespace Selection

variable {s : Selection} {policy : SlotPolicy} {path : String}

theorem nodup_variants (s : Selection) (policy : SlotPolicy) :
    ((CodeSet.ofSlots (s.slots policy)).opcodes.variants.map (·.name)).Nodup := by
  rw [CodeSet.names_ofSlots]
  exact s.nodup_slots policy

theorem named_of_shadowed (hslot : path ∈ (s.slots policy).map Slot.name) (hitem : path ∈ OpcodeCode.associatedItems) :
    (CodeSet.ofSlots (s.slots policy)).opcodes.named path = [.variant path, .associated path] := by
  rw [OpcodeCode.named_eq (s.nodup_variants policy), CodeSet.names_ofSlots, if_pos hslot, if_pos hitem]
  rfl

theorem exists_named_iff (h : path ∈ (CodeSet.ofSlots (s.slots policy)).opcodePaths) :
    (∃ item, (CodeSet.ofSlots (s.slots policy)).opcodes.named path = [item]) ↔
      ¬(path ∈ (s.slots policy).map Slot.name ∧ path ∈ OpcodeCode.associatedItems) := by
  rw [← CodeSet.names_ofSlots]
  apply OpcodeCode.exists_named_iff (s.nodup_variants policy)
  rw [CodeSet.names_ofSlots]
  exact CodeSet.mem_opcodePaths_ofSlots.mp h

theorem paths_exact_iff : (∀ path ∈ (CodeSet.ofSlots (s.slots policy)).opcodePaths,
      ∃ item, (CodeSet.ofSlots (s.slots policy)).opcodes.named path = [item]) ↔
    ∀ slot ∈ s.slots policy, slot.name ∉ OpcodeCode.associatedItems := by
  constructor
  · intro h slot hslot hitem
    have hpath : slot.name ∈ (CodeSet.ofSlots (s.slots policy)).opcodePaths :=
      CodeSet.mem_opcodePaths_ofSlots.mpr (.inr hitem)
    exact (exists_named_iff hpath).mp (h _ hpath) ⟨List.mem_map_of_mem hslot, hitem⟩
  · intro h path hpath
    apply (exists_named_iff hpath).mpr
    rintro ⟨hlisted, hitem⟩
    obtain ⟨slot, hslot, rfl⟩ := List.mem_map.mp hlisted
    exact h slot hslot hitem

end Selection

theorem opcode_paths_exact {c : Config} {origin source : String} {loaded : LoadedTable} {s : Selection}
    (hload : loadTable origin source c.gates = .ok loaded)
    (hselect : loaded.registry.select c.gates c.fallback = .ok s) (hwants : c.wants .opcodes = true) :
    ((∃ files, c.generate origin source = .ok files) ↔
      (c.wants .visitor = true → ∃ methods, s.methods = .ok methods)) ∧
    ∀ files, c.generate origin source = .ok files → ∃ code, CodeSet.ofSlots (s.slots c.policy) = code ∧
      files.get? Output.opcodes.fileName = some code.opcodes.file.text ∧
      (c.wants .visitor = true → files.get? Output.visitor.fileName = some code.visitor.file.text) ∧
      (∀ path ∈ code.opcodePaths, (∃ item, code.opcodes.named path = [item]) ∨
        path ∈ OpcodeCode.associatedItems ∧ (∃ slot ∈ s.slots c.policy, slot.name = path) ∧
          code.opcodes.named path = [.variant path, .associated path]) ∧
      ((∀ path ∈ code.opcodePaths, ∃ item, code.opcodes.named path = [item]) ↔
        ∀ slot ∈ s.slots c.policy, slot.name ∉ OpcodeCode.associatedItems) := by
  constructor
  · simp only [Config.generate_eq_ok_iff_of_select hload hselect, exists_and_left, exists_eq', and_true]
  · intro files hfiles
    obtain ⟨-, rfl⟩ := (Config.generate_eq_ok_iff_of_select hload hselect).mp hfiles
    refine ⟨_, rfl, ?_, ?_, ?_, Selection.paths_exact_iff⟩
    · rw [Selection.get?_outputsOf, if_pos hwants]
      rfl
    · intro hvisitor
      rw [Selection.get?_outputsOf, if_pos hvisitor]
      rfl
    · intro path hpath
      rw [or_iff_not_imp_left, Selection.exists_named_iff hpath, not_not]
      rintro ⟨hlisted, hitem⟩
      exact ⟨hitem, List.mem_map.mp hlisted, Selection.named_of_shadowed hlisted hitem⟩

theorem opcode_paths_exact_reserving : ∃ files, reservingConfig.generate "kinds" "A\nB if(X)" = .ok files ∧
    files.get? "opcodes.rs" =
      some (CodeSet.ofSlots (reservingSelection.slots .reserve)).opcodes.file.text ∧
    ∀ path ∈ (CodeSet.ofSlots (reservingSelection.slots .reserve)).opcodePaths,
      ∃ item, (CodeSet.ofSlots (reservingSelection.slots .reserve)).opcodes.named path = [item] := by
  obtain ⟨files, hfiles⟩ := generate_reserving
  obtain ⟨-, hpaths⟩ := opcode_paths_exact load_reserving select_reserving rfl
  obtain ⟨code, rfl, hfile, -, -, hexact⟩ := hpaths files hfiles
  exact ⟨files, hfiles, hfile, hexact.mpr (by decide)⟩

def shadowingConfig : Config := .standard

def shadowingSelection : Selection := ⟨⟨[⟨⟨"ALL", rfl⟩, .always⟩], by decide⟩, [.always], by decide⟩

theorem opcode_paths_shadowed : ∃ loaded s files,
    loadTable "kinds" "ALL\n" shadowingConfig.gates = .ok loaded ∧
    loaded.registry.select shadowingConfig.gates shadowingConfig.fallback = .ok s ∧
    shadowingConfig.generate "kinds" "ALL\n" = .ok files ∧ shadowingConfig.wants .opcodes = true ∧
    files.get? "opcodes.rs" = some (CodeSet.ofSlots (s.slots .compact)).opcodes.file.text ∧
    "ALL" ∈ (CodeSet.ofSlots (s.slots .compact)).opcodes.variants.map (·.name) ∧
    "ALL" ∈ OpcodeCode.associatedItems ∧
    (CodeSet.ofSlots (s.slots .compact)).opcodes.named "ALL" = [.variant "ALL", .associated "ALL"] := by
  obtain ⟨loaded, s, hload, hselect, hnames⟩ :=
    shadowingSelection.selects_ungated "kinds" shadowingConfig.gates shadowingConfig.fallback
  have hmethods : ∃ methods, s.methods = .ok methods := by
    have hfree : methodName "ALL" ≠ fallbackMethod := by decide +kernel
    refine ⟨[("ALL", methodName "ALL")], ?_⟩
    rw [Selection.methods_congr hnames]
    change assignMethods _ ["ALL"] = _
    have hword : Toolkit.isWord (methodName "ALL") = true := by decide +kernel
    rw [assignMethods_eq_ok_iff]
    simpa [hword] using hfree.symm
  have hlisted : "ALL" ∈ (s.slots .compact).map Slot.name := by
    have hactive := congrArg (List.map Identifier.text) hnames
    rw [List.map_map, List.map_map] at hactive
    rw [Selection.slots, List.map_map]
    exact hactive ▸ List.mem_cons_self
  have hgenerate : shadowingConfig.generate "kinds" "ALL\n" = .ok (s.outputsOf shadowingConfig) :=
    (Config.generate_eq_ok_iff_of_select hload hselect).mpr ⟨fun _ => hmethods, rfl⟩
  refine ⟨loaded, s, _, hload, hselect, hgenerate, rfl, s.get?_outputsOf shadowingConfig .opcodes, ?_, by decide,
    Selection.named_of_shadowed hlisted (by decide)⟩
  rwa [CodeSet.names_ofSlots]

end KindTable
