import KindTable.Proofs.Emission
import KindTable.Proofs.WrittenTable

namespace KindTable

def Entry.ungated (e : Entry) : Entry := ⟨e.name, .always⟩

namespace Selection

variable (s : Selection)

def activeEntries : List Entry := s.active.map (·.entry.ungated)

def ungatedSource : String := joinLines (s.active.map (·.name))

end Selection

section

variable {es : List Entry}

theorem lineDenotes_identifier (i : Identifier) : LineDenotes i.text.toList (some ⟨i, .always⟩) := by
  have hcontent : lineContent (i.text.toList ++ []) = i.text.toList ++ [] := lineContent_word i.isWordChar_of_mem
  have hspelled := Spelled.identifier i (by simp) .nil
  rw [List.append_nil] at hcontent hspelled
  rw [LineDenotes, hcontent]
  exact hspelled

theorem denotes_joinLines (h : ∀ e ∈ es, e.mode = .always) : Denotes (joinLines (es.map (·.name.text))) es := by
  induction es with
  | nil => exact ⟨[none], .cons .nil .nil, rfl⟩
  | cons e rest ih =>
    obtain ⟨hmode, hrest⟩ := List.forall_mem_cons.mp h
    obtain ⟨denoted, hdenoted, hentries⟩ := ih hrest
    have htext : (joinLines ((e :: rest).map (·.name.text))).toList =
        e.name.text.toList ++ '\n' :: (joinLines (rest.map (·.name.text))).toList := by
      simp [joinLines, String.join_cons]
    have hline : '\n' ∉ e.name.text.toList := by
      intro hmem
      have hfeed := e.name.isWordChar_of_mem _ hmem
      cases hfeed
    have he : e = ⟨e.name, .always⟩ := by
      rw [← hmode]
    refine ⟨some e :: denoted, ?_, ?_⟩
    · rw [htext, List.splitOn_append_cons_self_of_not_mem hline]
      rw [he]
      exact .cons (lineDenotes_identifier e.name) hdenoted
    · rw [List.reduceOption_cons_of_some, hentries]

theorem inclusions_always {gates : GateSet} {fallback : SoftFallback} (h : ∀ e ∈ es, e.mode = .always) :
    inclusions gates fallback es = .ok (es.map fun _ => .always) := by
  induction es with
  | nil => rfl
  | cons e rest ih =>
    obtain ⟨hmode, hrest⟩ := List.forall_mem_cons.mp h
    have he : e.inclusion gates fallback = .ok .always := by
      rw [Entry.inclusion, hmode]
    rw [inclusions, he]
    simp only [ih hrest]
    rfl

theorem load_always (h : ∀ e ∈ es, e.mode = .always) (hnodup : (es.map (·.name.text)).Nodup) (origin : String)
    (gates : GateSet) :
    ∃ loaded, loadTable origin (joinLines (es.map (·.name.text))) gates = .ok loaded ∧
      loaded.registry.entries = es := by
  refine loaded_entries_iff.mpr ⟨denotes_joinLines h, hnodup, ?_⟩
  intro e he
  rw [Entry.Resolved, Entry.gateName?, Entry.gate?, h e he]
  intro gate hgate
  cases hgate

end

namespace Selection

theorem mode_of_mem_activeEntries {s : Selection} : ∀ e ∈ s.activeEntries, e.mode = .always := by
  intro e he
  obtain ⟨a, -, rfl⟩ := List.mem_map.mp he
  rfl

theorem nodup_active (s : Selection) : (s.active.map (·.name)).Nodup := by
  have hslots := s.nodup_slots .compact
  rw [slots, List.map_map] at hslots
  exact hslots

theorem load_ungated (s : Selection) (origin : String) (gates : GateSet) :
    ∃ loaded, loadTable origin s.ungatedSource gates = .ok loaded ∧ loaded.registry.entries = s.activeEntries := by
  have hnames : s.activeEntries.map (·.name.text) = s.active.map (·.name) := by
    rw [activeEntries, List.map_map]
    rfl
  have hnodup : (s.activeEntries.map (·.name.text)).Nodup := hnames ▸ s.nodup_active
  rw [ungatedSource, ← hnames]
  exact load_always mode_of_mem_activeEntries hnodup origin gates

theorem active_of_always {s : Selection} (h : ∀ i ∈ s.decisions, i.isActive = true) :
    s.active.map (·.entry) = s.registry.entries := by
  have hsublist := sublist_activeFrom 0 0 s.decided
  rw [map_fst_decided] at hsublist
  apply hsublist.eq_of_length
  have hsize := s.size_eq
  rw [List.countP_eq_length.mpr h, s.length_decisions] at hsize
  rw [List.length_map]
  exact hsize

theorem selects_ungated (s : Selection) (origin : String) (gates : GateSet) (fallback : SoftFallback) :
    ∃ loaded t, loadTable origin s.ungatedSource gates = .ok loaded ∧
      loaded.registry.select gates fallback = .ok t ∧
      t.active.map (·.entry.name) = s.active.map (·.entry.name) := by
  obtain ⟨loaded, hload, hentries⟩ := s.load_ungated origin gates
  obtain ⟨t, hselect⟩ := exists_select_of_load hload fallback
  obtain ⟨hregistry, hdecisions⟩ := select_eq_ok_iff.mp hselect
  rw [hentries, inclusions_always mode_of_mem_activeEntries] at hdecisions
  have halways : ∀ i ∈ t.decisions, i.isActive = true := by
    intro i hi
    rw [← Except.ok.inj hdecisions] at hi
    obtain ⟨e, -, rfl⟩ := List.mem_map.mp hi
    rfl
  refine ⟨loaded, t, hload, hselect, ?_⟩
  have hactive := active_of_always halways
  rw [hregistry, hentries] at hactive
  have hnames := congrArg (List.map Entry.name) hactive
  rw [activeEntries, List.map_map, List.map_map] at hnames
  exact hnames

end Selection

def Slot.bare (slot : Slot) : Slot :=
  match slot.occupant with
  | .active a => ⟨slot.index, .active ⟨a.opcode, 0, .always, a.entry.ungated⟩⟩
  | .reserved _ e => ⟨slot.index, .reserved 0 e.ungated⟩

namespace Slot

variable (slot : Slot)

@[simp] theorem index_bare : slot.bare.index = slot.index := by
  obtain ⟨index, occupant⟩ := slot
  cases occupant <;> rfl

@[simp] theorem name_bare : slot.bare.name = slot.name := by
  obtain ⟨index, occupant⟩ := slot
  cases occupant <;> rfl

@[simp] theorem isReserved_bare : slot.bare.isReserved = slot.isReserved := by
  obtain ⟨index, occupant⟩ := slot
  cases occupant <;> rfl

@[simp] theorem method?_bare : slot.bare.method? = slot.method? := by
  rw [method?_eq, method?_eq, isReserved_bare, name_bare]

end Slot

theorem ofSlots_bare (slots : List Slot) : CodeSet.ofSlots (slots.map Slot.bare) = .ofSlots slots := by
  simp [CodeSet.ofSlots, List.filterMap_map, Function.comp_def]

namespace Selection

variable {s t : Selection}

theorem bare_slots_congr (h : s.active.map (·.entry.name) = t.active.map (·.entry.name)) :
    (s.slots .compact).map Slot.bare = (t.slots .compact).map Slot.bare := by
  have hbare (u : Selection) (i : Nat) : ((u.slots .compact).map Slot.bare)[i]? =
      (u.active.map (·.entry.name))[i]?.map fun name =>
        ⟨(Opcode.ofIndex i).index, .active ⟨.ofIndex i, 0, .always, ⟨name, .always⟩⟩⟩ := by
    rw [slots, List.map_map, List.getElem?_map, List.getElem?_map, Option.map_map]
    cases ha : u.active[i]? with
    | none => rfl
    | some a =>
      have hopcode := (getElem?_active ha).2.2.1
      simp only [Option.map_some, Function.comp_apply, Slot.bare, Slot.ofActive, hopcode]
      rfl
  apply List.ext_getElem?
  intro i
  rw [hbare, hbare, h]

theorem methods_congr (h : s.active.map (·.entry.name) = t.active.map (·.entry.name)) : s.methods = t.methods := by
  have hnames := congrArg (List.map Identifier.text) h
  rw [List.map_map, List.map_map] at hnames
  exact congrArg (assignMethods _) hnames

theorem outputOf_congr {c other : Config} (hpolicy : c.policy = .compact) (hother : other.policy = .compact)
    (h : s.active.map (·.entry.name) = t.active.map (·.entry.name)) {o : Output} (ho : o ≠ .manifest) :
    s.outputOf c o = t.outputOf other o := by
  have hcode : CodeSet.ofSlots (s.slots c.policy) = .ofSlots (t.slots other.policy) := by
    rw [hpolicy, hother, ← ofSlots_bare, bare_slots_congr h, ofSlots_bare]
  cases o with
  | manifest => exact absurd rfl ho
  | opcodes | names | stubs | visitor => simp only [outputOf, hcode]

end Selection

theorem Config.map_generate_of_select {β : Type} {c : Config} {origin source : String} {loaded : LoadedTable}
    {s : Selection} (hload : loadTable origin source c.gates = .ok loaded)
    (hselect : loaded.registry.select c.gates c.fallback = .ok s) (f : FileSet → β) :
    (c.generate origin source).map f = (if c.wants .visitor then s.methods.map fun _ => f (s.outputsOf c)
      else .ok (f (s.outputsOf c))).mapError .emission := by
  rw [generate_of_select hload hselect, Selection.emit_eq]
  split
  · cases s.methods <;> rfl
  · rfl

section

variable {c other : Config} {origin source name bare : String} {loaded ungated : LoadedTable} {s t : Selection}

theorem Config.wants_congr (houtputs : c.outputs = other.outputs) (o : Output) : c.wants o = other.wants o := by
  rw [wants, wants, houtputs]

theorem Config.wanted_congr (houtputs : c.outputs = other.outputs) : c.wanted = other.wanted :=
  List.filter_congr fun o _ => wants_congr houtputs o

theorem file_of_same_names (hpolicy : c.policy = .compact) (hother : other.policy = .compact)
    (houtputs : c.outputs = other.outputs) (hnames : s.active.map (·.entry.name) = t.active.map (·.entry.name))
    (hload : loadTable origin source c.gates = .ok loaded)
    (hselect : loaded.registry.select c.gates c.fallback = .ok s)
    (hungated : loadTable name bare other.gates = .ok ungated)
    (hbare : ungated.registry.select other.gates other.fallback = .ok t) {o : Output} (ho : o ≠ .manifest) :
    (c.generate origin source).map (·.get? o.fileName) = (other.generate name bare).map (·.get? o.fileName) := by
  rw [Config.map_generate_of_select hload hselect, Config.map_generate_of_select hungated hbare,
    Config.wants_congr houtputs .visitor, Selection.methods_congr hnames, Selection.get?_outputsOf,
    Selection.get?_outputsOf, Config.wants_congr houtputs o, Selection.outputOf_congr hpolicy hother hnames ho]

theorem generate_of_same_names (hpolicy : c.policy = .compact) (hother : other.policy = .compact)
    (houtputs : c.outputs = other.outputs) (hnames : s.active.map (·.entry.name) = t.active.map (·.entry.name))
    (hload : loadTable origin source c.gates = .ok loaded)
    (hselect : loaded.registry.select c.gates c.fallback = .ok s)
    (hungated : loadTable name bare other.gates = .ok ungated)
    (hbare : ungated.registry.select other.gates other.fallback = .ok t) (hmanifest : c.wants .manifest = false) :
    c.generate origin source = other.generate name bare := by
  have hfiles : s.outputsOf c = t.outputsOf other := by
    rw [Selection.outputsOf, Selection.outputsOf, Config.wanted_congr houtputs]
    apply congrArg FileSet.ofList
    apply List.map_congr_left
    intro o ho
    rw [Selection.outputOf_congr hpolicy hother hnames]
    rintro rfl
    rw [Config.mem_wanted, ← Config.wants_congr houtputs, hmanifest] at ho
    cases ho
  rw [Config.generate_of_select hload hselect, Config.generate_of_select hungated hbare, Selection.emit_eq,
    Selection.emit_eq, Config.wants_congr houtputs, Selection.methods_congr hnames, hfiles]

end

theorem compact_gating_deletes {c : Config} {origin source : String} {loaded : LoadedTable} {s : Selection}
    (hpolicy : c.policy = .compact) (hload : loadTable origin source c.gates = .ok loaded)
    (hselect : loaded.registry.select c.gates c.fallback = .ok s) (gates : GateSet) (fallback : SoftFallback)
    (name : String) :
    (∀ o : Output, o ≠ .manifest → (c.generate origin source).map (·.get? o.fileName) =
      ((Config.mk gates fallback .compact c.outputs).generate name s.ungatedSource).map (·.get? o.fileName)) ∧
    (c.wants .manifest = false →
      c.generate origin source = (Config.mk gates fallback .compact c.outputs).generate name s.ungatedSource) := by
  obtain ⟨ungated, t, hungated, hbare, hnames⟩ := s.selects_ungated name gates fallback
  have houtputs : c.outputs = (Config.mk gates fallback .compact c.outputs).outputs := rfl
  constructor
  · intro o ho
    exact file_of_same_names hpolicy rfl houtputs hnames.symm hload hselect hungated hbare ho
  · intro hmanifest
    exact generate_of_same_names hpolicy rfl houtputs hnames.symm hload hselect hungated hbare hmanifest

theorem compact_gating_deletes_reserving :
    (∀ o : Output, o ≠ .manifest →
      ((Config.mk reservingConfig.gates .keep .compact Output.all).generate "kinds" "A\nB if(X)").map (·.get? o.fileName) =
        ((Config.mk .empty .drop .compact Output.all).generate "names" "A\n").map (·.get? o.fileName)) ∧
    (Config.mk reservingConfig.gates .keep .compact [.visitor]).generate "kinds" "A\nB if(X)" =
      (Config.mk .empty .drop .compact [.visitor]).generate "names" "A\n" := by
  have hall := @compact_gating_deletes ⟨reservingConfig.gates, .keep, .compact, Output.all⟩ _ _ _ _ rfl load_reserving
    select_reserving .empty .drop "names"
  have hvisitor := @compact_gating_deletes ⟨reservingConfig.gates, .keep, .compact, [.visitor]⟩ _ _ _ _ rfl
    load_reserving select_reserving .empty .drop "names"
  exact ⟨hall.1, hvisitor.2 rfl⟩

end KindTable
