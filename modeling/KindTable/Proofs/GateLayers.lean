import Mathlib.Data.List.Forall2
import KindTable.Disk.Run
import KindTable.Gates.Resolve
import KindTable.Latest

namespace KindTable

def ReadsAll (settings : List String) (bs : List Binding) : Prop :=
  List.Forall₂ (fun text b => parseSetting text = .ok b) settings bs

inductive StopsAt : List String → GateFault → Prop where
  | here {text : String} {rest : List String} {fault : GateFault} :
    parseSetting text = .error fault → StopsAt (text :: rest) fault
  | later {text : String} {rest : List String} {b : Binding} {fault : GateFault} :
    parseSetting text = .ok b → StopsAt rest fault → StopsAt (text :: rest) fault

theorem exists_stopsAt {settings : List String} {text : String} {fault : GateFault} (htext : text ∈ settings)
    (hfault : parseSetting text = .error fault) : ∃ first, StopsAt settings first := by
  induction settings with
  | nil => cases htext
  | cons front rest ih =>
    cases hfront : parseSetting front with
    | error first => exact ⟨first, .here hfront⟩
    | ok b =>
      rcases List.mem_cons.mp htext with rfl | htext
      · rw [hfault] at hfront
        cases hfront
      · obtain ⟨first, hfirst⟩ := ih htext
        exact ⟨first, .later hfront hfirst⟩

theorem applySettings_of_readsAll {settings : List String} {bs : List Binding} (h : ReadsAll settings bs)
    (gates : GateSet) : applySettings gates settings = .ok (gates.setAll bs) := by
  induction h generalizing gates with
  | nil => rfl
  | cons htext hrest ih =>
    rw [applySettings, htext]
    exact ih _

theorem applySettings_of_stopsAt {settings : List String} {fault : GateFault} (h : StopsAt settings fault)
    (gates : GateSet) : applySettings gates settings = .error fault := by
  induction h generalizing gates with
  | here hfault =>
    rw [applySettings, hfault]
    rfl
  | later htext hrest ih =>
    rw [applySettings, htext]
    exact ih _

theorem run_loadGatesFile (d : Disk) (path : String) :
    d.run (loadGatesFile path) = ((d.read path).mapError (.unreadableFile path) >>= parseGatesFile path, d) := by
  rw [loadGatesFile, Disk.run_readText_bind]
  cases d.read path <;> rfl

def gatesLayer (d : Disk) : Option String → Except GateFault (Option GateSet)
  | none => .ok none
  | some path => some <$> (d.run (loadGatesFile path)).1

def resolvedGates (d : Disk) (defaults : GateSet) (file : Option String) (settings : List String) :
    Except GateFault GateSet :=
  (d.run (resolveGates defaults file settings)).1

theorem resolvedGates_eq (d : Disk) (defaults : GateSet) (file : Option String) (settings : List String) :
    resolvedGates d defaults file settings =
      gatesLayer d file >>= fun values => layerGates defaults values settings := by
  cases file with
  | none => rfl
  | some path =>
    rw [gatesLayer, resolvedGates, resolveGates]
    cases hload : d.run (loadGatesFile path) with
    | mk result after =>
      cases result with
      | ok gates =>
        rw [Disk.run_bind_ok (Disk.run_map_ok hload some)]
        rfl
      | error fault =>
        rw [map_eq_pure_bind, Disk.run_bind_error (Disk.run_bind_error hload _)]
        rfl

def baseGates (defaults : GateSet) (values : Option GateSet) : GateSet := values.elim defaults defaults.overlay

theorem layerGates_eq (defaults : GateSet) (values : Option GateSet) (settings : List String) :
    layerGates defaults values settings = applySettings (baseGates defaults values) settings := by
  cases values <;> rfl

theorem get?_baseGates (defaults : GateSet) (values : Option GateSet) (name : String) :
    (baseGates defaults values).get? name = (values.bind (·.get? name)).or (defaults.get? name) := by
  cases values with
  | none => rfl
  | some later => exact GateSet.get?_overlay defaults later name

structure Layered (defaults : GateSet) (values : Option GateSet) (bs : List Binding) (gates : GateSet) : Prop where
  value : ∀ name, ∃ o, Latest bs name o ∧
    gates.get? name = o.or ((values.bind (·.get? name)).or (defaults.get? name))
  named : ∀ name, gates.contains name = true ↔
    (∃ b ∈ bs, b.1 = name) ∨ (∃ later, values = some later ∧ later.contains name = true) ∨ defaults.contains name = true

theorem layered_setAll (defaults : GateSet) (values : Option GateSet) (bs : List Binding) :
    Layered defaults values bs ((baseGates defaults values).setAll bs) := by
  have hget (name : String) : ((baseGates defaults values).setAll bs).get? name =
      (bs.reverse.lookup name).or ((values.bind (·.get? name)).or (defaults.get? name)) := by
    rw [GateSet.get?_setAll, get?_baseGates]
  constructor
  case value => exact fun name => ⟨_, latest_lookup bs name, hget name⟩
  case named =>
    intro name
    have hvalues : (values.bind (·.get? name)).isSome = true ↔
        ∃ later, values = some later ∧ later.contains name = true := by
      cases values <;> simp [GateSet.contains]
    rw [GateSet.contains, hget, Option.isSome_or, Option.isSome_or, Bool.or_eq_true, Bool.or_eq_true,
      isSome_lookup_reverse_iff, hvalues, GateSet.contains]

theorem setAll_congr {bs cs : List Binding} (h : ∀ name, bs.filter (·.1 == name) = cs.filter (·.1 == name))
    (gates : GateSet) : gates.setAll bs = gates.setAll cs :=
  GateSet.eq_of_get?_eq fun name => by
    rw [GateSet.get?_setAll, GateSet.get?_setAll, lookup_reverse_congr (h name)]

structure ResolvesByLayers (d : Disk) (defaults : GateSet) (file : Option String) : Prop where
  unread : ∀ fault settings, gatesLayer d file = .error fault →
    resolvedGates d defaults file settings = .error fault
  refused : ∀ values settings text fault, gatesLayer d file = .ok values → text ∈ settings →
    parseSetting text = .error fault →
    ∃ first, StopsAt settings first ∧ resolvedGates d defaults file settings = .error first
  layered : ∀ values settings bs, gatesLayer d file = .ok values → ReadsAll settings bs →
    ∃ gates, resolvedGates d defaults file settings = .ok gates ∧ Layered defaults values bs gates
  interleaved : ∀ settings others bs cs, ReadsAll settings bs → ReadsAll others cs →
    (∀ name, bs.filter (·.1 == name) = cs.filter (·.1 == name)) →
    resolvedGates d defaults file settings = resolvedGates d defaults file others

theorem gates_resolve_by_layers (d : Disk) (defaults : GateSet) (file : Option String) :
    ResolvesByLayers d defaults file := by
  constructor
  case unread =>
    intro fault settings hlayer
    rw [resolvedGates_eq, hlayer]
    rfl
  case refused =>
    intro values settings text fault hlayer htext hfault
    obtain ⟨first, hfirst⟩ := exists_stopsAt htext hfault
    refine ⟨first, hfirst, ?_⟩
    rw [resolvedGates_eq, hlayer]
    exact (layerGates_eq _ _ _).trans (applySettings_of_stopsAt hfirst _)
  case layered =>
    intro values settings bs hlayer hreads
    refine ⟨_, ?_, layered_setAll defaults values bs⟩
    rw [resolvedGates_eq, hlayer]
    exact (layerGates_eq _ _ _).trans (applySettings_of_readsAll hreads _)
  case interleaved =>
    intro settings others bs cs hsettings hothers hsame
    rw [resolvedGates_eq, resolvedGates_eq]
    congr 1
    funext values
    rw [layerGates_eq, layerGates_eq, applySettings_of_readsAll hsettings, applySettings_of_readsAll hothers,
      setAll_congr hsame]

def layeredText : String := "\x7b\"A\": true, \"B\": false\x7d"

def layeredDisk : Disk := ⟨[], [(["gates"], .file (.ofText layeredText))]⟩

theorem gatesLayer_layeredDisk :
    gatesLayer layeredDisk (some "gates") = .ok (some (.ofList [("A", true), ("B", false)])) := by
  have hread : layeredDisk.read "gates" = .ok layeredText := Disk.read_of_find rfl
  have hjson : readJsonBooleans layeredText = .ok [("A", true), ("B", false)] := by decide +kernel
  have hnames : firstBadName? (.ofList [("A", true), ("B", false)]) = none := by decide +kernel
  have hparsed : parseGatesFile "gates" layeredText = .ok (.ofList [("A", true), ("B", false)]) := by
    rw [parseGatesFile, hjson]
    simp only [hnames]
  rw [gatesLayer, run_loadGatesFile, hread]
  exact congrArg (some <$> ·) hparsed

theorem gates_resolve_by_layers_layeredDisk :
    (∃ gates, resolvedGates layeredDisk (.ofList [("A", false), ("C", true)]) (some "gates")
        ["B=off", "D=1", "B=yes"] = .ok gates ∧
      gates.get? "A" = some true ∧ gates.get? "B" = some true ∧ gates.get? "C" = some true) ∧
    resolvedGates layeredDisk .empty (some "gates") ["B=off", "fast", "=on"] = .error (.missingValue "fast") ∧
    ∀ settings, resolvedGates layeredDisk .empty (some "none") settings = .error (.unreadableFile "none" .missing) := by
  refine ⟨?_, ?_, ?_⟩
  · have hreads : ReadsAll ["B=off", "D=1", "B=yes"] [("B", false), ("D", true), ("B", true)] :=
      .cons (by decide +kernel) (.cons (by decide +kernel) (.cons (by decide +kernel) .nil))
    obtain ⟨gates, hresolved, hlayered⟩ :=
      (gates_resolve_by_layers layeredDisk (.ofList [("A", false), ("C", true)]) (some "gates")).layered _ _ _
        gatesLayer_layeredDisk hreads
    have hget (name : String) : gates.get? name =
        ([("B", true), ("D", true), ("B", false)].lookup name).or
          (((GateSet.ofList [("A", true), ("B", false)]).get? name).or
            ((GateSet.ofList [("A", false), ("C", true)]).get? name)) := by
      obtain ⟨o, ho, hvalue⟩ := hlayered.value name
      rw [hvalue, ← latest_iff.mp ho]
      rfl
    refine ⟨gates, hresolved, ?_, ?_, ?_⟩
    · exact (hget "A").trans (by decide +kernel)
    · exact (hget "B").trans (by decide +kernel)
    · exact (hget "C").trans (by decide +kernel)
  · have hoff : parseSetting "B=off" = .ok ("B", false) := by decide +kernel
    have hfast : parseSetting "fast" = .error (.missingValue "fast") := by decide +kernel
    obtain ⟨first, hfirst, hresolved⟩ :=
      (gates_resolve_by_layers layeredDisk .empty (some "gates")).refused _ ["B=off", "fast", "=on"] _ _
        gatesLayer_layeredDisk (List.mem_cons_of_mem _ List.mem_cons_self) hfast
    cases hfirst with
    | here hfault =>
      rw [hoff] at hfault
      cases hfault
    | later hbinding hrest =>
      cases hrest with
      | here hfault =>
        rw [hfast] at hfault
        cases hfault
        exact hresolved
      | later hbinding hlater =>
        rw [hfast] at hbinding
        cases hbinding
  · have hlayer : gatesLayer layeredDisk (some "none") = .error (.unreadableFile "none" .missing) := by
      have hread : layeredDisk.read "none" = .error .missing := rfl
      rw [gatesLayer, run_loadGatesFile, hread]
      rfl
    exact fun settings => (gates_resolve_by_layers layeredDisk .empty (some "none")).unread _ settings hlayer

end KindTable
