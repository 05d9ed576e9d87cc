import KindTable.Proofs.Emission
import KindTable.Text.Split

namespace KindTable

def HasGateClause (source gate : String) : Prop :=
  ∃ line ∈ source.toList.splitOn '\n', ∃ (name : String) (kind : GateKind),
    Spelled [.word name, .word kind.keyword, .openParen, .word gate, .closeParen] (lineContent line)

theorem hasGateClause_of_denotes {source : String} {entries : List Entry} (h : Denotes source entries) {e : Entry}
    (he : e ∈ entries) {gate : String} (hgate : e.gateName? = some gate) : HasGateClause source gate := by
  obtain ⟨denoted, hlines, rfl⟩ := h
  obtain ⟨line, hline, hdenotes⟩ := exists_mem_of_forall₂ hlines (List.reduceOption_mem_iff.mp he)
  obtain ⟨name, mode⟩ := e
  cases mode with
  | always => cases hgate
  | gated g =>
    cases hgate
    exact ⟨line, hline, name.text, g.kind, hdenotes⟩

theorem Spelled.sublist_of_word {kinds : List TokenKind} {text : List Char} (h : Spelled kinds text) {word : String}
    (hword : TokenKind.word word ∈ kinds) : word.toList.Sublist text := by
  induction h with
  | nil => cases hword
  | layout hc h ih => exact (ih hword).cons _
  | openParen h ih =>
    rcases List.mem_cons.mp hword with hparen | hword
    · cases hparen
    · exact (ih hword).cons _
  | closeParen h ih =>
    rcases List.mem_cons.mp hword with hparen | hword
    · cases hparen
    · exact (ih hword).cons _
  | @word kinds text chars hne hchars hend h ih =>
    rcases List.mem_cons.mp hword with hfirst | hword
    · rw [TokenKind.word.inj hfirst, String.toList_ofList]
      exact List.sublist_append_left _ _
    · exact (ih hword).trans (List.sublist_append_right _ _)

theorem sublist_of_hasGateClause {source gate : String} (h : HasGateClause source gate) :
    gate.toList.Sublist source.toList := by
  obtain ⟨line, hline, name, kind, hspelled⟩ := h
  have hcontent : gate.toList.Sublist (lineContent line) := hspelled.sublist_of_word (by simp)
  exact (hcontent.trans (List.takeWhile_sublist _)).trans (sublist_of_mem_splitOn hline)

section

variable {source : String} {gates others : GateSet}

theorem loadText_congr (h : ∀ gate, HasGateClause source gate → gates.get? gate = others.get? gate) :
    loadText source gates = loadText source others := by
  apply bind_congr_of_ok
  intro tokens hlex
  apply bind_congr_of_ok
  intro declarations hparse
  apply bind_congr_of_ok
  intro draft hlower
  have hdenotes : Denotes source draft.entries := denotes_iff_read.mpr ⟨tokens, declarations, hlex, hparse, hlower⟩
  have hfreeze : draft.freeze gates = draft.freeze others := by
    apply Draft.freeze_congr
    intro e he g hg
    rw [GateSet.contains, GateSet.contains, h g (hasGateClause_of_denotes hdenotes he hg)]
  rw [freezeTable, freezeTable, hfreeze]

end

theorem Selection.emit_congr {s : Selection} {c : Config} {others : GateSet}
    (h : ∀ g ∈ s.registry.gates, c.gates.get? g = others.get? g) : s.emit { c with gates := others } = s.emit c := by
  have htext : s.outputText { c with gates := others } = s.outputText c := by
    funext o
    cases o with
    | opcodes | names | stubs | visitor => rfl
    | manifest =>
      rw [outputText_manifest, outputText_manifest, Manifest.ofArtifact, Manifest.ofArtifact,
        Manifest.referencedGates_congr h]
  rw [emit, emit, htext]
  rfl

theorem generate_ignores_unreferenced_gates (c : Config) (others : GateSet) {source : String}
    (h : ∀ gate, HasGateClause source gate → c.gates.get? gate = others.get? gate) (origin : String) :
    ({ c with gates := others } : Config).generate origin source = c.generate origin source := by
  have hload : ({ c with gates := others } : Config).load origin source = c.load origin source := by
    rw [Config.load, Config.load, loadTable, loadTable, loadText_congr h]
  rw [Config.generate, Config.generate, hload]
  apply bind_congr_of_ok
  intro loaded hloaded
  have hdenotes := (loaded_entries_iff.mp ⟨loaded, mapError_eq_ok_iff.mp hloaded, rfl⟩).1
  have hgates : ∀ e ∈ loaded.registry.entries, ∀ g, e.gateName? = some g → c.gates.get? g = others.get? g :=
    fun e he g hg => h g (hasGateClause_of_denotes hdenotes he hg)
  have hselect : ({ c with gates := others } : Config).select loaded.registry = c.select loaded.registry := by
    rw [Config.select, Config.select, select_congr hgates]
  rw [hselect]
  apply bind_congr_of_ok
  intro s hs
  rw [Config.emit, Config.emit, Selection.emit_congr]
  intro g hg
  rw [(select_eq_ok_iff.mp (mapError_eq_ok_iff.mp hs)).1] at hg
  obtain ⟨e, he, hname⟩ := Registry.mem_gates_iff.mp hg
  exact hgates e he g hname

theorem generate_ignores_unreferenced_gates_reserving :
    (∀ gate, HasGateClause "A\nB if(X)" gate →
      reservingConfig.gates.get? gate = (reservingConfig.gates.set "Y" true).get? gate) ∧
    ∃ files, reservingConfig.generate "kinds" "A\nB if(X)" = .ok files ∧
      ({ reservingConfig with gates := reservingConfig.gates.set "Y" true } : Config).generate "kinds" "A\nB if(X)" =
        .ok files := by
  have hagree : ∀ gate, HasGateClause "A\nB if(X)" gate →
      reservingConfig.gates.get? gate = (reservingConfig.gates.set "Y" true).get? gate := by
    intro gate hgate
    have hother : gate ≠ "Y" := by
      rintro rfl
      exact absurd (sublist_of_hasGateClause hgate) (by decide)
    rw [GateSet.get?_set, if_neg hother]
  obtain ⟨files, hfiles⟩ := generate_reserving
  exact ⟨hagree, files, hfiles, (generate_ignores_unreferenced_gates reservingConfig _ hagree "kinds").trans hfiles⟩

end KindTable
