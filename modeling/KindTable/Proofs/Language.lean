import Mathlib.Data.List.ReduceOption
import KindTable.Proofs.WholeLines
import KindTable.Source.Table

namespace KindTable

def Entry.kinds (e : Entry) : List TokenKind :=
  match e.mode with
  | .always => [.word e.name.text]
  | .gated g => [.word e.name.text, .word g.kind.keyword, .openParen, .word g.name.text, .closeParen]

def denotedKinds : Option Entry → List TokenKind
  | none => []
  | some e => e.kinds

def LineDenotes (line : List Char) (denoted : Option Entry) : Prop :=
  Spelled (denotedKinds denoted) (lineContent line)

def Denotes (source : String) (entries : List Entry) : Prop :=
  ∃ denoted, List.Forall₂ LineDenotes (source.toList.splitOn '\n') denoted ∧ denoted.reduceOption = entries

def LineEntry (line : List Token) (e : Entry) : Prop :=
  ∃ close, TokenKind.closesLine close = true ∧ line.map Token.kind = e.kinds ++ [close]

theorem lineEntry_of_outcome {line : List Token} {d : Declaration} {e : Entry} (h : LineOutcome line (.ok d))
    (hentry : d.entry? = .ok e) : LineEntry line e := by
  obtain ⟨hname, hmode⟩ := Declaration.entry?_eq_ok_iff.mp hentry
  cases h with
  | plain name close hclose =>
    have halways : e.mode = .always := (Except.ok.inj hmode).symm
    refine ⟨close.kind, hclose, ?_⟩
    simp [Entry.kinds, halways, hname]
  | gated name gate kind keyword opening closing close hclose =>
    obtain ⟨g, hgated, hgate, rfl⟩ := ModeClause.mode?_eq_ok_iff.mp hmode
    refine ⟨close.kind, hclose, ?_⟩
    simp [Entry.kinds, hgated, hname, hgate]

theorem exists_outcome_of_lineEntry {line : List Token} {e : Entry} (h : LineEntry line e) :
    ∃ d, LineOutcome line (.ok d) ∧ d.entry? = .ok e := by
  obtain ⟨close, hclose, hkinds⟩ := h
  cases hmode : e.mode with
  | always =>
    simp only [Entry.kinds, hmode, List.singleton_append, List.map_eq_cons_iff, List.map_eq_nil_iff] at hkinds
    obtain ⟨⟨_, span⟩, _, rfl, rfl, t, _, rfl, rfl, rfl⟩ := hkinds
    refine ⟨_, .plain ⟨e.name.text, span⟩ t hclose, ?_⟩
    exact Declaration.entry?_eq_ok_iff.mpr ⟨rfl, congrArg Except.ok hmode.symm⟩
  | gated g =>
    simp only [Entry.kinds, hmode, List.cons_append, List.nil_append, List.map_eq_cons_iff,
      List.map_eq_nil_iff] at hkinds
    obtain ⟨⟨_, span⟩, _, rfl, rfl, ⟨_, keyword⟩, _, rfl, rfl, ⟨_, opening⟩, _, rfl, rfl, ⟨_, gateSpan⟩, _, rfl, rfl,
      ⟨_, closing⟩, _, rfl, rfl, t, _, rfl, rfl, rfl⟩ := hkinds
    refine ⟨_, .gated ⟨e.name.text, span⟩ ⟨g.name.text, gateSpan⟩ g.kind keyword opening closing t hclose, ?_⟩
    exact Declaration.entry?_eq_ok_iff.mpr ⟨rfl, ModeClause.mode?_eq_ok_iff.mpr ⟨g, hmode, rfl, rfl⟩⟩

theorem entries_iff_lineEntries {lines : List (List Token)} {results : List (Except Defect Declaration)}
    {entries : List Entry} (h : List.Forall₂ LineOutcome lines results) :
    (∃ declarations : List Declaration, results = declarations.map .ok ∧
        declarations.map Declaration.entry? = entries.map .ok) ↔ List.Forall₂ LineEntry lines entries := by
  induction h generalizing entries with
  | nil =>
    constructor
    · rintro ⟨declarations, hresults, hentries⟩
      obtain rfl := List.map_eq_nil_iff.mp hresults.symm
      obtain rfl := List.map_eq_nil_iff.mp hentries.symm
      exact .nil
    · intro hlines
      cases hlines
      exact ⟨[], rfl, rfl⟩
  | @cons line result lines results hline hrest ih =>
    constructor
    · rintro ⟨declarations, hresults, hentries⟩
      obtain ⟨d, ds, rfl, rfl, hds⟩ := List.map_eq_cons_iff.mp hresults.symm
      obtain ⟨e, es, rfl, he, hes⟩ := List.map_eq_cons_iff.mp hentries.symm
      exact .cons (lineEntry_of_outcome hline he.symm) (ih.mp ⟨ds, hds.symm, hes.symm⟩)
    · intro hlines
      obtain _ | ⟨he, hes⟩ := hlines
      obtain ⟨d, hd, hentry⟩ := exists_outcome_of_lineEntry he
      obtain ⟨ds, rfl, hentries⟩ := ih.mpr hes
      refine ⟨d :: ds, ?_, ?_⟩
      · rw [hline.unique hd, List.map_cons]
      · rw [List.map_cons, List.map_cons, hentry, hentries]

theorem lineEntries_of_parsed {tokens : List Token} {entries : List Entry} (h : HasEnd tokens) :
    (∃ declarations, parseTable tokens = .ok declarations ∧ lower declarations = .ok ⟨entries⟩) ↔
      List.Forall₂ LineEntry (closedLines tokens) entries := by
  simp only [parseTable, collect_eq_ok_iff, lower_eq_ok_iff]
  exact entries_iff_lineEntries (lineOutcomes h)

theorem Entry.kinds_ne_nil (e : Entry) : e.kinds ≠ [] := by
  unfold kinds
  split <;> exact List.cons_ne_nil _ _

theorem denotes_of_lineTokens {pieces : List (List Char)} {lines : List (List Token)} {entries : List Entry}
    (htokens : List.Forall₂ LineTokens pieces lines)
    (hentries : List.Forall₂ LineEntry (lines.filter (!·.isEmpty)) entries) :
    ∃ denoted, List.Forall₂ LineDenotes pieces denoted ∧ denoted.reduceOption = entries := by
  induction htokens generalizing entries with
  | nil =>
    cases hentries
    exact ⟨[], .nil, rfl⟩
  | @cons piece line pieces lines hline hrest ih =>
    obtain ⟨kinds, hspelled, hkinds⟩ := hline
    cases line with
    | nil =>
      obtain ⟨denoted, hdenoted, hreduce⟩ := ih hentries
      refine ⟨none :: denoted, .cons ?_ hdenoted, hreduce⟩
      have hnil : kinds = [] := by
        cases kinds with
        | nil => rfl
        | cons k rest => cases hkinds
      rw [LineDenotes, denotedKinds, ← hnil]
      exact hspelled
    | cons t rest =>
      rw [List.filter_cons_of_pos rfl] at hentries
      obtain _ | ⟨⟨close, hclose, he⟩, hes⟩ := hentries
      obtain ⟨denoted, hdenoted, rfl⟩ := ih hes
      refine ⟨some _ :: denoted, .cons ?_ hdenoted, List.reduceOption_cons_of_some _ _⟩
      rw [LineDenotes, denotedKinds, ← eq_of_closedKinds_append (hkinds.symm.trans he)]
      exact hspelled

theorem lineEntries_of_kinds {denoted : List (Option Entry)} {lines : List (List Token)}
    (h : lines.map (·.map Token.kind) = (denoted.map denotedKinds).map closedKinds) :
    List.Forall₂ LineEntry (lines.filter (!·.isEmpty)) denoted.reduceOption := by
  induction denoted generalizing lines with
  | nil =>
    obtain rfl := List.map_eq_nil_iff.mp h
    exact .nil
  | cons o denoted ih =>
    obtain ⟨line, rest, rfl, hline, hrest⟩ := List.map_eq_cons_iff.mp h
    cases o with
    | none =>
      obtain rfl := List.map_eq_nil_iff.mp hline
      rw [List.filter_cons_of_neg (by simp), List.reduceOption_cons_of_none]
      exact ih hrest
    | some e =>
      have hclosed : closedKinds e.kinds = e.kinds ++ [.newline] := by
        rw [closedKinds, if_neg (by simp [Entry.kinds_ne_nil])]
      have hkinds : line.map Token.kind = e.kinds ++ [.newline] := hline.trans hclosed
      have hne : line ≠ [] := by
        rintro rfl
        simp at hkinds
      rw [List.filter_cons_of_pos (by simpa using hne), List.reduceOption_cons_of_some]
      exact .cons ⟨.newline, rfl, hkinds⟩ (ih hrest)

theorem denotes_iff_read {source : String} {entries : List Entry} :
    Denotes source entries ↔ ∃ tokens declarations, lex source = .ok tokens ∧
      parseTable tokens = .ok declarations ∧ lower declarations = .ok ⟨entries⟩ := by
  constructor
  · rintro ⟨denoted, hdenoted, rfl⟩
    have hspelled : List.Forall₂ (fun line kinds => Spelled kinds (lineContent line)) (source.toList.splitOn '\n')
        (denoted.map denotedKinds) := List.forall₂_map_right_iff.mpr hdenoted
    obtain ⟨lines, hlines, hkinds⟩ := exists_linesLexemes_of_spelled 0 hspelled
    have hwhole := wholeLine_of_lineTokens (lineTokens_of_linesLexemes hlines)
    have hentries := lineEntries_of_kinds hkinds
    have hlex := lex_eq_ok_iff.mpr ⟨lines, hlines, rfl⟩
    have hlines : closedLines (lines.flatten ++ [⟨.endOfFile, ⟨utf8Length source.toList, utf8Length source.toList⟩⟩]) =
        lines.filter (!·.isEmpty) := closedLines_flatten rfl hwhole
    rw [← hlines] at hentries
    obtain ⟨declarations, hparse, hlower⟩ := (lineEntries_of_parsed (hasEnd_append rfl)).mpr hentries
    exact ⟨_, declarations, hlex, hparse, hlower⟩
  · rintro ⟨tokens, declarations, hlex, hparse, hlower⟩
    obtain ⟨lines, hlines, rfl⟩ := lex_eq_ok_iff.mp hlex
    have htokens := lineTokens_of_linesLexemes hlines
    have hentries := (lineEntries_of_parsed (hasEnd_append rfl)).mp ⟨declarations, hparse, hlower⟩
    rw [closedLines_flatten rfl (wholeLine_of_lineTokens htokens)] at hentries
    exact denotes_of_lineTokens htokens hentries

theorem loaded_entries_iff {origin source : String} {gates : GateSet} {entries : List Entry} :
    (∃ loaded, loadTable origin source gates = .ok loaded ∧ loaded.registry.entries = entries) ↔
      Denotes source entries ∧ (entries.map (·.name.text)).Nodup ∧ ∀ e ∈ entries, e.Resolved gates := by
  simp only [loadTable_eq_ok_iff, loadText_eq_ok_iff, denotes_iff_read, Draft.freeze_eq_ok_iff,
    firstDefect?_eq_none_iff, unresolvedGate?_eq_none_iff]
  constructor
  · rintro ⟨loaded, ⟨tokens, ⟨drafted⟩, hlex, hparse, hlower, ⟨-, hnodup, hgates⟩, rfl⟩, rfl⟩
    exact ⟨⟨tokens, loaded.declarations, hlex, hparse, hlower⟩, hnodup, hgates⟩
  · rintro ⟨⟨tokens, declarations, hlex, hparse, hlower⟩, hnodup, hgates⟩
    exact ⟨⟨declarations, ⟨entries, hnodup⟩⟩, ⟨tokens, ⟨entries⟩, hlex, hparse, hlower, ⟨by simp, hnodup, hgates⟩, rfl⟩,
      rfl⟩

end KindTable
