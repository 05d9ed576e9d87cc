import KindTable.Proofs.TokenPlaces
import KindTable.Source.Table

namespace KindTable

theorem TokenReads.of_word {text : List Char} {word : String} {span : Span}
    (h : TokenReads text ⟨.word word, span⟩) : word.toList ≠ [] ∧ Reads text span word.toList := by
  cases h with
  | word hne hreads => exact ⟨hne, hreads⟩

theorem Reads.start_le {text piece : List Char} {span : Span} (h : Reads text span piece) : span.start ≤ span.stop := by
  rw [h.stop_eq]
  exact Nat.le_add_right _ _

theorem LexedLines.line_ordered {text : List Char} {lines : List (List Token)} (h : LexedLines text lines) :
    ∀ line ∈ lines, line.Pairwise fun t u => t.span.stop ≤ u.span.start :=
  (List.pairwise_flatten.mp h.ordered).1

theorem name_mem_of_outcome {line : List Token} {d : Declaration} (h : LineOutcome line (.ok d)) :
    (⟨.word d.name.text, d.name.span⟩ : Token) ∈ line := by
  cases h <;> exact List.mem_cons_self

theorem TokenReads.exists_piece {text : List Char} {t : Token} (h : TokenReads text t)
    (hopen : t.kind.closesLine = false) : ∃ piece, piece ≠ [] ∧ Reads text t.span piece := by
  cases h with
  | @word word span hne hreads => exact ⟨word.toList, hne, hreads⟩
  | openParen hreads => exact ⟨_, List.cons_ne_nil _ _, hreads⟩
  | closeParen hreads => exact ⟨_, List.cons_ne_nil _ _, hreads⟩
  | newline | cutShort | endOfFile => cases hopen

theorem TokenReads.of_openParen {text : List Char} {span : Span} (h : TokenReads text ⟨.openParen, span⟩) :
    Reads text span ['('] := by
  cases h with
  | openParen hreads => exact hreads

theorem TokenReads.of_closeParen {text : List Char} {span : Span} (h : TokenReads text ⟨.closeParen, span⟩) :
    Reads text span [')'] := by
  cases h with
  | closeParen hreads => exact hreads

def ModeClause.tokens (clause : ModeClause) (keyword opening closing : Span) : List Token :=
  [⟨.word clause.kind.keyword, keyword⟩, ⟨.openParen, opening⟩, ⟨.word clause.gate.text, clause.gate.span⟩,
    ⟨.closeParen, closing⟩]

structure ClauseSpans (text : List Char) (clause : ModeClause) (keyword opening closing : Span) : Prop where
  readsKeyword : Reads text keyword clause.kind.keyword.toList
  readsOpening : Reads text opening ['(']
  readsGate : Reads text clause.gate.span clause.gate.text.toList
  readsClosing : Reads text closing [')']
  ordered : keyword.stop ≤ opening.start ∧ opening.stop ≤ clause.gate.span.start ∧
    clause.gate.span.stop ≤ closing.start
  whole : clause.span = ⟨keyword.start, closing.stop⟩
  inside : clause.span.start < clause.gate.span.start ∧ clause.gate.span.stop < clause.span.stop

theorem Span.merge_of_le {s t : Span} (hstart : s.start ≤ t.start) (hstop : s.stop ≤ t.stop) :
    s.merge t = ⟨s.start, t.stop⟩ := by
  rw [merge, Nat.min_eq_left hstart, Nat.max_eq_right hstop]

theorem clauseSpans_of_line {text : List Char} {clause : ModeClause} {keyword opening closing : Span}
    {name close : Token} (hreads : ∀ t ∈ name :: (clause.tokens keyword opening closing ++ [close]), TokenReads text t)
    (hordered : (name :: (clause.tokens keyword opening closing ++ [close])).Pairwise
      fun t u => t.span.stop ≤ u.span.start)
    (hspan : clause.span = keyword.merge closing) : ClauseSpans text clause keyword opening closing := by
  simp only [ModeClause.tokens, List.cons_append, List.forall_mem_cons] at hreads
  simp only [ModeClause.tokens, List.cons_append, List.pairwise_cons, List.forall_mem_cons] at hordered
  obtain ⟨-, hkeyword, hopening, hgate, hclosing, -⟩ := hreads
  obtain ⟨-, ⟨hkeywordOpening, -⟩, ⟨hopeningGate, -⟩, ⟨hgateClosing, -⟩, -⟩ := hordered
  have hkeywordWide := hkeyword.of_word.2.start_le
  have hopeningWide := hopening.of_openParen.start_lt (List.cons_ne_nil _ _)
  have hgateWide := hgate.of_word.2.start_le
  have hclosingWide := hclosing.of_closeParen.start_lt (List.cons_ne_nil _ _)
  have hwhole : clause.span = ⟨keyword.start, closing.stop⟩ := by
    rw [hspan]
    exact Span.merge_of_le (by omega) (by omega)
  constructor
  case readsKeyword => exact hkeyword.of_word.2
  case readsOpening => exact hopening.of_openParen
  case readsGate => exact hgate.of_word.2
  case readsClosing => exact hclosing.of_closeParen
  case ordered => exact ⟨hkeywordOpening, hopeningGate, hgateClosing⟩
  case whole => exact hwhole
  case inside =>
    rw [hwhole]
    constructor <;> dsimp only <;> omega

structure DeclarationReads (text : List Char) (d : Declaration) : Prop where
  name : Reads text d.name.span d.name.text.toList
  gate : ∀ clause, d.mode = some clause → Reads text clause.gate.span clause.gate.text.toList ∧
    clause.span.start < clause.gate.span.start ∧ clause.gate.span.stop < clause.span.stop

theorem declarationReads_of_outcome {text : List Char} {line : List Token} {d : Declaration}
    (hreads : ∀ t ∈ line, TokenReads text t) (hordered : line.Pairwise fun t u => t.span.stop ≤ u.span.start)
    (h : LineOutcome line (.ok d)) : DeclarationReads text d := by
  have hname := (hreads _ (name_mem_of_outcome h)).of_word.2
  cases h with
  | plain name close hclose => exact ⟨hname, fun clause hclause => by cases hclause⟩
  | gated name gate kind keyword opening closing close hclose =>
    have hspans : ClauseSpans text ⟨kind, gate, keyword.merge closing⟩ keyword opening closing :=
      clauseSpans_of_line hreads hordered rfl
    refine ⟨hname, ?_⟩
    intro clause hclause
    cases hclause
    exact ⟨hspans.readsGate, hspans.inside⟩

-- A newline token is no wider than zero bytes only at the end of the source, where no token follows it.
theorem feed_between {text : List Char} {line : List Token} {u : Token} (hwhole : WholeLine line)
    (hreads : ∀ t ∈ line, TokenReads text t) (hordered : line.Pairwise fun t u => t.span.stop ≤ u.span.start)
    (hu : TokenReads text u) (hopen : u.kind.closesLine = false) (hbehind : ∀ t ∈ line, t.span.stop ≤ u.span.start) :
    ∃ feed, Reads text feed ['\n'] ∧ (∀ t ∈ line, t.kind.closesLine = false → t.span.stop ≤ feed.start) ∧
      feed.stop ≤ u.span.start := by
  obtain ⟨body, ⟨kind, feed⟩, rfl, hnewline, -⟩ := hwhole
  dsimp only at hnewline
  subst hnewline
  have hlast : (⟨.newline, feed⟩ : Token) ∈ body ++ [⟨.newline, feed⟩] := List.mem_append_right body List.mem_cons_self
  have hafter := hbehind _ hlast
  refine ⟨feed, ?_, ?_, hafter⟩
  · cases hreads _ hlast with
    | newline hfeed => exact hfeed
    | cutShort hend hstart =>
      obtain ⟨piece, hne, hpiece⟩ := hu.exists_piece hopen
      have hwide := hpiece.start_lt hne
      have hinside := hpiece.stop_le
      have hempty := hend.stop_eq
      simp only [utf8Length_nil, Nat.add_zero] at hempty hafter
      omega
  · intro t ht htopen
    rcases List.mem_append.mp ht with ht | ht
    · exact (List.pairwise_append.mp hordered).2.2 t ht _ List.mem_cons_self
    · obtain rfl := List.mem_singleton.mp ht
      cases htopen

def FeedBetween (text : List Char) (line line' : List Token) : Prop :=
  ∀ u ∈ line', u.kind.closesLine = false → ∃ feed, Reads text feed ['\n'] ∧
    (∀ t ∈ line, t.kind.closesLine = false → t.span.stop ≤ feed.start) ∧ feed.stop ≤ u.span.start

theorem LexedLines.feeds {text : List Char} {lines : List (List Token)} (h : LexedLines text lines) :
    lines.Pairwise (FeedBetween text) := by
  apply (List.pairwise_flatten.mp h.ordered).2.imp_of_mem
  intro line line' hline hline' hbehind u hu hopen
  exact feed_between (h.whole line hline) (h.reads line hline) (h.line_ordered line hline)
    (h.reads line' hline' u hu) hopen fun t ht => hbehind t ht u hu

theorem name_before_name {text : List Char} {line line' : List Token} {d d' : Declaration}
    (hfeed : FeedBetween text line line') (h : LineOutcome line (.ok d)) (h' : LineOutcome line' (.ok d')) :
    d.name.span.stop < d'.name.span.start := by
  obtain ⟨feed, hreads, hbefore, hafter⟩ := hfeed _ (name_mem_of_outcome h') rfl
  have hname := hbefore _ (name_mem_of_outcome h) rfl
  have hwide := hreads.start_lt (List.cons_ne_nil _ _)
  dsimp only at hname hafter
  omega

theorem declarations_read {text : List Char} {lines : List (List Token)} {declarations : List Declaration}
    (hlines : LexedLines text lines)
    (h : List.Forall₂ (fun line d => LineOutcome line (.ok d)) lines declarations) :
    (∀ d ∈ declarations, DeclarationReads text d) ∧
      declarations.Pairwise fun d d' => d.name.span.stop < d'.name.span.start := by
  refine ⟨?_, pairwise_of_forall₂ h hlines.feeds name_before_name⟩
  intro d hd
  obtain ⟨line, hline, houtcome⟩ := exists_mem_of_forall₂ h hd
  exact declarationReads_of_outcome (hlines.reads line hline) (hlines.line_ordered line hline) houtcome

inductive Stage where
  | lexing
  | parsing
  | lowering
  | freezing
  deriving DecidableEq, Repr

def Defect.stage : Defect → Stage
  | unexpectedCharacter _ _ => .lexing
  | unexpectedToken _ _ _ => .parsing
  | unknownMode _ _ => .parsing
  | invalidIdentifier _ _ => .lowering
  | duplicateEntry _ _ _ _ _ => .freezing
  | unknownGate _ _ _ => .freezing

def Declared (source : String) (declarations : List Declaration) : Prop :=
  ∃ tokens, lex source = .ok tokens ∧ parseTable tokens = .ok declarations

def Freezes (gates : GateSet) (declarations : List Declaration) : Prop :=
  ∃ draft r, lower declarations = .ok draft ∧ draft.freeze gates = .ok r

inductive FailsIn (source : String) (gates : GateSet) : Stage → List Defect → Prop where
  | lexing {defects : List Defect} : lex source = .error defects → FailsIn source gates .lexing defects
  | parsing {tokens : List Token} {defects : List Defect} :
    lex source = .ok tokens → parseTable tokens = .error defects → FailsIn source gates .parsing defects
  | lowering {declarations : List Declaration} {defects : List Defect} :
    Declared source declarations → lower declarations = .error defects → FailsIn source gates .lowering defects
  | freezing {declarations : List Declaration} {draft : Draft} {error : RegistryError} {defect : Defect} :
    Declared source declarations → lower declarations = .ok draft → draft.freeze gates = .error error →
    defect.registryError? = some error → (∀ fallback, .ofRegistryError declarations fallback error = defect) →
    FailsIn source gates .freezing [defect]

inductive Placed (source : String) (gates : GateSet) : Defect → Prop where
  | unexpectedCharacter {c : Char} {span : Span} :
    Reads source.toList span [c] → Placed source gates (.unexpectedCharacter c span)
  | unexpectedToken {expected : Expectation} {found : TokenKind} {span : Span} :
    TokenReads source.toList ⟨found, span⟩ → found ≠ .endOfFile →
    Placed source gates (.unexpectedToken expected found span)
  | unknownMode {mode : String} {span : Span} :
    Reads source.toList span mode.toList → Placed source gates (.unknownMode mode span)
  | invalidIdentifier {name : String} {span : Span} :
    Reads source.toList span name.toList → isIdentifier name = false →
    Placed source gates (.invalidIdentifier name span)
  | duplicateEntry {declarations : List Declaration} {first second : Nat} {d d' : Declaration} :
    Declared source declarations → declarations[first]? = some d → declarations[second]? = some d' →
    d.name.text = d'.name.text → Reads source.toList d.name.span d'.name.text.toList →
    Reads source.toList d'.name.span d'.name.text.toList → d.name.span.stop < d'.name.span.start →
    Placed source gates (.duplicateEntry d'.name.text first second d.name.span d'.name.span)
  | unknownGate {earlier later : List Declaration} {d : Declaration} {clause : ModeClause} :
    Declared source (earlier ++ d :: later) → Freezes gates earlier → d.mode = some clause →
    gates.contains clause.gate.text = false → Reads source.toList clause.gate.span clause.gate.text.toList →
    clause.span.start < clause.gate.span.start → clause.gate.span.stop < clause.span.stop →
    Placed source gates (.unknownGate clause.gate.text d.name.text clause.gate.span)

theorem departure_placed {source : String} {gates : GateSet} {before : List Token} {t : Token}
    (hreads : TokenReads source.toList t) (hend : t.kind ≠ .endOfFile) :
    (departure before t).stage = .parsing ∧ Placed source gates (departure before t) := by
  obtain ⟨kind, span⟩ := t
  unfold departure
  split
  · rename_i mode _ hkind
    cases hkind
    exact ⟨rfl, .unknownMode hreads.of_word.2⟩
  · exact ⟨rfl, .unexpectedToken hreads hend⟩

theorem parsing_placed {source : String} {gates : GateSet} {tokens : List Token} {defects : List Defect}
    (hlex : lex source = .ok tokens) (hparse : parseTable tokens = .error defects) :
    defects ≠ [] ∧ ∀ defect ∈ defects, defect.stage = .parsing ∧ Placed source gates defect := by
  obtain ⟨hends, hlines⟩ := lexedLines_of_lex hlex
  obtain ⟨rfl, hne⟩ := collect_eq_error_iff.mp hparse
  refine ⟨hne, ?_⟩
  intro defect hdefect
  obtain ⟨line, hline, houtcome⟩ := exists_mem_of_forall₂ (lineOutcomes hends) (mem_errorsOf.mp hdefect)
  cases houtcome with
  | @departs _ before t hdeparts =>
    have ht : t ∈ line := hdeparts.split.subset (List.mem_append_right before List.mem_cons_self)
    exact departure_placed (hlines.reads line hline t ht) ((hlines.whole line hline).ne_endOfFile t ht)

theorem declared_reads {source : String} {declarations : List Declaration} (h : Declared source declarations) :
    (∀ d ∈ declarations, DeclarationReads source.toList d) ∧
      declarations.Pairwise fun d d' => d.name.span.stop < d'.name.span.start := by
  obtain ⟨tokens, hlex, hparse⟩ := h
  obtain ⟨hends, hlines⟩ := lexedLines_of_lex hlex
  have houtcomes := lineOutcomes hends
  rw [collect_eq_ok_iff.mp hparse, List.forall₂_map_right_iff] at houtcomes
  exact declarations_read hlines houtcomes

theorem lowering_placed {source : String} {gates : GateSet} {declarations : List Declaration} {defects : List Defect}
    (hdeclared : Declared source declarations) (hlower : lower declarations = .error defects) :
    defects ≠ [] ∧ ∀ defect ∈ defects, defect.stage = .lowering ∧ Placed source gates defect := by
  obtain ⟨rfl, hne⟩ := lower_eq_error_iff.mp hlower
  refine ⟨hne, ?_⟩
  intro defect hdefect
  obtain ⟨d, hd, hentry⟩ := List.mem_map.mp (mem_errorsOf.mp hdefect)
  have hreads := (declared_reads hdeclared).1 d hd
  obtain ⟨w, hw, hinvalid, rfl⟩ := Declaration.invalid_of_entry?_eq_error hentry
  refine ⟨rfl, .invalidIdentifier ?_ hinvalid⟩
  rcases hw with rfl | ⟨clause, hclause, rfl⟩
  · exact hreads.name
  · exact (hreads.gate clause hclause).1

theorem names_of_entries {declarations : List Declaration} {entries : List Entry}
    (h : declarations.map Declaration.entry? = entries.map .ok) :
    declarations.map (·.name.text) = entries.map (·.name.text) := by
  induction declarations generalizing entries with
  | nil =>
    obtain rfl := List.map_eq_nil_iff.mp h.symm
    rfl
  | cons d rest ih =>
    obtain ⟨e, later, rfl, he, hlater⟩ := List.map_eq_cons_iff.mp h.symm
    rw [List.map_cons, List.map_cons, ih hlater.symm, (Declaration.entry?_eq_ok_iff.mp he.symm).1]

theorem exists_failed_declaration {gates : GateSet} {declarations : List Declaration} {draft : Draft}
    {error : RegistryError} (hlower : lower declarations = .ok draft) (hfreeze : draft.freeze gates = .error error) :
    ∃ earlier d later passed e, declarations = earlier ++ d :: later ∧ Freezes gates earlier ∧
      earlier.map (·.name.text) = passed.map (·.name.text) ∧ d.entry? = .ok e ∧
      entryDefect? gates passed e = some error := by
  obtain ⟨passed, e, rest, hentries, hpassed, hdefect⟩ :=
    firstDefect?_eq_some seen_empty (Draft.freeze_eq_error_iff.mp hfreeze)
  have hmap := lower_eq_ok_iff.mp hlower
  rw [hentries, List.map_append, List.map_cons, List.map_eq_append_iff] at hmap
  obtain ⟨earlier, after, rfl, hearlier, hafter⟩ := hmap
  obtain ⟨d, later, rfl, hd, -⟩ := List.map_eq_cons_iff.mp hafter
  have hlowered : lower earlier = .ok ⟨passed⟩ := lower_eq_ok_iff.mpr hearlier
  have hfrozen : (Draft.mk passed).freeze gates = .ok ⟨passed, (firstDefect?_eq_none_iff.mp hpassed).2.1⟩ :=
    Draft.freeze_eq_ok_iff.mpr ⟨hpassed, rfl⟩
  exact ⟨earlier, d, later, passed, e, rfl, ⟨⟨passed⟩, _, hlowered, hfrozen⟩, names_of_entries hearlier, hd, hdefect⟩

theorem duplicate_placed {source : String} {gates : GateSet} {earlier later : List Declaration} {d : Declaration}
    {passed : List Entry} {e : Entry} {first : Nat} (hdeclared : Declared source (earlier ++ d :: later))
    (hnames : earlier.map (·.name.text) = passed.map (·.name.text)) (he : d.entry? = .ok e)
    (hfirst : passed.findIdx? (·.name.text == e.name.text) = some first) :
    ∃ defect, (∀ fallback, Defect.ofRegistryError (earlier ++ d :: later) fallback
        (.duplicateEntry e.name.text first passed.length) = defect) ∧
      defect.stage = .freezing ∧ Placed source gates defect := by
  obtain ⟨hreads, hordered⟩ := declared_reads hdeclared
  have hname := (Declaration.entry?_eq_ok_iff.mp he).1
  obtain ⟨hlt, hsame, -⟩ := List.findIdx?_eq_some_iff_getElem.mp hfirst
  have hlength : earlier.length = passed.length := by simpa using congrArg List.length hnames
  have hlt' : first < earlier.length := hlength ▸ hlt
  have hsameName : earlier[first].name.text = d.name.text := by
    have hat : (earlier.map (·.name.text))[first]? = (passed.map (·.name.text))[first]? := by rw [hnames]
    simp only [List.getElem?_map, List.getElem?_eq_getElem hlt, List.getElem?_eq_getElem hlt', Option.map_some,
      Option.some.injEq] at hat
    rw [hat, ← hname]
    simpa using hsame
  have hfirstAt : (earlier ++ d :: later)[first]? = some earlier[first] := by
    rw [List.getElem?_append_left hlt', List.getElem?_eq_getElem hlt']
  have hsecondAt : (earlier ++ d :: later)[passed.length]? = some d := by
    rw [← hlength, List.getElem?_append_right (Nat.le_refl _), Nat.sub_self]
    rfl
  refine ⟨.duplicateEntry d.name.text first passed.length earlier[first].name.span d.name.span, ?_, rfl, ?_⟩
  · intro fallback
    rw [Defect.ofRegistryError, Defect.nameSpan_eq fallback hfirstAt, Defect.nameSpan_eq fallback hsecondAt, hname]
  · have hmem : earlier[first] ∈ earlier := List.getElem_mem hlt'
    have hfirstReads := (hreads _ (List.mem_append_left _ hmem)).name
    rw [hsameName] at hfirstReads
    refine .duplicateEntry hdeclared hfirstAt hsecondAt hsameName hfirstReads ?_ ?_
    · exact (hreads d (List.mem_append_right _ List.mem_cons_self)).name
    · exact (List.pairwise_append.mp hordered).2.2 _ hmem d List.mem_cons_self

theorem exists_clause_of_gateName? {d : Declaration} {e : Entry} {gate : String} (he : d.entry? = .ok e)
    (hgate : e.gateName? = some gate) : ∃ clause, d.mode = some clause ∧ clause.gate.text = gate := by
  have hmode := (Declaration.entry?_eq_ok_iff.mp he).2
  unfold Declaration.mode? at hmode
  split at hmode
  · rw [Entry.gateName?, Entry.gate?, ← Except.ok.inj hmode] at hgate
    cases hgate
  · rename_i clause hclause
    obtain ⟨g, hgated, htext, -⟩ := ModeClause.mode?_eq_ok_iff.mp hmode
    rw [Entry.gateName?, Entry.gate?, hgated] at hgate
    cases hgate
    exact ⟨clause, hclause, htext.symm⟩

theorem unknownGate_placed {source : String} {gates : GateSet} {earlier later : List Declaration} {d : Declaration}
    {passed : List Entry} {e : Entry} {error : RegistryError} (hdeclared : Declared source (earlier ++ d :: later))
    (hfreezes : Freezes gates earlier) (hnames : earlier.map (·.name.text) = passed.map (·.name.text))
    (he : d.entry? = .ok e) (hnew : passed.findIdx? (·.name.text == e.name.text) = none)
    (hgate : unresolvedGate? gates e = some error) :
    ∃ defect, (∀ fallback, Defect.ofRegistryError (earlier ++ d :: later) fallback error = defect) ∧
      defect.stage = .freezing ∧ Placed source gates defect := by
  have hname := (Declaration.entry?_eq_ok_iff.mp he).1
  have hreads := (declared_reads hdeclared).1 d (List.mem_append_right _ List.mem_cons_self)
  unfold unresolvedGate? at hgate
  split at hgate
  · cases hgate
  · rename_i gate hgateName
    split at hgate
    · cases hgate
    · rename_i hmissing
      cases hgate
      obtain ⟨clause, hclause, rfl⟩ := exists_clause_of_gateName? he hgateName
      obtain ⟨hgateReads, hstart, hstop⟩ := hreads.gate clause hclause
      have hfresh : ∀ a ∈ earlier, a.name.text ≠ d.name.text := by
        intro a ha hsame
        have hmem : a.name.text ∈ passed.map (·.name.text) := hnames ▸ List.mem_map_of_mem ha
        obtain ⟨b, hb, hbname⟩ := List.mem_map.mp hmem
        have hnot := List.findIdx?_eq_none_iff.mp hnew b hb
        simp [hbname, hsame, hname] at hnot
      refine ⟨.unknownGate clause.gate.text d.name.text clause.gate.span, ?_, rfl, ?_⟩
      · intro fallback
        rw [Defect.ofRegistryError, hname, Defect.gateSpan_eq fallback hclause hfresh]
      · exact .unknownGate hdeclared hfreezes hclause (by simpa using hmissing) hgateReads hstart hstop

theorem freezing_placed {source : String} {gates : GateSet} {declarations : List Declaration} {draft : Draft}
    {error : RegistryError} (hdeclared : Declared source declarations) (hlower : lower declarations = .ok draft)
    (hfreeze : draft.freeze gates = .error error) :
    ∃ defect, (∀ fallback, Defect.ofRegistryError declarations fallback error = defect) ∧
      defect.stage = .freezing ∧ Placed source gates defect := by
  obtain ⟨earlier, d, later, passed, e, rfl, hfreezes, hnames, he, hdefect⟩ :=
    exists_failed_declaration hlower hfreeze
  unfold entryDefect? at hdefect
  split at hdefect
  · rename_i first hfirst
    cases hdefect
    exact duplicate_placed hdeclared hnames he hfirst
  · rename_i hnew
    exact unknownGate_placed hdeclared hfreezes hnames he hnew hdefect

theorem defects_point_at_text {origin source : String} {gates : GateSet} {failure : TableError}
    (h : loadTable origin source gates = .error failure) :
    failure.source = source ∧ failure.defects ≠ [] ∧ ∃ stage, FailsIn source gates stage failure.defects ∧
      ∀ defect ∈ failure.defects, defect.stage = stage ∧ Placed source gates defect := by
  obtain ⟨defects, hload, rfl⟩ := loadTable_eq_error_iff.mp h
  refine ⟨rfl, ?_⟩
  rcases loadText_eq_error_iff.mp hload with hlex | ⟨tokens, hlex, hparse | ⟨declarations, hparse,
    hlower | ⟨draft, hlower, error, hfreeze, rfl⟩⟩⟩
  · obtain ⟨hne, hstray⟩ := stray_of_lex hlex
    refine ⟨hne, .lexing, .lexing hlex, ?_⟩
    intro defect hdefect
    obtain ⟨c, span, rfl, hreads⟩ := hstray defect hdefect
    exact ⟨rfl, .unexpectedCharacter hreads⟩
  · obtain ⟨hne, hplaced⟩ := parsing_placed hlex hparse
    exact ⟨hne, .parsing, .parsing hlex hparse, hplaced⟩
  · have hdeclared : Declared source declarations := ⟨tokens, hlex, hparse⟩
    obtain ⟨hne, hplaced⟩ := lowering_placed hdeclared hlower
    exact ⟨hne, .lowering, .lowering hdeclared hlower, hplaced⟩
  · have hdeclared : Declared source declarations := ⟨tokens, hlex, hparse⟩
    obtain ⟨defect, hfallback, hstage, hplaced⟩ := @freezing_placed source gates _ _ _ hdeclared hlower hfreeze
    have hregistry : defect.registryError? = some error := by
      rw [← hfallback ⟨0, 0⟩, Defect.registryError?_ofRegistryError]
    rw [hfallback]
    refine ⟨List.cons_ne_nil _ _, .freezing, .freezing hdeclared hlower hfreeze hregistry hfallback, ?_⟩
    intro other hother
    obtain rfl := List.mem_singleton.mp hother
    exact ⟨hstage, hplaced⟩

theorem load_declaredTwice : loadTable "kinds" "A\n#é\nA" ∅ =
    .error ⟨"kinds", "A\n#é\nA", [.duplicateEntry "A" 0 1 ⟨0, 1⟩ ⟨6, 7⟩]⟩ := by
  have hlex : lex "A\n#é\nA" = .ok [⟨.word "A", ⟨0, 1⟩⟩, ⟨.newline, ⟨1, 2⟩⟩, ⟨.word "A", ⟨6, 7⟩⟩, ⟨.newline, ⟨7, 7⟩⟩,
      ⟨.endOfFile, ⟨7, 7⟩⟩] := by decide +kernel
  have hparse : parseTable [⟨.word "A", ⟨0, 1⟩⟩, ⟨.newline, ⟨1, 2⟩⟩, ⟨.word "A", ⟨6, 7⟩⟩, ⟨.newline, ⟨7, 7⟩⟩,
      ⟨.endOfFile, ⟨7, 7⟩⟩] = .ok [⟨⟨"A", ⟨0, 1⟩⟩, none, ⟨0, 1⟩⟩, ⟨⟨"A", ⟨6, 7⟩⟩, none, ⟨6, 7⟩⟩] := by decide +kernel
  have hlower : lower [⟨⟨"A", ⟨0, 1⟩⟩, none, ⟨0, 1⟩⟩, ⟨⟨"A", ⟨6, 7⟩⟩, none, ⟨6, 7⟩⟩] =
      .ok ⟨[⟨⟨"A", rfl⟩, .always⟩, ⟨⟨"A", rfl⟩, .always⟩]⟩ := rfl
  have hfreeze : (Draft.mk [⟨⟨"A", rfl⟩, .always⟩, ⟨⟨"A", rfl⟩, .always⟩]).freeze ∅ =
      .error (.duplicateEntry "A" 0 1) := by
    rw [Draft.freeze_eq_error_iff]
    simp [firstDefect?, unresolvedGate?, Entry.gateName?, Entry.gate?, Mode.gate?]
  have hload := loadText_eq_error_iff.mpr
    (.inr ⟨_, hlex, .inr ⟨_, hparse, .inr ⟨_, hlower, _, hfreeze, rfl⟩⟩⟩)
  exact loadTable_eq_error_iff.mpr ⟨_, hload, rfl⟩

theorem defects_point_at_text_declaredTwice :
    loadTable "kinds" "A\n#é\nA" ∅ = .error ⟨"kinds", "A\n#é\nA", [.duplicateEntry "A" 0 1 ⟨0, 1⟩ ⟨6, 7⟩]⟩ ∧
      ∃ stage, FailsIn "A\n#é\nA" ∅ stage [.duplicateEntry "A" 0 1 ⟨0, 1⟩ ⟨6, 7⟩] ∧
        Placed "A\n#é\nA" ∅ (.duplicateEntry "A" 0 1 ⟨0, 1⟩ ⟨6, 7⟩) := by
  obtain ⟨-, -, stage, hfails, hplaced⟩ := defects_point_at_text load_declaredTwice
  exact ⟨load_declaredTwice, stage, hfails, (hplaced _ List.mem_cons_self).2⟩

end KindTable
