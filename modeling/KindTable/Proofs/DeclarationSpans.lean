import KindTable.Proofs.DefectPlaces
import KindTable.Proofs.TokenStream

namespace KindTable

theorem Reads.isInfix {text piece part : List Char} {outer inner : Span} (h : Reads text outer piece)
    (hpart : Reads text inner part) (hstart : outer.start ≤ inner.start) (hstop : inner.stop ≤ outer.stop) :
    part <:+: piece := by
  obtain ⟨before, after, htext, rfl⟩ := h
  obtain ⟨front, back, htext', rfl⟩ := hpart
  dsimp only at hstart hstop
  obtain ⟨lead, rfl, hrest⟩ := exists_between (htext.symm.trans htext') hstart
  rw [← List.append_assoc] at hrest
  obtain ⟨trail, rfl, -⟩ := exists_between hrest.symm (by simp only [utf8Length_append] at hstop ⊢; omega)
  exact ⟨lead, trail, rfl⟩

theorem Reads.joined {text first second : List Char} {s t : Span} (h : Reads text s first) (h' : Reads text t second)
    (hle : s.stop ≤ t.start) :
    ∃ gap, Reads text ⟨s.stop, t.start⟩ gap ∧ Reads text ⟨s.start, t.stop⟩ (first ++ (gap ++ second)) := by
  obtain ⟨before, after, htext, rfl⟩ := h
  obtain ⟨front, back, htext', rfl⟩ := h'
  dsimp only at hle
  rw [← List.append_assoc] at htext
  rw [← utf8Length_append] at hle
  obtain ⟨gap, rfl, -⟩ := exists_between (htext.symm.trans htext') hle
  refine ⟨gap, ⟨before ++ first, second ++ back, ?_, ?_⟩, ⟨before, back, ?_, ?_⟩⟩
  · rw [htext', List.append_assoc _ gap]
  · simp [Nat.add_assoc]
  · simp [htext']
  · simp [Nat.add_assoc]

def Span.Forward (s : Span) : Prop := s.start ≤ s.stop ∧ s.start + s.length = s.stop

theorem Span.forward_of_le {s : Span} (h : s.start ≤ s.stop) : s.Forward := ⟨h, Nat.add_sub_of_le h⟩

theorem Reads.forward {text piece : List Char} {span : Span} (h : Reads text span piece) : span.Forward :=
  Span.forward_of_le h.start_le

def OnOneLine (text : List Char) (line : List Token) : Prop :=
  ∃ span piece, Reads text span piece ∧ '\n' ∉ piece ∧
    ∀ t ∈ line, t.kind.closesLine = false → span.start ≤ t.span.start ∧ t.span.stop ≤ span.stop

theorem LineStream.onOneLine {before line after : List Char} {next : Nat} {tokens : List Token} (hfeed : '\n' ∉ line)
    (h : LineStream (utf8Length before) (utf8Length before + utf8Length line) next tokens) :
    OnOneLine (before ++ (line ++ after)) tokens := by
  refine ⟨_, line, reads_at before after line, hfeed, ?_⟩
  cases h with
  | blank => simp
  | closed hne hopen hinside =>
    intro t ht htopen
    rcases List.mem_append.mp ht with ht | ht
    · exact hinside t ht
    · obtain rfl := List.mem_singleton.mp ht
      cases htopen

theorem LinesStream.onOneLine {offset : Nat} {before : List Char} {pieces : List (List Char)}
    {lines : List (List Token)} (h : LinesStream offset pieces lines) (hoffset : offset = utf8Length before)
    (hfeed : ∀ piece ∈ pieces, '\n' ∉ piece) :
    ∀ line ∈ lines, OnOneLine (before ++ ['\n'].intercalate pieces) line := by
  induction h generalizing before with
  | @last offset line tokens hline =>
    subst hoffset
    rw [List.forall_mem_singleton]
    have hon : OnOneLine (before ++ (line ++ [])) tokens := hline.onOneLine (hfeed line List.mem_cons_self)
    simpa using hon
  | @cons offset line tokens rest later hline hlater ih =>
    subst hoffset
    obtain ⟨hline', hrest⟩ := List.forall_mem_cons.mp hfeed
    obtain ⟨following, others, rfl⟩ : ∃ following others, rest = following :: others := by
      cases hlater <;> exact ⟨_, _, rfl⟩
    rw [List.intercalate_cons_cons]
    refine List.forall_mem_cons.mpr ⟨?_, ?_⟩
    · rw [List.append_assoc]
      exact hline.onOneLine hline'
    · have hpassed : utf8Length before + utf8Length line + 1 = utf8Length (before ++ (line ++ ['\n'])) := by
        rw [utf8Length_append, utf8Length_append, Nat.add_assoc]
        rfl
      have hon := ih hpassed hrest
      simpa using hon

theorem onOneLine_of_lex {source : String} {tokens : List Token} (h : lex source = .ok tokens) :
    ∀ line ∈ closedLines tokens, OnOneLine source.toList line ∧ line <:+: tokens := by
  obtain ⟨lines, hlines, rfl⟩ := exists_linesStream_of_lex h
  have hon : ∀ line ∈ lines, OnOneLine (['\n'].intercalate (source.toList.splitOn '\n')) line :=
    @LinesStream.onOneLine 0 [] _ _ hlines rfl not_mem_of_mem_splitOn
  rw [List.intercalate_splitOn] at hon
  rw [closedLines_flatten rfl hlines.whole]
  intro line hline
  have hmem := (List.mem_filter.mp hline).1
  refine ⟨hon line hmem, .trans ?_ (List.prefix_append _ _).isInfix⟩
  obtain ⟨earlier, later, rfl⟩ := List.append_of_mem hmem
  exact ⟨earlier.flatten, later.flatten, by simp⟩

theorem OnOneLine.not_mem {text piece : List Char} {line : List Token} {t u : Token} (h : OnOneLine text line)
    (ht : t ∈ line) (hu : u ∈ line) (htopen : t.kind.closesLine = false) (huopen : u.kind.closesLine = false)
    (hreads : Reads text ⟨t.span.start, u.span.stop⟩ piece) : '\n' ∉ piece := by
  obtain ⟨span, whole, hwhole, hfeed, hinside⟩ := h
  have hwithin := hwhole.isInfix hreads (hinside t ht htopen).1 (hinside u hu huopen).2
  exact fun hmem => hfeed (hwithin.subset hmem)

namespace Declaration

def nameToken (d : Declaration) : Token := ⟨.word d.name.text, d.name.span⟩

def lastSpan (d : Declaration) : Span :=
  match d.mode with
  | none => d.name.span
  | some clause => clause.span

def spans (d : Declaration) : List Span :=
  d.span :: d.name.span ::
    match d.mode with
    | none => []
    | some clause => [clause.span, clause.gate.span]

end Declaration

structure DeclarationSpans (text : List Char) (tokens : List Token) (d : Declaration) : Prop where
  name : Reads text d.name.span d.name.text.toList
  clause : ∀ clause, d.mode = some clause → ∃ keyword opening closing,
    d.nameToken :: clause.tokens keyword opening closing <:+: tokens ∧ ClauseSpans text clause keyword opening closing
  start : d.span.start = d.name.span.start
  stop : d.span.stop = d.lastSpan.stop
  oneLine : ∃ piece, Reads text d.span piece ∧ '\n' ∉ piece
  forward : ∀ span ∈ d.spans, span.Forward

section

variable {text : List Char} {clause : ModeClause} {keyword opening closing : Span}

theorem ClauseSpans.start_le (h : ClauseSpans text clause keyword opening closing) :
    clause.span.start ≤ closing.start := by
  have hkeyword := h.readsKeyword.start_le
  have hopening := h.readsOpening.start_le
  have hgate := h.readsGate.start_le
  obtain ⟨hfirst, hsecond, hthird⟩ := h.ordered
  rw [h.whole]
  dsimp only
  omega

theorem ClauseSpans.forward (h : ClauseSpans text clause keyword opening closing) : clause.span.Forward := by
  apply Span.forward_of_le
  calc clause.span.start
    _ ≤ closing.start := h.start_le
    _ ≤ closing.stop := h.readsClosing.start_le
    _ = clause.span.stop := by rw [h.whole]

-- The merged span is the stretch from the name to the closing parenthesis only because the clause is behind the name.
theorem declarationSpans_of_clause {tokens : List Token} {d : Declaration}
    (hspans : ClauseSpans text clause keyword opening closing)
    (hname : Reads text d.name.span d.name.text.toList) (hmode : d.mode = some clause)
    (hspan : d.span = d.name.span.merge clause.span) (hbehind : d.name.span.stop ≤ clause.span.start)
    (htokens : d.nameToken :: clause.tokens keyword opening closing <:+: tokens)
    (hfeed : ∀ piece, Reads text ⟨d.name.span.start, closing.stop⟩ piece → '\n' ∉ piece) :
    DeclarationSpans text tokens d := by
  obtain ⟨gap, -, hjoined⟩ := hname.joined hspans.readsClosing (hbehind.trans hspans.start_le)
  have hwhole : d.span = ⟨d.name.span.start, closing.stop⟩ := by
    rw [hspan, Span.merge_of_le (hname.start_le.trans hbehind) (hbehind.trans hspans.forward.1), hspans.whole]
  constructor
  case name => exact hname
  case clause =>
    intro other hother
    rw [hmode] at hother
    cases hother
    exact ⟨keyword, opening, closing, htokens, hspans⟩
  case start => rw [hwhole]
  case stop =>
    rw [hwhole, Declaration.lastSpan, hmode]
    dsimp only
    rw [hspans.whole]
  case oneLine =>
    rw [hwhole]
    exact ⟨_, hjoined, hfeed _ hjoined⟩
  case forward =>
    rw [Declaration.spans, hmode, hwhole]
    simp only [List.forall_mem_cons]
    exact ⟨hjoined.forward, hname.forward, hspans.forward, hspans.readsGate.forward, by simp⟩

end

theorem declarationSpans_of_outcome {text : List Char} {tokens line : List Token} {d : Declaration}
    (hreads : ∀ t ∈ line, TokenReads text t) (hordered : line.Pairwise fun t u => t.span.stop ≤ u.span.start)
    (hline : OnOneLine text line) (hwithin : line <:+: tokens) (h : LineOutcome line (.ok d)) :
    DeclarationSpans text tokens d := by
  have hmem := name_mem_of_outcome h
  have hname := (hreads _ hmem).of_word.2
  cases h with
  | plain name close hclose =>
    constructor
    case name => exact hname
    case clause => exact fun clause hclause => nomatch hclause
    case start => rfl
    case stop => rfl
    case oneLine => exact ⟨_, hname, hline.not_mem hmem hmem rfl rfl hname⟩
    case forward =>
      simp only [Declaration.spans, List.forall_mem_cons]
      exact ⟨hname.forward, hname.forward, by simp⟩
  | gated name gate kind keyword opening closing close hclose =>
    let clause : ModeClause := ⟨kind, gate, keyword.merge closing⟩
    have hspans : ClauseSpans text clause keyword opening closing := clauseSpans_of_line hreads hordered rfl
    have hbehind : name.span.stop ≤ clause.span.start := by
      rw [hspans.whole]
      exact (List.pairwise_cons.mp hordered).1 ⟨.word kind.keyword, keyword⟩ List.mem_cons_self
    have hclosing : (⟨.closeParen, closing⟩ : Token) ∈
        ⟨.word name.text, name.span⟩ :: (clause.tokens keyword opening closing ++ [close]) := by
      simp [ModeClause.tokens]
    apply declarationSpans_of_clause hspans hname rfl rfl hbehind
    · exact .trans ⟨[], [close], rfl⟩ hwithin
    · exact fun piece hpiece => hline.not_mem hmem hclosing rfl rfl hpiece

theorem stop_le_of_outcome {line : List Token} {d : Declaration} {bound : Nat} (h : LineOutcome line (.ok d))
    (hbound : ∀ t ∈ line, t.kind.closesLine = false → t.span.stop ≤ bound) : d.span.stop ≤ bound := by
  cases h with
  | plain name close hclose => exact hbound _ List.mem_cons_self rfl
  | gated name gate kind keyword opening closing close hclose =>
    have hname := hbound ⟨.word name.text, name.span⟩ (by simp) rfl
    have hkeyword := hbound ⟨.word kind.keyword, keyword⟩ (by simp) rfl
    have hclosing := hbound ⟨.closeParen, closing⟩ (by simp) rfl
    exact Nat.max_le.mpr ⟨hname, Nat.max_le.mpr ⟨hkeyword, hclosing⟩⟩

def Separated (text : List Char) (first second : Span) : Prop :=
  first.stop < second.start ∧ ∃ gap, Reads text ⟨first.stop, second.start⟩ gap ∧ '\n' ∈ gap

theorem separated_of_feed {text piece other : List Char} {first second feed : Span} (h : Reads text first piece)
    (h' : Reads text second other) (hfeed : Reads text feed ['\n']) (hbefore : first.stop ≤ feed.start)
    (hafter : feed.stop ≤ second.start) : Separated text first second := by
  have hwide := hfeed.start_lt (List.cons_ne_nil _ _)
  have hlt : first.stop < second.start := by omega
  obtain ⟨gap, hgap, -⟩ := h.joined h' (Nat.le_of_lt hlt)
  have hwithin := hgap.isInfix hfeed hbefore hafter
  exact ⟨hlt, gap, hgap, hwithin.subset List.mem_cons_self⟩

theorem separated_of_outcomes {text : List Char} {tokens line line' : List Token} {d d' : Declaration}
    (hfeed : FeedBetween text line line') (h : LineOutcome line (.ok d)) (h' : LineOutcome line' (.ok d'))
    (hspans : DeclarationSpans text tokens d) (hspans' : DeclarationSpans text tokens d') :
    Separated text d.span d'.span := by
  obtain ⟨feed, hreads, hbefore, hafter⟩ := hfeed _ (name_mem_of_outcome h') rfl
  obtain ⟨piece, hpiece, -⟩ := hspans.oneLine
  obtain ⟨piece', hpiece', -⟩ := hspans'.oneLine
  refine separated_of_feed hpiece hpiece' hreads (stop_le_of_outcome h hbefore) ?_
  rw [hspans'.start]
  exact hafter

theorem declarationSpans_of_lines {text : List Char} {tokens : List Token} {lines : List (List Token)}
    {declarations : List Declaration} (hlines : LexedLines text lines)
    (hon : ∀ line ∈ lines, OnOneLine text line ∧ line <:+: tokens)
    (h : List.Forall₂ (fun line d => LineOutcome line (.ok d)) lines declarations) :
    (∀ d ∈ declarations, DeclarationSpans text tokens d) ∧
      declarations.Pairwise fun d d' => Separated text d.span d'.span := by
  have hspans : ∀ d ∈ declarations, DeclarationSpans text tokens d := by
    intro d hd
    obtain ⟨line, hline, houtcome⟩ := exists_mem_of_forall₂ h hd
    obtain ⟨honline, hwithin⟩ := hon line hline
    exact declarationSpans_of_outcome (hlines.reads line hline) (hlines.line_ordered line hline) honline hwithin
      houtcome
  have hpairs : declarations.Pairwise fun d d' => DeclarationSpans text tokens d → DeclarationSpans text tokens d' →
      Separated text d.span d'.span := pairwise_of_forall₂ h hlines.feeds separated_of_outcomes
  exact ⟨hspans, hpairs.imp_of_mem fun hd hd' hseparated => hseparated (hspans _ hd) (hspans _ hd')⟩

theorem spans_faithful {source : String} {tokens : List Token} {declarations : List Declaration}
    (hlex : lex source = .ok tokens) (hparse : parseTable tokens = .ok declarations) :
    (∀ d ∈ declarations, DeclarationSpans source.toList tokens d) ∧
      declarations.Pairwise fun d d' => Separated source.toList d.span d'.span := by
  obtain ⟨hends, hlines⟩ := lexedLines_of_lex hlex
  have houtcomes := lineOutcomes hends
  rw [collect_eq_ok_iff.mp hparse, List.forall₂_map_right_iff] at houtcomes
  exact declarationSpans_of_lines hlines (onOneLine_of_lex hlex) houtcomes

theorem spans_faithful_spreadClause :
    lex "# é\nA if ( g )# x\n\nB" = .ok [⟨.word "A", ⟨5, 6⟩⟩, ⟨.word "if", ⟨7, 9⟩⟩, ⟨.openParen, ⟨10, 11⟩⟩,
        ⟨.word "g", ⟨12, 13⟩⟩, ⟨.closeParen, ⟨14, 15⟩⟩, ⟨.newline, ⟨18, 19⟩⟩, ⟨.word "B", ⟨20, 21⟩⟩,
        ⟨.newline, ⟨21, 21⟩⟩, ⟨.endOfFile, ⟨21, 21⟩⟩] ∧
      (∀ d ∈ ([⟨⟨"A", ⟨5, 6⟩⟩, some ⟨.hard, ⟨"g", ⟨12, 13⟩⟩, ⟨7, 15⟩⟩, ⟨5, 15⟩⟩,
          ⟨⟨"B", ⟨20, 21⟩⟩, none, ⟨20, 21⟩⟩] : List Declaration),
        DeclarationSpans "# é\nA if ( g )# x\n\nB".toList [⟨.word "A", ⟨5, 6⟩⟩, ⟨.word "if", ⟨7, 9⟩⟩,
          ⟨.openParen, ⟨10, 11⟩⟩, ⟨.word "g", ⟨12, 13⟩⟩, ⟨.closeParen, ⟨14, 15⟩⟩, ⟨.newline, ⟨18, 19⟩⟩,
          ⟨.word "B", ⟨20, 21⟩⟩, ⟨.newline, ⟨21, 21⟩⟩, ⟨.endOfFile, ⟨21, 21⟩⟩] d) ∧
      Separated "# é\nA if ( g )# x\n\nB".toList ⟨5, 15⟩ ⟨20, 21⟩ := by
  have hlex : lex "# é\nA if ( g )# x\n\nB" = .ok [⟨.word "A", ⟨5, 6⟩⟩, ⟨.word "if", ⟨7, 9⟩⟩,
      ⟨.openParen, ⟨10, 11⟩⟩, ⟨.word "g", ⟨12, 13⟩⟩, ⟨.closeParen, ⟨14, 15⟩⟩, ⟨.newline, ⟨18, 19⟩⟩,
      ⟨.word "B", ⟨20, 21⟩⟩, ⟨.newline, ⟨21, 21⟩⟩, ⟨.endOfFile, ⟨21, 21⟩⟩] := by decide +kernel
  have hparse : parseTable [⟨.word "A", ⟨5, 6⟩⟩, ⟨.word "if", ⟨7, 9⟩⟩, ⟨.openParen, ⟨10, 11⟩⟩, ⟨.word "g", ⟨12, 13⟩⟩,
      ⟨.closeParen, ⟨14, 15⟩⟩, ⟨.newline, ⟨18, 19⟩⟩, ⟨.word "B", ⟨20, 21⟩⟩, ⟨.newline, ⟨21, 21⟩⟩,
      ⟨.endOfFile, ⟨21, 21⟩⟩] = .ok [⟨⟨"A", ⟨5, 6⟩⟩, some ⟨.hard, ⟨"g", ⟨12, 13⟩⟩, ⟨7, 15⟩⟩, ⟨5, 15⟩⟩,
      ⟨⟨"B", ⟨20, 21⟩⟩, none, ⟨20, 21⟩⟩] := by decide +kernel
  obtain ⟨hspans, hseparated⟩ := spans_faithful hlex hparse
  exact ⟨hlex, hspans, (List.pairwise_cons.mp hseparated).1 _ List.mem_cons_self⟩

end KindTable
