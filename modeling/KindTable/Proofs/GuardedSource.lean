import KindTable.Guarded.Source
import KindTable.Proofs.DefectPlaces

namespace KindTable

theorem TokenReads.start_le {text : List Char} {t : Token} (h : TokenReads text t) : t.span.start ≤ t.span.stop := by
  cases h with
  | word _ hreads => exact hreads.start_le
  | openParen hreads => exact hreads.start_le
  | closeParen hreads => exact hreads.start_le
  | newline hreads => exact hreads.start_le
  | cutShort hreads _ => exact hreads.start_le
  | endOfFile hreads _ => exact hreads.start_le

namespace Guarded

theorem sliceBytes?_eq_some_iff {text piece : List Char} {span : Span} :
    sliceBytes? text span = some piece ↔ Reads text span piece := by
  rw [sliceBytes?]
  constructor
  · intro h
    split at h
    · rename_i hforward
      obtain ⟨⟨before, behind⟩, hbefore, hpiece⟩ := Option.bind_eq_some_iff.mp h
      obtain ⟨⟨cut, after⟩, hcut, rfl⟩ := Option.map_eq_some_iff.mp hpiece
      obtain ⟨rfl, hstart⟩ := splitBytes?_eq_some_iff.mp hbefore
      obtain ⟨rfl, hlength⟩ := splitBytes?_eq_some_iff.mp hcut
      refine ⟨before, after, rfl, ?_⟩
      obtain ⟨start, stop⟩ := span
      simp only [Span.length, Span.mk.injEq] at *
      omega
    · cases h
  · intro h
    have hforward := h.start_le
    have hlength : span.length = utf8Length piece := by rw [Span.length, h.stop_eq, Nat.add_sub_cancel_left]
    obtain ⟨before, after, rfl, rfl⟩ := h
    have hbefore : splitBytes? (utf8Length before) (before ++ (piece ++ after)) = some (before, piece ++ after) :=
      splitBytes?_eq_some_iff.mpr ⟨rfl, rfl⟩
    have hpiece : splitBytes? (Span.length ⟨utf8Length before, utf8Length before + utf8Length piece⟩) (piece ++ after) =
        some (piece, after) := splitBytes?_eq_some_iff.mpr ⟨rfl, hlength⟩
    simp only [if_pos hforward, hbefore, Option.bind_some, hpiece, Option.map_some]

theorem slice_eq_ok_iff {text piece : List Char} {span : Span} :
    slice text span = .ok piece ↔ Reads text span piece := by
  rw [← sliceBytes?_eq_some_iff, slice]
  cases sliceBytes? text span <;> simp

theorem measure_placed {source : String} {gates : GateSet} {defect : Defect} (h : Placed source gates defect) :
    measure defect = .ok defect := by
  apply measure_eq
  cases h with
  | unexpectedCharacter hreads => simpa [Defect.labels] using hreads.start_le
  | unexpectedToken hreads _ => simpa [Defect.labels] using hreads.start_le
  | unknownMode hreads => simpa [Defect.labels] using hreads.start_le
  | invalidIdentifier hreads _ => simpa [Defect.labels] using hreads.start_le
  | duplicateEntry _ _ _ _ hfirst hsecond _ => simpa [Defect.labels] using ⟨hfirst.start_le, hsecond.start_le⟩
  | unknownGate _ _ _ _ hreads _ _ => simpa [Defect.labels] using hreads.start_le

theorem readLexeme_eq {text : List Char} {l : Lexeme} (h : l.Reads text) : readLexeme text l = .ok l.toExcept := by
  cases l with
  | stray c span =>
    have hmeasured : measure (.unexpectedCharacter c span) = .ok (.unexpectedCharacter c span) :=
      measure_eq (by simpa [Defect.labels] using KindTable.Reads.start_le h)
    rw [readLexeme, hmeasured]
    rfl
  | token t =>
    obtain ⟨kind, span⟩ := t
    cases kind with
    | word word =>
      rw [readLexeme, slice_eq_ok_iff.mpr (TokenReads.of_word h).2]
      change Except.ok (Except.ok (Token.mk (.word (.ofList word.toList)) span)) = _
      rw [String.ofList_toList]
      rfl
    | _ => rfl

theorem lex_eq (source : String) : lex source = settled (KindTable.lex source) := by
  have hlexemes : (lexFrom 0 false source.toList).mapM (readLexeme source.toList) =
      .ok ((lexFrom 0 false source.toList).map Lexeme.toExcept) :=
    mapM_eq_ok fun l hl => readLexeme_eq (@lexFrom_reads 0 false source.toList [] rfl l hl)
  rw [lex, hlexemes]
  rfl

theorem bind_of_ok {α β : Type} {w : Walk α} {f : α → Walk β} {position next : Nat} {a : α}
    (h : w position = .ok a next) : (w >>= f) position = f a next := by
  change EStateM.bind w f position = _
  rw [EStateM.bind, h]

theorem refuse_eq {α : Type} {defect : Defect} {position : Nat}
    (h : ∀ label ∈ defect.labels, label.span.start ≤ label.span.stop) :
    (refuse defect : Walk α) position = .error (.defect defect) position := by
  rw [refuse, measure_eq h]
  rfl

inductive Mirrored (tokens : List Token) {α : Type} :
    EStateM.Result Halt Nat α → EStateM.Result Defect (List Token) α → Prop where
  | ok {a : α} {next : Nat} : HasEnd (tokens.drop next) → Mirrored tokens (.ok a next) (.ok a (tokens.drop next))
  | defect {defect : Defect} {next : Nat} : HasEnd (tokens.drop next) →
    Mirrored tokens (.error (.defect defect) next) (.error defect (tokens.drop next))

def Mirrors (tokens : List Token) {α : Type} (w : Walk α) (r : Reader α) : Prop :=
  ∀ position, HasEnd (tokens.drop position) → Mirrored tokens (w position) (r (tokens.drop position))

theorem Mirrors.pure {tokens : List Token} {α : Type} (a : α) : Mirrors tokens (Pure.pure a) (Pure.pure a) :=
  fun _ hends => .ok hends

theorem Mirrors.bind {tokens : List Token} {α β : Type} {w : Walk α} {r : Reader α} {f : α → Walk β} {g : α → Reader β}
    (hfirst : Mirrors tokens w r) (hlater : ∀ a, Mirrors tokens (f a) (g a)) : Mirrors tokens (w >>= f) (r >>= g) := by
  intro position hends
  have hresult := hfirst position hends
  change Mirrored tokens (EStateM.bind w f position) (EStateM.bind r g (tokens.drop position))
  unfold EStateM.bind
  cases hwalk : w position <;> cases hread : r (tokens.drop position) <;> rw [hwalk, hread] at hresult
  all_goals cases hresult
  case ok.ok.ok hnext => exact hlater _ _ hnext
  case error.error.defect hnext => exact .defect hnext

theorem Mirrors.map {tokens : List Token} {α β : Type} {w : Walk α} {r : Reader α} (f : α → β)
    (h : Mirrors tokens w r) : Mirrors tokens (f <$> w) (f <$> r) := by
  intro position hends
  have hresult := h position hends
  change Mirrored tokens (EStateM.map f w position) (EStateM.map f r (tokens.drop position))
  unfold EStateM.map
  cases hwalk : w position <;> cases hread : r (tokens.drop position) <;> rw [hwalk, hread] at hresult
  all_goals cases hresult
  case ok.ok.ok hnext => exact .ok hnext
  case error.error.defect hnext => exact .defect hnext

structure StandsOn (tokens : List Token) (position : Nat) (t : Token) : Prop where
  split : tokens.drop position = t :: tokens.drop (position + 1)
  ends : HasEnd (tokens.drop position)
  peeked : peekAt tokens position = .ok t
  forward : t.span.start ≤ t.span.stop

namespace StandsOn

variable {tokens : List Token} {position : Nat} {t : Token}

theorem later (h : StandsOn tokens position t) (ht : t.kind ≠ .endOfFile) : HasEnd (tokens.drop (position + 1)) := by
  have hends := h.ends
  rw [h.split] at hends
  exact hends.tail ht

theorem peek_eq (h : StandsOn tokens position t) : peek tokens position = .ok t position := by
  change Walk.ofGuarded (peekAt tokens position) position = _
  rw [h.peeked]
  rfl

theorem isAtEnd_eq (h : StandsOn tokens position t) : isAtEnd tokens position = .ok (decide (t.kind = .endOfFile)) := by
  have hsome : tokens.isEmpty = false := by
    rw [List.isEmpty_eq_false_iff]
    rintro rfl
    have hnone := h.split
    rw [List.drop_nil] at hnone
    cases hnone
  rw [isAtEnd, hsome, h.peeked]
  rfl

theorem unexpected (h : StandsOn tokens position t) {α : Type} (expected : Expectation) :
    Mirrored tokens (α := α) (Guarded.unexpected tokens expected position)
      (.error (KindTable.unexpected expected (t :: tokens.drop (position + 1))) (t :: tokens.drop (position + 1))) := by
  have hrefused : (refuse (.unexpectedToken expected t.kind t.span) : Walk α) position =
      .error (.defect (.unexpectedToken expected t.kind t.span)) position :=
    refuse_eq (by simpa [Defect.labels] using h.forward)
  rw [Guarded.unexpected, bind_of_ok h.peek_eq, hrefused, ← h.split]
  have hdefect : KindTable.unexpected expected (tokens.drop position) = .unexpectedToken expected t.kind t.span := by
    rw [h.split]
    rfl
  rw [hdefect]
  exact .defect h.ends

end StandsOn

section

variable {tokens : List Token} (hforward : ∀ t ∈ tokens, t.span.start ≤ t.span.stop)

include hforward

theorem exists_standsOn {position : Nat} (hends : HasEnd (tokens.drop position)) : ∃ t, StandsOn tokens position t := by
  obtain ⟨t, rest, hsplit⟩ := hends.exists_cons
  have hget : tokens[position]? = some t := by
    rw [← Nat.add_zero position, ← List.getElem?_drop, hsplit]
    rfl
  have hrest : rest = tokens.drop (position + 1) := by rw [← List.tail_drop, hsplit, List.tail_cons]
  have hlt : position < tokens.length := (List.getElem?_eq_some_iff.mp hget).1
  refine ⟨t, hrest ▸ hsplit, hends, ?_, hforward t (List.mem_of_getElem? hget)⟩
  rw [peekAt, Nat.min_eq_left (Nat.le_sub_one_of_lt hlt)]
  exact index_eq hget

theorem mirrors_takeWord (expected : Expectation) :
    Mirrors tokens (takeWord tokens expected) (KindTable.takeWord expected) := by
  intro position hends
  obtain ⟨⟨kind, span⟩, ht⟩ := exists_standsOn hforward hends
  rw [takeWord, bind_of_ok ht.peek_eq, ht.split]
  cases kind with
  | word text => exact .ok (ht.later (by simp))
  | _ => exact ht.unexpected expected

theorem mirrors_takeKind {kind : TokenKind} (expected : Expectation) (hkind : kind ≠ .endOfFile) :
    Mirrors tokens (takeKind tokens kind expected) (KindTable.takeKind kind expected) := by
  intro position hends
  obtain ⟨t, ht⟩ := exists_standsOn hforward hends
  rw [takeKind, bind_of_ok ht.peek_eq, ht.split, KindTable.takeKind]
  split
  · rename_i hsame
    exact .ok (ht.later (hsame ▸ hkind))
  · exact ht.unexpected expected

theorem mirrors_takeEndOfLine : Mirrors tokens (takeEndOfLine tokens) KindTable.takeEndOfLine := by
  intro position hends
  obtain ⟨⟨kind, span⟩, ht⟩ := exists_standsOn hforward hends
  rw [takeEndOfLine, bind_of_ok ht.peek_eq]
  cases kind with
  | newline =>
    rw [ht.split]
    exact .ok (ht.later (by simp))
  | endOfFile =>
    have hread : KindTable.takeEndOfLine (tokens.drop position) = .ok () (tokens.drop position) := by
      rw [ht.split]
      rfl
    rw [hread]
    exact .ok hends
  | _ =>
    rw [ht.split]
    exact ht.unexpected .endOfLine

theorem mirrors_takeClause (kind : GateKind) (keyword : Span) :
    Mirrors tokens (takeClause tokens kind keyword) (KindTable.takeClause kind keyword) := by
  apply (mirrors_takeKind hforward _ (by simp)).bind
  intro opening
  apply (mirrors_takeWord hforward _).bind
  intro gate
  apply (mirrors_takeKind hforward _ (by simp)).bind
  intro close
  exact .pure _

theorem mirrors_takeModeOf (keyword : String) {span : Span} (hspan : span.start ≤ span.stop) :
    Mirrors tokens (takeModeOf tokens keyword span) (match GateKind.ofKeyword? keyword with
      | none => throw (.unknownMode keyword span)
      | some kind => KindTable.takeClause kind span) := by
  intro position hends
  unfold takeModeOf
  cases GateKind.ofKeyword? keyword with
  | none =>
    have hlabels : ∀ label ∈ (Defect.unknownMode keyword span).labels, label.span.start ≤ label.span.stop := by
      simpa [Defect.labels] using hspan
    simp only [refuse_eq hlabels]
    exact .defect hends
  | some kind => exact mirrors_takeClause hforward kind span position hends

theorem mirrors_takeMode : Mirrors tokens (takeMode tokens) KindTable.takeMode := by
  intro position hends
  obtain ⟨⟨kind, span⟩, ht⟩ := exists_standsOn hforward hends
  rw [takeMode, bind_of_ok ht.peek_eq]
  cases kind with
  | word text =>
    have hmode := (mirrors_takeModeOf hforward text ht.forward).map some _ (ht.later (by simp))
    rw [ht.split, KindTable.takeMode]
    cases hkeyword : GateKind.ofKeyword? text <;> rw [hkeyword] at hmode <;> exact hmode
  | _ =>
    have hread : KindTable.takeMode (tokens.drop position) = .ok none (tokens.drop position) := by
      rw [ht.split]
      rfl
    rw [hread]
    exact .ok hends

theorem mirrors_takeDeclaration : Mirrors tokens (takeDeclaration tokens) KindTable.takeDeclaration := by
  apply (mirrors_takeWord hforward _).bind
  intro name
  apply (mirrors_takeMode hforward).bind
  intro mode
  apply (mirrors_takeEndOfLine hforward).bind
  intro ended
  exact .pure _

theorem skipLine_eq (rounds : Nat) {position : Nat} (hends : HasEnd (tokens.drop position))
    (hrounds : (tokens.drop position).length ≤ rounds) :
    ∃ next, skipLine tokens rounds position = .ok next ∧ HasEnd (tokens.drop next) ∧
      KindTable.skipLine (tokens.drop position) = tokens.drop next := by
  induction rounds generalizing position with
  | zero =>
    obtain ⟨t, rest, hsplit⟩ := hends.exists_cons
    simp [hsplit] at hrounds
  | succ rounds ih =>
    obtain ⟨⟨kind, span⟩, ht⟩ := exists_standsOn hforward hends
    have hlength : (tokens.drop (position + 1)).length ≤ rounds := by
      rw [ht.split, List.length_cons] at hrounds
      exact Nat.le_of_succ_le_succ hrounds
    simp only [skipLine, ht.isAtEnd_eq, ht.peeked, ht.split, KindTable.skipLine]
    cases kind with
    | endOfFile => exact ⟨position, rfl, hends, ht.split.symm⟩
    | newline => exact ⟨position + 1, rfl, ht.later (by simp), rfl⟩
    | _ => exact ih (ht.later (by simp)) hlength

theorem readLine_eq {position : Nat} (hends : HasEnd (tokens.drop position)) :
    ∃ next, readLine tokens position = .ok (verdict (KindTable.takeDeclaration (tokens.drop position)), next) ∧
      HasEnd (tokens.drop next) ∧ resumeAt (KindTable.takeDeclaration (tokens.drop position)) = tokens.drop next := by
  have hread := mirrors_takeDeclaration hforward position hends
  rw [readLine]
  cases hwalk : takeDeclaration tokens position <;>
    cases hplain : KindTable.takeDeclaration (tokens.drop position) <;> rw [hwalk, hplain] at hread
  all_goals cases hread
  case ok.ok.ok d next hnext => exact ⟨next, rfl, hnext, rfl⟩
  case error.error.defect left defect hleft =>
    obtain ⟨next, hskip, hnext, hline⟩ := skipLine_eq hforward tokens.length hleft (by simp)
    simp only [hskip]
    exact ⟨next, rfl, hnext, hline⟩

theorem outcomes_eq (rounds : Nat) {position : Nat} (hends : HasEnd (tokens.drop position))
    (hrounds : (tokens.drop position).length ≤ rounds) :
    outcomes tokens rounds position = .ok (KindTable.outcomes (tokens.drop position)) := by
  induction rounds generalizing position with
  | zero =>
    obtain ⟨t, rest, hsplit⟩ := hends.exists_cons
    simp [hsplit] at hrounds
  | succ rounds ih =>
    obtain ⟨t, ht⟩ := exists_standsOn hforward hends
    rw [outcomes, ht.isAtEnd_eq, ht.split, KindTable.outcomes]
    by_cases hend : t.kind = .endOfFile
    · rw [dif_pos hend, hend]
      rfl
    · have hshorter := @length_resumeAt_lt t (tokens.drop (position + 1)) hend
      rw [← ht.split] at hshorter
      obtain ⟨next, hline, hnext, hresume⟩ := readLine_eq hforward hends
      rw [hresume] at hshorter
      have hlater := ih hnext (Nat.le_of_lt_succ (Nat.lt_of_lt_of_le hshorter hrounds))
      rw [dif_neg hend, ← ht.split, decide_eq_false hend]
      simp only [hline, ok_bind, hlater, hresume]
      rfl

theorem parseTable_eq (hends : HasEnd tokens) : parseTable tokens = settled (KindTable.parseTable tokens) := by
  have hdrop : tokens.drop 0 = tokens := rfl
  rw [parseTable, outcomes_eq hforward (tokens.length + 1) (hdrop.symm ▸ hends) (by simp)]
  rfl

end

theorem enterAll_eq {table declarations : List Declaration} {draft : Draft}
    (h : ∀ defect ∈ (KindTable.enterAll table declarations draft).1, measure defect = .ok defect) :
    enterAll table declarations draft = .ok (KindTable.enterAll table declarations draft) := by
  induction declarations generalizing draft with
  | nil => rfl
  | cons d rest ih =>
    rw [KindTable.enterAll] at h
    rw [enterAll, KindTable.enterAll]
    cases hentered : d.enter table draft with
    | ok entered changed =>
      rw [hentered] at h
      exact ih h
    | error defect left =>
      rw [hentered] at h
      obtain ⟨hdefect, hrest⟩ := List.forall_mem_cons.mp h
      simp only [hdefect, ih hrest]
      rfl

variable {source : String} {declarations : List Declaration}

theorem lower_eq (hdeclared : Declared source declarations) :
    lower declarations = settled (KindTable.lower declarations) := by
  have hmeasured : ∀ defect ∈ (KindTable.enterAll declarations declarations .empty).1, measure defect = .ok defect := by
    intro defect hdefect
    rw [KindTable.enterAll_eq] at hdefect
    have hlower : KindTable.lower declarations = .error (errorsOf (declarations.map Declaration.entry?)) :=
      lower_eq_error_iff.mpr ⟨rfl, List.ne_nil_of_mem hdefect⟩
    exact @measure_placed source ∅ defect ((lowering_placed hdeclared hlower).2 defect hdefect).2
  rw [lower, enterAll_eq hmeasured]
  rfl

theorem freezeTable_eq {draft : Draft} (gates : GateSet) (hdeclared : Declared source declarations)
    (hlower : KindTable.lower declarations = .ok draft) :
    freezeTable declarations draft gates = settled (KindTable.freezeTable declarations draft gates) := by
  rw [freezeTable, KindTable.freezeTable]
  cases hfreeze : draft.freeze gates with
  | ok registry => rfl
  | error error =>
    obtain ⟨defect, hfallback, -, hplaced⟩ := @freezing_placed source gates _ _ _ hdeclared hlower hfreeze
    simp only [hfallback, measure_placed hplaced]
    rfl

theorem loadText_eq (source : String) (gates : GateSet) :
    loadText source gates = settled (KindTable.loadText source gates) := by
  rw [loadText, lex_eq]
  apply settled_bind
  intro tokens hlex
  have hforward : ∀ t ∈ tokens, t.span.start ≤ t.span.stop := fun t ht => (tokenReads_of_lex hlex t ht).start_le
  rw [parseTable_eq hforward (lexedLines_of_lex hlex).1]
  apply settled_bind
  intro declarations hparse
  have hdeclared : Declared source declarations := ⟨tokens, hlex, hparse⟩
  rw [lower_eq hdeclared]
  apply settled_bind
  exact fun draft hlower => freezeTable_eq gates hdeclared hlower

theorem loadTable_eq (origin source : String) (gates : GateSet) :
    loadTable origin source gates = settled (KindTable.loadTable origin source gates) := by
  rw [loadTable, loadText_eq]
  rfl

end Guarded

end KindTable
