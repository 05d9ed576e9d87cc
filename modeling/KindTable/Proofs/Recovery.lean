import Mathlib.Data.List.Forall2
import KindTable.Proofs.LineGrammar

namespace KindTable

def firstLine : List Token → List Token
  | [] => []
  | t :: rest => if t.kind.closesLine then [t] else t :: firstLine rest

theorem firstLine_append {before : List Token} {t : Token} {rest : List Token}
    (h : ∀ a ∈ before, a.kind.closesLine = false) :
    firstLine (before ++ t :: rest) = before ++ firstLine (t :: rest) := by
  induction before with
  | nil => rfl
  | cons a before ih =>
    obtain ⟨ha, hbefore⟩ := List.forall_mem_cons.mp h
    simp only [List.cons_append, firstLine, ha, Bool.false_eq_true, if_false, ih hbefore]

theorem skipLine_append {before : List Token} {rest : List Token}
    (h : ∀ a ∈ before, a.kind.closesLine = false) : skipLine (before ++ rest) = skipLine rest := by
  induction before with
  | nil => rfl
  | cons a before ih =>
    obtain ⟨ha, hbefore⟩ := List.forall_mem_cons.mp h
    rw [List.cons_append, skipLine]
    split <;> simp_all [TokenKind.closesLine]

theorem lineOutcome_of_stuck {before : List Token} {t : Token} {rest : List Token}
    (hopen : ∀ a ∈ before, a.kind.closesLine = false) (hviable : Viable (before.map Token.kind))
    (hstuck : ¬ Viable ((before ++ [t]).map Token.kind)) :
    LineOutcome (firstLine (before ++ t :: rest)) (.error (departure before t)) := by
  refine .departs ⟨?_, hviable, hstuck⟩
  rw [firstLine_append hopen, List.prefix_append_right_inj, firstLine]
  split <;> simp

theorem takeWord_of_ne {expected : Expectation} {t : Token} {rest : List Token}
    (h : ∀ text, t.kind ≠ .word text) :
    takeWord expected (t :: rest) = .error (.unexpectedToken expected t.kind t.span) (t :: rest) := by
  obtain ⟨kind, span⟩ := t
  cases kind with
  | word text => exact absurd rfl (h text)
  | _ => rfl

theorem takeKind_of_ne {kind : TokenKind} {expected : Expectation} {t : Token} {rest : List Token}
    (h : t.kind ≠ kind) :
    takeKind kind expected (t :: rest) = .error (.unexpectedToken expected t.kind t.span) (t :: rest) := by
  simp [takeKind, h, unexpected, peek]

theorem takeEndOfLine_of_closes {t : Token} {rest : List Token} (h : t.kind.closesLine = true) :
    takeEndOfLine (t :: rest) = .ok () (skipLine (t :: rest)) := by
  obtain ⟨kind, span⟩ := t
  cases kind with
  | newline => rfl
  | endOfFile => rfl
  | _ => cases h

theorem takeEndOfLine_of_open {t : Token} {rest : List Token} (h : t.kind.closesLine = false) :
    takeEndOfLine (t :: rest) = .error (.unexpectedToken .endOfLine t.kind t.span) (t :: rest) := by
  obtain ⟨kind, span⟩ := t
  cases kind with
  | newline => cases h
  | endOfFile => cases h
  | _ => rfl

theorem takeMode_of_ne {t : Token} {rest : List Token} (h : ∀ text, t.kind ≠ .word text) :
    takeMode (t :: rest) = .ok none (t :: rest) := by
  obtain ⟨kind, span⟩ := t
  cases kind with
  | word text => exact absurd rfl (h text)
  | _ => rfl

structure LineRead (tokens : List Token) (result : EStateM.Result Defect (List Token) Declaration) : Prop where
  outcome : LineOutcome (firstLine tokens) (verdict result)
  resumes : resumeAt result = skipLine tokens

theorem LineRead.of_stuck (before : List Token) {t : Token} {rest left : List Token} {defect : Defect}
    (hdefect : defect = departure before t) (hleft : skipLine left = skipLine (t :: rest))
    (hopen : ∀ a ∈ before, a.kind.closesLine = false)
    (hviable : Viable (before.map Token.kind)) (hstuck : ¬ Viable ((before ++ [t]).map Token.kind)) :
    LineRead (before ++ t :: rest) (.error defect left) := by
  constructor
  case outcome =>
    rw [hdefect]
    exact lineOutcome_of_stuck hopen hviable hstuck
  case resumes => rw [resumeAt, hleft, skipLine_append hopen]

theorem LineRead.of_close (before : List Token) {t : Token} {rest : List Token} {d : Declaration}
    (hopen : ∀ a ∈ before, a.kind.closesLine = false) (hclose : t.kind.closesLine = true)
    (houtcome : LineOutcome (before ++ [t]) (.ok d)) :
    LineRead (before ++ t :: rest) (.ok d (skipLine (t :: rest))) := by
  constructor
  case outcome =>
    rw [firstLine_append hopen, firstLine, if_pos hclose]
    exact houtcome
  case resumes => rw [resumeAt, skipLine_append hopen]

def HasEnd (tokens : List Token) : Prop := ∃ t ∈ tokens, t.kind = .endOfFile

theorem HasEnd.exists_cons {tokens : List Token} (h : HasEnd tokens) : ∃ t rest, tokens = t :: rest := by
  cases tokens with
  | nil => simp [HasEnd] at h
  | cons t rest => exact ⟨t, rest, rfl⟩

theorem HasEnd.tail {t : Token} {rest : List Token} (h : HasEnd (t :: rest)) (ht : t.kind ≠ .endOfFile) :
    HasEnd rest := by
  obtain ⟨a, ha, hend⟩ := h
  rcases List.mem_cons.mp ha with rfl | ha
  · exact absurd hend ht
  · exact ⟨a, ha, hend⟩

theorem LineRead.of_stuck_gate {name : Word} {kind : GateKind} {keyword : Span} (before : List Token)
    (gate : String) {t : Token} {after : List Token} {defect : Defect}
    (hdefect : defect = departure (⟨.word name.text, name.span⟩ :: ⟨.word kind.keyword, keyword⟩ :: before) t)
    (hopen : ∀ a ∈ before, a.kind.closesLine = false)
    (hviable : before.map Token.kind <+: [.openParen, .word gate, .closeParen, .newline])
    (hstuck : ∀ gate close, TokenKind.closesLine close = true →
      ¬ (before ++ [t]).map Token.kind <+: [.openParen, .word gate, .closeParen, close]) :
    LineRead (⟨.word name.text, name.span⟩ :: ⟨.word kind.keyword, keyword⟩ :: before ++ t :: after)
      (.error defect (t :: after)) := by
  refine LineRead.of_stuck _ hdefect rfl ?_ (viable_gated.mpr ⟨gate, .newline, rfl, hviable⟩) ?_
  · intro a ha
    rcases List.mem_cons.mp ha with rfl | ha
    · rfl
    · rcases List.mem_cons.mp ha with rfl | ha
      · rfl
      · exact hopen a ha
  · intro h
    obtain ⟨gate, close, hclose, hp⟩ := viable_gated.mp h
    exact hstuck gate close hclose hp

theorem takeClause_cases {name : Word} {kind : GateKind} {keyword : Span} {rest : List Token} (h : HasEnd rest) :
    (∃ gate opening closing after, rest = ⟨.openParen, opening⟩ :: ⟨.word gate.text, gate.span⟩ ::
        ⟨.closeParen, closing⟩ :: after ∧ HasEnd after ∧
        takeClause kind keyword rest = .ok ⟨kind, gate, keyword.merge closing⟩ after) ∨
      ∃ defect left, takeClause kind keyword rest = .error defect left ∧
        LineRead (⟨.word name.text, name.span⟩ :: ⟨.word kind.keyword, keyword⟩ :: rest) (.error defect left) := by
  obtain ⟨⟨k₂, s₂⟩, r₂, rfl⟩ := h.exists_cons
  by_cases h₂ : k₂ = .openParen
  case neg =>
    refine .inr ⟨.unexpectedToken .openParen k₂ s₂, ⟨k₂, s₂⟩ :: r₂, ?_, ?_⟩
    · change EStateM.bind (takeKind .openParen .openParen) _ _ = _
      rw [EStateM.bind, takeKind_of_ne h₂]
    · exact LineRead.of_stuck_gate [] "" rfl (by simp) (by simp) (by simp [h₂])
  subst h₂
  have hr₂ := h.tail (by simp)
  obtain ⟨⟨k₃, s₃⟩, r₃, rfl⟩ := hr₂.exists_cons
  have htake₂ : takeClause kind keyword (⟨.openParen, s₂⟩ :: ⟨k₃, s₃⟩ :: r₃) =
      EStateM.bind (takeWord .gateName) (fun gate => EStateM.bind (takeKind .closeParen .closeParen)
        fun close => pure ⟨kind, gate, keyword.merge close⟩) (⟨k₃, s₃⟩ :: r₃) := rfl
  by_cases h₃ : ∃ gate, k₃ = .word gate
  case neg =>
    have hne : ∀ text, k₃ ≠ .word text := fun text ht => h₃ ⟨text, ht⟩
    refine .inr ⟨.unexpectedToken .gateName k₃ s₃, ⟨k₃, s₃⟩ :: r₃, ?_, ?_⟩
    · rw [htake₂, EStateM.bind, takeWord_of_ne hne]
    · exact LineRead.of_stuck_gate [⟨.openParen, s₂⟩] "" rfl (by simp [TokenKind.closesLine]) (by simp)
        (by simp [hne])
  obtain ⟨gate, rfl⟩ := h₃
  have hr₃ := hr₂.tail (by simp)
  obtain ⟨⟨k₄, s₄⟩, r₄, rfl⟩ := hr₃.exists_cons
  have htake₃ : takeClause kind keyword (⟨.openParen, s₂⟩ :: ⟨.word gate, s₃⟩ :: ⟨k₄, s₄⟩ :: r₄) =
      EStateM.bind (takeKind .closeParen .closeParen)
        (fun close => pure ⟨kind, ⟨gate, s₃⟩, keyword.merge close⟩) (⟨k₄, s₄⟩ :: r₄) := rfl
  by_cases h₄ : k₄ = .closeParen
  case neg =>
    refine .inr ⟨.unexpectedToken .closeParen k₄ s₄, ⟨k₄, s₄⟩ :: r₄, ?_, ?_⟩
    · rw [htake₃, EStateM.bind, takeKind_of_ne h₄]
    · exact LineRead.of_stuck_gate [⟨.openParen, s₂⟩, ⟨.word gate, s₃⟩] gate rfl (by simp [TokenKind.closesLine])
        (by simp) (by simp [h₄])
  subst h₄
  exact .inl ⟨⟨gate, s₃⟩, s₂, s₄, r₄, rfl, hr₃.tail (by simp), htake₃⟩

theorem takeDeclaration_keyword (name : Word) (kind : GateKind) (keyword : Span) (rest : List Token) :
    takeDeclaration (⟨.word name.text, name.span⟩ :: ⟨.word kind.keyword, keyword⟩ :: rest) =
      EStateM.bind (takeClause kind keyword) (fun clause => EStateM.bind takeEndOfLine
        fun _ => pure (.ofParts name (some clause))) rest := by
  change EStateM.bind takeMode _ (⟨.word kind.keyword, keyword⟩ :: rest) = _
  simp only [EStateM.bind, takeMode, GateKind.ofKeyword?_keyword, EStateM.map]
  cases takeClause kind keyword rest <;> rfl

theorem takeDeclaration_gated {name : Word} {kind : GateKind} {keyword : Span} {rest : List Token}
    (h : HasEnd rest) :
    LineRead (⟨.word name.text, name.span⟩ :: ⟨.word kind.keyword, keyword⟩ :: rest)
      (takeDeclaration (⟨.word name.text, name.span⟩ :: ⟨.word kind.keyword, keyword⟩ :: rest)) := by
  rw [takeDeclaration_keyword, EStateM.bind]
  rcases takeClause_cases h with ⟨gate, opening, closing, after, rfl, hafter, htake⟩ |
    ⟨defect, left, htake, hread⟩
  · obtain ⟨t, r, rfl⟩ := hafter.exists_cons
    rw [htake]
    simp only [EStateM.bind]
    cases hclose : t.kind.closesLine with
    | true =>
      rw [takeEndOfLine_of_closes hclose]
      exact LineRead.of_close [⟨.word name.text, name.span⟩, ⟨.word kind.keyword, keyword⟩,
        ⟨.openParen, opening⟩, ⟨.word gate.text, gate.span⟩, ⟨.closeParen, closing⟩]
        (by simp [TokenKind.closesLine]) hclose (.gated name gate kind keyword opening closing t hclose)
    | false =>
      rw [takeEndOfLine_of_open hclose]
      refine LineRead.of_stuck_gate [⟨.openParen, opening⟩, ⟨.word gate.text, gate.span⟩, ⟨.closeParen, closing⟩]
        gate.text rfl (by simp [TokenKind.closesLine]) (by simp) ?_
      intro gate' close hclose' hp
      obtain ⟨-, hkind⟩ : gate.text = gate' ∧ t.kind = close := by simpa using hp
      simp [hkind, hclose'] at hclose
  · rw [htake]
    exact hread

theorem takeDeclaration_of_ne_word {t : Token} {rest : List Token} (h : ∀ text, t.kind ≠ .word text) :
    LineRead (t :: rest) (takeDeclaration (t :: rest)) := by
  have herror : takeDeclaration (t :: rest) =
      .error (.unexpectedToken .kindName t.kind t.span) (t :: rest) := by
    change EStateM.bind (takeWord .kindName) _ _ = _
    rw [EStateM.bind, takeWord_of_ne h]
  rw [herror]
  refine LineRead.of_stuck [] rfl rfl (by simp) ⟨_, .plain "" .newline rfl, by simp⟩ ?_
  intro hviable
  obtain ⟨name, hname⟩ := viable_word.mp hviable
  exact h name hname

theorem takeDeclaration_plain {name : Word} {t : Token} {rest : List Token} (h : ∀ text, t.kind ≠ .word text) :
    LineRead (⟨.word name.text, name.span⟩ :: t :: rest)
      (takeDeclaration (⟨.word name.text, name.span⟩ :: t :: rest)) := by
  have htake : takeDeclaration (⟨.word name.text, name.span⟩ :: t :: rest) =
      EStateM.bind takeEndOfLine (fun _ => pure (.ofParts name none)) (t :: rest) := by
    change EStateM.bind takeMode _ (t :: rest) = _
    rw [EStateM.bind, takeMode_of_ne h]
    rfl
  rw [htake, EStateM.bind]
  have hopen : ∀ a ∈ [(⟨.word name.text, name.span⟩ : Token)], a.kind.closesLine = false := by
    simp [TokenKind.closesLine]
  cases hclose : t.kind.closesLine with
  | true =>
    rw [takeEndOfLine_of_closes hclose]
    exact LineRead.of_close _ hopen hclose (.plain name t hclose)
  | false =>
    rw [takeEndOfLine_of_open hclose]
    refine LineRead.of_stuck _ ?_ rfl hopen (viable_word.mpr ⟨name.text, rfl⟩) ?_
    · obtain ⟨kind, span⟩ := t
      cases kind with
      | word text => exact absurd rfl (h text)
      | _ => rfl
    · intro hviable
      rcases viable_name.mp hviable with hcloses | ⟨kind, hkind⟩
      · simp [hclose] at hcloses
      · exact h _ hkind

theorem takeDeclaration_unknownMode {name : Word} {mode : String} {span : Span} {rest : List Token}
    (h : GateKind.ofKeyword? mode = none) :
    LineRead (⟨.word name.text, name.span⟩ :: ⟨.word mode, span⟩ :: rest)
      (takeDeclaration (⟨.word name.text, name.span⟩ :: ⟨.word mode, span⟩ :: rest)) := by
  have herror : takeDeclaration (⟨.word name.text, name.span⟩ :: ⟨.word mode, span⟩ :: rest) =
      .error (.unknownMode mode span) rest := by
    change EStateM.bind takeMode _ (⟨.word mode, span⟩ :: rest) = _
    simp only [EStateM.bind, takeMode, h]
  rw [herror]
  refine LineRead.of_stuck [⟨.word name.text, name.span⟩] rfl rfl (by simp [TokenKind.closesLine])
    (viable_word.mpr ⟨name.text, rfl⟩) ?_
  intro hviable
  rcases viable_name.mp hviable with hcloses | ⟨kind, hkind⟩
  · cases hcloses
  · obtain rfl : mode = kind.keyword := by simpa using hkind
    simp at h

theorem takeDeclaration_lineRead {tokens : List Token} (h : HasEnd tokens) :
    LineRead tokens (takeDeclaration tokens) := by
  obtain ⟨⟨k₀, s₀⟩, r₀, rfl⟩ := h.exists_cons
  by_cases h₀ : ∃ name, k₀ = .word name
  · obtain ⟨name, rfl⟩ := h₀
    have hr₀ := h.tail (by simp)
    obtain ⟨⟨k₁, s₁⟩, r₁, rfl⟩ := hr₀.exists_cons
    by_cases h₁ : ∃ mode, k₁ = .word mode
    · obtain ⟨mode, rfl⟩ := h₁
      cases hk : GateKind.ofKeyword? mode with
      | none => exact @takeDeclaration_unknownMode ⟨name, s₀⟩ mode s₁ r₁ hk
      | some kind =>
        obtain rfl := GateKind.keyword_of_ofKeyword? hk
        exact @takeDeclaration_gated ⟨name, s₀⟩ kind s₁ r₁ (hr₀.tail (by simp))
    · exact @takeDeclaration_plain ⟨name, s₀⟩ ⟨k₁, s₁⟩ r₁ fun text ht => h₁ ⟨text, ht⟩
  · exact takeDeclaration_of_ne_word fun text ht => h₀ ⟨text, ht⟩

def cutLines : List Token → List (List Token)
  | [] => []
  | t :: rest =>
    if t.kind = .newline then [t] :: cutLines rest
    else
      match cutLines rest with
      | [] => [[t]]
      | line :: lines => (t :: line) :: lines

def closeWith (ends : Option Token) (line : List Token) : List Token :=
  if line.any (·.kind == .newline) then line else line ++ ends.toList

def closedLines (tokens : List Token) : List (List Token) :=
  (cutLines (tokens.takeWhile (·.kind != .endOfFile))).map (closeWith (tokens.find? (·.kind == .endOfFile)))

theorem closedLines_of_end {t : Token} {rest : List Token} (h : t.kind = .endOfFile) :
    closedLines (t :: rest) = [] := by
  simp [closedLines, h, cutLines]

theorem closedLines_cons_open {t : Token} {tokens line : List Token} {lines : List (List Token)}
    (hend : t.kind ≠ .endOfFile) (hnewline : t.kind ≠ .newline) (h : closedLines tokens = line :: lines) :
    closedLines (t :: tokens) = (t :: line) :: lines := by
  obtain ⟨l, ls, hcut, rfl, rfl⟩ := List.map_eq_cons_iff.mp h
  have hcons : closeWith (tokens.find? (·.kind == .endOfFile)) (t :: l) =
      t :: closeWith (tokens.find? (·.kind == .endOfFile)) l := by
    simp only [closeWith, List.any_cons, beq_eq_false_iff_ne.mpr hnewline, Bool.false_or]
    split <;> rfl
  simp [closedLines, hend, cutLines, hnewline, hcut, hcons]

-- The induction runs over the tokens of one line: each step moves a token from the rest of the table to its line.
theorem closedLines_cons {t : Token} {rest : List Token} (h : HasEnd (t :: rest)) (ht : t.kind ≠ .endOfFile) :
    closedLines (t :: rest) = firstLine (t :: rest) :: closedLines (skipLine (t :: rest)) := by
  induction rest generalizing t with
  | nil => simp [HasEnd, ht] at h
  | cons u rest ih =>
    by_cases hnewline : t.kind = .newline
    · simp [closedLines, hnewline, cutLines, closeWith, firstLine, skipLine, TokenKind.closesLine]
    · have hopen : t.kind.closesLine = false := by
        cases hk : t.kind <;> simp_all [TokenKind.closesLine]
      have hskip : skipLine (t :: u :: rest) = skipLine (u :: rest) :=
        @skipLine_append [t] (u :: rest) (by simpa using hopen)
      have hfirst : firstLine (t :: u :: rest) = t :: firstLine (u :: rest) :=
        @firstLine_append [t] u rest (by simpa using hopen)
      rw [hskip, hfirst]
      by_cases hend : u.kind = .endOfFile
      · simp [closedLines, ht, hend, cutLines, hnewline, closeWith, firstLine, skipLine, TokenKind.closesLine]
      · exact closedLines_cons_open ht hnewline (ih (h.tail ht) hend)

theorem HasEnd.skipLine {tokens : List Token} (h : HasEnd tokens) : HasEnd (skipLine tokens) := by
  induction tokens with
  | nil => exact h
  | cons t rest ih =>
    unfold KindTable.skipLine
    split
    · exact h
    · rename_i hkind
      exact h.tail (by simp [hkind])
    · rename_i hkind _
      exact ih (h.tail hkind)

theorem outcomes_cons {t : Token} {rest : List Token} (h : HasEnd (t :: rest)) (ht : t.kind ≠ .endOfFile) :
    outcomes (t :: rest) = verdict (takeDeclaration (t :: rest)) :: outcomes (skipLine (t :: rest)) := by
  rw [outcomes, dif_neg ht, ← (takeDeclaration_lineRead h).resumes]

theorem outcomes_of_end {t : Token} {rest : List Token} (h : t.kind = .endOfFile) : outcomes (t :: rest) = [] := by
  rw [outcomes, dif_pos h]

theorem lineOutcomes {tokens : List Token} (h : HasEnd tokens) :
    List.Forall₂ LineOutcome (closedLines tokens) (outcomes tokens) := by
  obtain ⟨t, rest, rfl⟩ := h.exists_cons
  by_cases ht : t.kind = .endOfFile
  · rw [closedLines_of_end ht, outcomes_of_end ht]
    exact .nil
  · have hshorter := @length_skipLine_lt t rest ht
    rw [closedLines_cons h ht, outcomes_cons h ht]
    exact .cons (takeDeclaration_lineRead h).outcome (lineOutcomes h.skipLine)
termination_by tokens.length

theorem exists_of_forall₂ {α β : Type} {R : α → β → Prop} {xs : List α} {ys : List β} (h : List.Forall₂ R xs ys)
    {i : Nat} {x : α} (hx : xs[i]? = some x) : ∃ y, ys[i]? = some y ∧ R x y := by
  obtain ⟨hi, rfl⟩ := List.getElem?_eq_some_iff.mp hx
  have hi' : i < ys.length := h.length_eq ▸ hi
  exact ⟨ys[i], List.getElem?_eq_getElem hi', h.get hi hi'⟩

theorem exists_mem_of_forall₂ {α β : Type} {R : α → β → Prop} {xs : List α} {ys : List β} (h : List.Forall₂ R xs ys)
    {y : β} (hy : y ∈ ys) : ∃ x ∈ xs, R x y := by
  obtain ⟨i, hi, rfl⟩ := List.getElem_of_mem hy
  have hi' : i < xs.length := h.length_eq ▸ hi
  exact ⟨xs[i], List.getElem_mem hi', h.get hi' hi⟩

theorem pairwise_of_forall₂ {α β : Type} {R : α → β → Prop} {S : α → α → Prop} {T : β → β → Prop} {xs : List α}
    {ys : List β} (h : List.Forall₂ R xs ys) (hpairs : xs.Pairwise S)
    (hstep : ∀ {x x' : α} {y y' : β}, S x x' → R x y → R x' y' → T y y') : ys.Pairwise T := by
  induction h with
  | nil => exact .nil
  | cons hhead hlater ih =>
    obtain ⟨hbefore, hrest⟩ := List.pairwise_cons.mp hpairs
    refine List.pairwise_cons.mpr ⟨?_, ih hrest⟩
    intro y' hy'
    obtain ⟨x', hx', hrelated⟩ := exists_mem_of_forall₂ hlater hy'
    exact hstep (hbefore x' hx') hhead hrelated

theorem parse_by_lines (tokens : List Token) (h : ∀ t, tokens.getLast? = some t → t.kind = .endOfFile) :
    List.Forall₂ LineOutcome (closedLines tokens) (outcomes tokens) ∧
      (∀ line o o', LineOutcome line o → LineOutcome line o' → o = o') ∧
      (∀ other : List Token, (∀ t, other.getLast? = some t → t.kind = .endOfFile) →
        ∀ (i j : Nat) (line : List Token), (closedLines tokens)[i]? = some line →
          (closedLines other)[j]? = some line →
          (outcomes tokens)[i]? = (outcomes other)[j]?) ∧
      parseTable tokens =
        if (errorsOf (outcomes tokens)).isEmpty then .ok (valuesOf (outcomes tokens))
        else .error (errorsOf (outcomes tokens)) := by
  have hlines (ts : List Token) (hts : ∀ t, ts.getLast? = some t → t.kind = .endOfFile) :
      List.Forall₂ LineOutcome (closedLines ts) (outcomes ts) := by
    cases ts with
    | nil => rw [outcomes]; exact .nil
    | cons t rest =>
      have hlast := List.getLast?_eq_some_getLast (List.cons_ne_nil t rest)
      exact lineOutcomes ⟨_, List.getLast_mem _, hts _ hlast⟩
  refine ⟨hlines tokens h, fun line o o' => LineOutcome.unique, ?_, collect_eq _⟩
  intro other hother i j line hi hj
  obtain ⟨o, ho, hline⟩ := exists_of_forall₂ (hlines tokens h) hi
  obtain ⟨o', ho', hline'⟩ := exists_of_forall₂ (hlines other hother) hj
  rw [ho, ho', hline.unique hline']

def blankAndCutShort : List Token :=
  [⟨.word "A", ⟨0, 1⟩⟩, ⟨.newline, ⟨1, 2⟩⟩, ⟨.newline, ⟨2, 3⟩⟩, ⟨.word "B", ⟨3, 4⟩⟩, ⟨.word "if", ⟨5, 7⟩⟩,
    ⟨.endOfFile, ⟨7, 7⟩⟩, ⟨.word "C", ⟨7, 8⟩⟩, ⟨.endOfFile, ⟨8, 8⟩⟩]

theorem parse_by_lines_blankAndCutShort :
    (∀ t, blankAndCutShort.getLast? = some t → t.kind = .endOfFile) ∧
      closedLines blankAndCutShort =
        [[⟨.word "A", ⟨0, 1⟩⟩, ⟨.newline, ⟨1, 2⟩⟩], [⟨.newline, ⟨2, 3⟩⟩],
          [⟨.word "B", ⟨3, 4⟩⟩, ⟨.word "if", ⟨5, 7⟩⟩, ⟨.endOfFile, ⟨7, 7⟩⟩]] ∧
      List.Forall₂ LineOutcome (closedLines blankAndCutShort) (outcomes blankAndCutShort) := by
  have hends : ∀ t, blankAndCutShort.getLast? = some t → t.kind = .endOfFile := by
    intro t ht
    cases ht
    rfl
  exact ⟨hends, by decide, (parse_by_lines blankAndCutShort hends).1⟩

end KindTable
