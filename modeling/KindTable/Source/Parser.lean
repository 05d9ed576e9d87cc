import KindTable.Source.Defect

namespace KindTable

abbrev Reader := EStateM Defect (List Token)

def leftOf {α : Type} : EStateM.Result Defect (List Token) α → List Token
  | .ok _ tokens => tokens
  | .error _ tokens => tokens

def peek : List Token → Token
  | [] => ⟨.endOfFile, ⟨0, 0⟩⟩
  | t :: _ => t

def unexpected (expected : Expectation) (tokens : List Token) : Defect :=
  .unexpectedToken expected (peek tokens).kind (peek tokens).span

def takeWord (expected : Expectation) : Reader Word
  | ⟨.word text, span⟩ :: rest => .ok ⟨text, span⟩ rest
  | tokens => .error (unexpected expected tokens) tokens

def takeKind (kind : TokenKind) (expected : Expectation) : Reader Span
  | [] => .error (unexpected expected []) []
  | t :: rest => if t.kind = kind then .ok t.span rest else .error (unexpected expected (t :: rest)) (t :: rest)

def takeEndOfLine : Reader Unit
  | ⟨.newline, _⟩ :: rest => .ok () rest
  | ⟨.endOfFile, span⟩ :: rest => .ok () (⟨.endOfFile, span⟩ :: rest)
  | [] => .ok () []
  | tokens => .error (unexpected .endOfLine tokens) tokens

def takeClause (kind : GateKind) (keyword : Span) : Reader ModeClause := do
  let _ ← takeKind .openParen .openParen
  let gate ← takeWord .gateName
  let close ← takeKind .closeParen .closeParen
  return ⟨kind, gate, keyword.merge close⟩

def takeMode : Reader (Option ModeClause)
  | ⟨.word text, span⟩ :: rest =>
    match GateKind.ofKeyword? text with
    | none => .error (.unknownMode text span) rest
    | some kind => (takeClause kind span).map some rest
  | tokens => .ok none tokens

def Declaration.ofParts (name : Word) (mode : Option ModeClause) : Declaration :=
  ⟨name, mode, match mode with
    | none => name.span
    | some clause => name.span.merge clause.span⟩

def takeDeclaration : Reader Declaration := do
  let name ← takeWord .kindName
  let mode ← takeMode
  takeEndOfLine
  return .ofParts name mode

def skipLine : List Token → List Token
  | [] => []
  | t :: rest =>
    match t.kind with
    | .endOfFile => t :: rest
    | .newline => rest
    | _ => skipLine rest

def Reader.Advances {α : Type} (r : Reader α) : Prop := ∀ tokens, (leftOf (r tokens)).length ≤ tokens.length

theorem Reader.Advances.pure {α : Type} (a : α) : Advances (Pure.pure a) := fun _ => Nat.le_refl _

theorem Reader.Advances.bind {α β : Type} {r : Reader α} {f : α → Reader β} (hr : r.Advances)
    (hf : ∀ a, (f a).Advances) : (r >>= f).Advances := by
  intro tokens
  have hfirst := hr tokens
  change (leftOf (EStateM.bind r f tokens)).length ≤ tokens.length
  unfold EStateM.bind
  cases h : r tokens with
  | ok a rest =>
    rw [h] at hfirst
    exact Nat.le_trans (hf a rest) hfirst
  | error defect rest =>
    rw [h] at hfirst
    exact hfirst

theorem advances_takeWord (expected : Expectation) : (takeWord expected).Advances := by
  intro tokens
  unfold takeWord
  split <;> simp [leftOf]

theorem advances_takeKind (kind : TokenKind) (expected : Expectation) : (takeKind kind expected).Advances := by
  intro tokens
  unfold takeKind
  split
  · simp [leftOf]
  · split <;> simp [leftOf]

theorem advances_takeEndOfLine : takeEndOfLine.Advances := by
  intro tokens
  unfold takeEndOfLine
  split <;> simp [leftOf]

theorem advances_takeClause (kind : GateKind) (keyword : Span) : (takeClause kind keyword).Advances := by
  apply (advances_takeKind _ _).bind
  intro opening
  apply (advances_takeWord _).bind
  intro gate
  apply (advances_takeKind _ _).bind
  intro close
  exact .pure _

theorem advances_takeMode : takeMode.Advances := by
  intro tokens
  unfold takeMode
  split
  · rename_i text span rest
    split
    · simp [leftOf]
    · rename_i kind _
      have hclause := advances_takeClause kind span rest
      unfold EStateM.map
      cases h : takeClause kind span rest <;> rw [h] at hclause <;> exact Nat.le_succ_of_le hclause
  · exact Nat.le_refl _

theorem length_left_takeDeclaration (t : Token) (rest : List Token) :
    (leftOf (takeDeclaration (t :: rest))).length ≤ rest.length ∨
      ∃ defect, takeDeclaration (t :: rest) = .error defect (t :: rest) := by
  have hlater (name : Word) : Reader.Advances (do
      let mode ← takeMode
      takeEndOfLine
      return Declaration.ofParts name mode) := by
    apply advances_takeMode.bind
    intro mode
    apply advances_takeEndOfLine.bind
    intro ended
    exact .pure _
  obtain ⟨kind, span⟩ := t
  cases kind with
  | word text => exact .inl (hlater ⟨text, span⟩ rest)
  | _ => exact .inr ⟨_, rfl⟩

theorem length_skipLine_le (tokens : List Token) : (skipLine tokens).length ≤ tokens.length := by
  induction tokens with
  | nil => simp [skipLine]
  | cons t rest ih =>
    unfold skipLine
    split
    · simp
    · simp
    · exact Nat.le_succ_of_le ih

theorem length_skipLine_lt {t : Token} {rest : List Token} (h : t.kind ≠ .endOfFile) :
    (skipLine (t :: rest)).length < (t :: rest).length := by
  unfold skipLine
  split
  · contradiction
  · simp
  · exact Nat.lt_succ_of_le (length_skipLine_le rest)

def verdict {α : Type} : EStateM.Result Defect (List Token) α → Except Defect α
  | .ok a _ => .ok a
  | .error defect _ => .error defect

def resumeAt {α : Type} : EStateM.Result Defect (List Token) α → List Token
  | .ok _ after => after
  | .error _ left => skipLine left

theorem length_resumeAt_lt {t : Token} {rest : List Token} (ht : t.kind ≠ .endOfFile) :
    (resumeAt (takeDeclaration (t :: rest))).length < (t :: rest).length := by
  rcases length_left_takeDeclaration t rest with hle | ⟨defect, herror⟩
  · cases h : takeDeclaration (t :: rest) with
    | ok d after =>
      rw [h] at hle
      exact Nat.lt_succ_of_le hle
    | error defect left =>
      rw [h] at hle
      exact Nat.lt_succ_of_le (Nat.le_trans (length_skipLine_le left) hle)
  · rw [herror]
    exact length_skipLine_lt ht

def outcomes : List Token → List (Except Defect Declaration)
  | [] => []
  | t :: rest =>
    if _ : t.kind = .endOfFile then []
    else
      let result := takeDeclaration (t :: rest)
      verdict result :: outcomes (resumeAt result)
termination_by tokens => tokens.length
decreasing_by exact length_resumeAt_lt (by assumption)

def parseTable (tokens : List Token) : Except (List Defect) (List Declaration) := collect (outcomes tokens)

end KindTable
