import KindTable.Proofs.Recovery
import KindTable.Source.Lexer

namespace KindTable

section

variable (n : Nat)

def Span.shift (s : Span) : Span := ⟨n + s.start, n + s.stop⟩

theorem Span.merge_shift (s t : Span) : (s.shift n).merge (t.shift n) = (s.merge t).shift n := by
  simp only [merge, shift, Nat.add_min_add_left, Nat.add_max_add_left]

def Token.shift (t : Token) : Token := ⟨t.kind, t.span.shift n⟩

@[simp] theorem Token.kind_shift (t : Token) : (t.shift n).kind = t.kind := rfl

def Word.shift (w : Word) : Word := ⟨w.text, w.span.shift n⟩

def ModeClause.shift (clause : ModeClause) : ModeClause := ⟨clause.kind, clause.gate.shift n, clause.span.shift n⟩

def Declaration.shift (d : Declaration) : Declaration := ⟨d.name.shift n, d.mode.map (.shift n), d.span.shift n⟩

def Defect.shift : Defect → Defect
  | unexpectedCharacter char s => unexpectedCharacter char (s.shift n)
  | unexpectedToken expected found s => unexpectedToken expected found (s.shift n)
  | unknownMode mode s => unknownMode mode (s.shift n)
  | invalidIdentifier name s => invalidIdentifier name (s.shift n)
  | duplicateEntry name first second firstSpan s => duplicateEntry name first second (firstSpan.shift n) (s.shift n)
  | unknownGate gate entry s => unknownGate gate entry (s.shift n)

def Lexeme.shift : Lexeme → Lexeme
  | token t => token (t.shift n)
  | stray char s => stray char (s.shift n)

theorem map_shift_lineEnd (occupied : Bool) (start stop : Nat) :
    (lineEnd occupied start stop).map (.shift n) = lineEnd occupied (n + start) (n + stop) := by
  cases occupied <;> rfl

theorem lexFrom_shift (offset : Nat) (occupied : Bool) (text : List Char) :
    lexFrom (n + offset) occupied text = (lexFrom offset occupied text).map (.shift n) := by
  fun_induction lexFrom offset occupied text with
  | case1 offset occupied =>
    rw [lexFrom, List.map_append, map_shift_lineEnd]
    rfl
  | case2 offset occupied cs ih =>
    rw [lexFrom, if_pos rfl, ← ih]
    simp only [Nat.add_assoc]
  | case3 offset occupied cs hc ih =>
    rw [lexFrom, if_neg hc, if_pos rfl, List.map_append, map_shift_lineEnd, ← ih]
    simp only [Nat.add_assoc]
  | case4 offset occupied c cs hc hfeed hlayout ih =>
    rw [lexFrom, if_neg hc, if_neg hfeed, if_pos hlayout, ← ih]
    simp only [Nat.add_assoc]
  | case5 offset occupied cs hc hfeed hlayout ih =>
    rw [lexFrom, if_neg hc, if_neg hfeed, if_neg hlayout, if_pos rfl, List.map_cons, ← ih]
    simp only [Nat.add_assoc]
    rfl
  | case6 offset occupied cs hc hfeed hlayout hopen ih =>
    rw [lexFrom, if_neg hc, if_neg hfeed, if_neg hlayout, if_neg hopen, if_pos rfl, List.map_cons, ← ih]
    simp only [Nat.add_assoc]
    rfl
  | case7 offset occupied c cs hc hfeed hlayout hopen hclose hword ih =>
    rw [lexFrom, if_neg hc, if_neg hfeed, if_neg hlayout, if_neg hopen, if_neg hclose, if_pos hword, List.map_cons,
      ← ih]
    simp only [Nat.add_assoc]
    rfl
  | case8 offset occupied c cs hc hfeed hlayout hopen hclose hword ih =>
    rw [lexFrom, if_neg hc, if_neg hfeed, if_neg hlayout, if_neg hopen, if_neg hclose, if_neg hword, List.map_cons,
      ← ih]
    simp only [Nat.add_assoc]
    rfl

end

section

variable {n : Nat}

theorem map_kind_shift (tokens : List Token) : (tokens.map (Token.shift n)).map Token.kind = tokens.map Token.kind := by
  rw [List.map_map]
  rfl

theorem cutLines_shift (tokens : List Token) :
    cutLines (tokens.map (Token.shift n)) = (cutLines tokens).map (List.map (Token.shift n)) := by
  induction tokens with
  | nil => rfl
  | cons t rest ih =>
    rw [List.map_cons, cutLines, cutLines, Token.kind_shift, ih]
    split
    · rfl
    · cases cutLines rest <;> rfl

theorem closeWith_shift (ends : Option Token) (line : List Token) :
    closeWith (ends.map (Token.shift n)) (line.map (Token.shift n)) = (closeWith ends line).map (Token.shift n) := by
  have hany : (line.map (Token.shift n)).any (·.kind == .newline) = line.any (·.kind == .newline) := by
    rw [List.any_map]
    rfl
  rw [closeWith, closeWith, hany]
  split
  · rfl
  · cases ends <;> simp

theorem closedLines_shift (tokens : List Token) :
    closedLines (tokens.map (Token.shift n)) = (closedLines tokens).map (List.map (Token.shift n)) := by
  have htake : (tokens.map (Token.shift n)).takeWhile (·.kind != .endOfFile) =
      (tokens.takeWhile (·.kind != .endOfFile)).map (Token.shift n) := by
    rw [List.takeWhile_map]
    rfl
  have hfind : (tokens.map (Token.shift n)).find? (·.kind == .endOfFile) =
      (tokens.find? (·.kind == .endOfFile)).map (Token.shift n) := by
    rw [List.find?_map]
    rfl
  rw [closedLines, closedLines, htake, hfind, cutLines_shift, List.map_map, List.map_map]
  exact List.map_congr_left fun line _ => closeWith_shift _ line

theorem DepartsAt.shift {line before : List Token} {t : Token} (h : DepartsAt line before t) :
    DepartsAt (line.map (Token.shift n)) (before.map (Token.shift n)) (t.shift n) := by
  constructor
  case split => simpa using h.split.map (Token.shift n)
  case viable =>
    rw [map_kind_shift]
    exact h.viable
  case stuck =>
    have hstuck := h.stuck
    rw [← map_kind_shift (n := n)] at hstuck
    simpa using hstuck

theorem departure_shift (before : List Token) (t : Token) :
    departure (before.map (Token.shift n)) (t.shift n) = (departure before t).shift n := by
  unfold departure
  rw [List.length_map, Token.kind_shift]
  split <;> rfl

def shiftOutcome (n : Nat) : Except Defect Declaration → Except Defect Declaration
  | .ok d => .ok (d.shift n)
  | .error defect => .error (defect.shift n)

theorem LineOutcome.shift {line : List Token} {o : Except Defect Declaration} (h : LineOutcome line o) :
    LineOutcome (line.map (Token.shift n)) (shiftOutcome n o) := by
  cases h with
  | plain name close hclose => exact .plain (name.shift n) (close.shift n) hclose
  | gated name gate kind keyword opening closing close hclose =>
    have hgated := LineOutcome.gated (name.shift n) (gate.shift n) kind (keyword.shift n) (opening.shift n)
      (closing.shift n) (close.shift n) hclose
    rw [Span.merge_shift, show (name.shift n).span = name.span.shift n from rfl, Span.merge_shift] at hgated
    exact hgated
  | departs hdeparts =>
    have hshifted := LineOutcome.departs (hdeparts.shift (n := n))
    rw [departure_shift] at hshifted
    exact hshifted

end

end KindTable
