import KindTable.Source.Parser

namespace KindTable

def TokenKind.closesLine : TokenKind → Bool
  | newline => true
  | endOfFile => true
  | _ => false

inductive LineShape : List TokenKind → Prop where
  | plain (name : String) (close : TokenKind) : close.closesLine = true → LineShape [.word name, close]
  | gated (name gate : String) (kind : GateKind) (close : TokenKind) : close.closesLine = true →
    LineShape [.word name, .word kind.keyword, .openParen, .word gate, .closeParen, close]

def Viable (kinds : List TokenKind) : Prop := ∃ full, LineShape full ∧ kinds <+: full

theorem Viable.mono {kinds more : List TokenKind} (h : Viable more) (hp : kinds <+: more) : Viable kinds := by
  obtain ⟨full, hfull, hmore⟩ := h
  exact ⟨full, hfull, hp.trans hmore⟩

theorem viable_word {k : TokenKind} : Viable [k] ↔ ∃ name, k = .word name := by
  constructor
  · rintro ⟨full, hfull, hp⟩
    cases hfull with
    | plain name close h => exact ⟨name, by simpa using hp⟩
    | gated name gate kind close h => exact ⟨name, by simpa using hp⟩
  · rintro ⟨name, rfl⟩
    exact ⟨_, .plain name .newline rfl, by simp⟩

theorem viable_name {name : String} {k : TokenKind} :
    Viable [.word name, k] ↔ k.closesLine = true ∨ ∃ kind : GateKind, k = .word kind.keyword := by
  constructor
  · rintro ⟨full, hfull, hp⟩
    cases hfull with
    | plain name close h =>
      obtain ⟨-, rfl⟩ : _ ∧ k = close := by simpa using hp
      exact .inl h
    | gated name gate kind close h => exact .inr ⟨kind, by simpa using (List.cons_prefix_cons.mp hp).2⟩
  · rintro (h | ⟨kind, rfl⟩)
    · exact ⟨_, .plain name k h, List.prefix_rfl⟩
    · exact ⟨_, .gated name "" kind .newline rfl, by simp⟩

theorem viable_gated {name : String} {kind : GateKind} {kinds : List TokenKind} :
    Viable (.word name :: .word kind.keyword :: kinds) ↔
      ∃ gate close, TokenKind.closesLine close = true ∧ kinds <+: [.openParen, .word gate, .closeParen, close] := by
  constructor
  · rintro ⟨full, hfull, hp⟩
    cases hfull with
    | plain name close h =>
      obtain ⟨-, h', -⟩ : _ ∧ .word kind.keyword = close ∧ _ := by simpa using hp
      simp [← h', TokenKind.closesLine] at h
    | gated name gate kind' close h =>
      exact ⟨gate, close, h, (List.cons_prefix_cons.mp (List.cons_prefix_cons.mp hp).2).2⟩
  · rintro ⟨gate, close, h, hp⟩
    exact ⟨_, .gated name gate kind close h, by simpa using hp⟩

structure DepartsAt (line before : List Token) (t : Token) : Prop where
  split : before ++ [t] <+: line
  viable : Viable (before.map Token.kind)
  stuck : ¬ Viable ((before ++ [t]).map Token.kind)

def expectedAt : Nat → Expectation
  | 0 => .kindName
  | 2 => .openParen
  | 3 => .gateName
  | 4 => .closeParen
  | _ => .endOfLine

def departure (before : List Token) (t : Token) : Defect :=
  match before.length, t.kind with
  | 1, .word mode => .unknownMode mode t.span
  | n, found => .unexpectedToken (expectedAt n) found t.span

inductive LineOutcome : List Token → Except Defect Declaration → Prop where
  | plain (name : Word) (close : Token) : close.kind.closesLine = true →
    LineOutcome [⟨.word name.text, name.span⟩, close] (.ok ⟨name, none, name.span⟩)
  | gated (name gate : Word) (kind : GateKind) (keyword opening closing : Span) (close : Token) :
    close.kind.closesLine = true →
    LineOutcome [⟨.word name.text, name.span⟩, ⟨.word kind.keyword, keyword⟩, ⟨.openParen, opening⟩,
        ⟨.word gate.text, gate.span⟩, ⟨.closeParen, closing⟩, close]
      (.ok ⟨name, some ⟨kind, gate, keyword.merge closing⟩, name.span.merge (keyword.merge closing)⟩)
  | departs {line before : List Token} {t : Token} : DepartsAt line before t →
    LineOutcome line (.error (departure before t))

theorem DepartsAt.length_le {line before before' : List Token} {t t' : Token} (h : DepartsAt line before t)
    (h' : DepartsAt line before' t') : before'.length ≤ before.length := by
  apply Nat.le_of_not_lt
  intro hlt
  have hbefore' : before' <+: line := (List.prefix_append _ _).trans h'.split
  have hsub : before ++ [t] <+: before' :=
    List.prefix_of_prefix_length_le h.split hbefore' (by simp; omega)
  exact h.stuck (h'.viable.mono (hsub.map Token.kind))

theorem DepartsAt.unique {line before before' : List Token} {t t' : Token} (h : DepartsAt line before t)
    (h' : DepartsAt line before' t') : before = before' ∧ t = t' := by
  have hlength : before.length = before'.length := Nat.le_antisymm (h'.length_le h) (h.length_le h')
  have hsub : before ++ [t] <+: before' ++ [t'] :=
    List.prefix_of_prefix_length_le h.split h'.split (by simp [hlength])
  have hsame : before ++ [t] = before' ++ [t'] := hsub.eq_of_length (by simp [hlength])
  simpa using List.append_inj' hsame rfl

theorem LineOutcome.shape {line : List Token} {d : Declaration} (h : LineOutcome line (.ok d)) :
    LineShape (line.map Token.kind) := by
  cases h with
  | plain name close hclose => exact .plain name.text close.kind hclose
  | gated name gate kind keyword opening closing close hclose =>
    exact .gated name.text gate.text kind close.kind hclose

theorem not_departsAt_of_shape {line before : List Token} {t : Token} (h : LineShape (line.map Token.kind)) :
    ¬ DepartsAt line before t :=
  fun hdeparts => hdeparts.stuck ⟨_, h, hdeparts.split.map Token.kind⟩

theorem LineOutcome.value_unique {line : List Token} {d d' : Declaration} (h : LineOutcome line (.ok d))
    (h' : LineOutcome line (.ok d')) : d = d' := by
  cases h with
  | plain name close hclose =>
    generalize hline : [(⟨.word name.text, name.span⟩ : Token), close] = line at h'
    cases h' with
    | plain name' close' hclose' =>
      obtain ⟨text, span⟩ := name
      obtain ⟨text', span'⟩ := name'
      simp_all
    | gated => simp at hline
  | gated name gate kind keyword opening closing close hclose =>
    generalize hline : [(⟨.word name.text, name.span⟩ : Token), ⟨.word kind.keyword, keyword⟩,
      ⟨.openParen, opening⟩, ⟨.word gate.text, gate.span⟩, ⟨.closeParen, closing⟩, close] = line at h'
    cases h' with
    | plain => simp at hline
    | gated name' gate' kind' keyword' opening' closing' close' hclose' =>
      simp only [List.cons.injEq, Token.mk.injEq, TokenKind.word.injEq, and_true, true_and] at hline
      obtain ⟨⟨hname, hspan⟩, ⟨hkind, rfl⟩, rfl, ⟨hgate, hgateSpan⟩, rfl, rfl⟩ := hline
      obtain rfl := GateKind.keyword_inj hkind
      obtain ⟨text, span⟩ := name
      obtain ⟨text', span'⟩ := name'
      obtain ⟨gateText, gateSpan⟩ := gate
      obtain ⟨gateText', gateSpan'⟩ := gate'
      simp_all

theorem LineOutcome.unique {line : List Token} {o o' : Except Defect Declaration} (h : LineOutcome line o)
    (h' : LineOutcome line o') : o = o' := by
  cases o with
  | ok d =>
    cases o' with
    | ok d' => rw [h.value_unique h']
    | error e' =>
      cases h' with
      | departs hdeparts => exact absurd hdeparts (not_departsAt_of_shape h.shape)
  | error e =>
    cases h with
    | departs hdeparts =>
      cases o' with
      | ok d' => exact absurd hdeparts (not_departsAt_of_shape h'.shape)
      | error e' =>
        cases h' with
        | departs hdeparts' =>
          obtain ⟨rfl, rfl⟩ := hdeparts.unique hdeparts'
          rfl

end KindTable
