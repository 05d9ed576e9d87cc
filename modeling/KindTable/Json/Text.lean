import KindTable.Json.Cursor
import KindTable.Unicode.Ranges

namespace KindTable

namespace JsonCursor

def isHexDigit (c : Char) : Bool := c.isDigit || ('a' ≤ c && c ≤ 'f') || ('A' ≤ c && c ≤ 'F')

def hexNumber (digits : List Char) : Nat :=
  Unicode.readHex (digits.map Char.toLower)

def readFourHex (c : JsonCursor) : Except JsonError (Nat × JsonCursor) :=
  let digits := c.rest.take 4
  if digits.length = 4 && digits.all isHexDigit then .ok (hexNumber digits, ⟨c.offset + 4, c.rest.drop 4⟩)
  else if utf8Length c.rest < 4 then .error ⟨.endOfString, c.offset + utf8Length c.rest⟩
  else .error ⟨.badEscape, c.offset + 4⟩

def expectInPair (char : Char) (c : JsonCursor) : Except JsonError JsonCursor :=
  match c.head? with
  | none => .error (c.here .endOfString)
  | some other => if other = char then .ok c.next else .error (c.ahead .brokenPair)

def isHighSurrogate (unit : Nat) : Bool := 0xd800 ≤ unit && unit ≤ 0xdbff

def isLowSurrogate (unit : Nat) : Bool := 0xdc00 ≤ unit && unit ≤ 0xdfff

def joinSurrogates (high low : Nat) : Char := .ofNat ((high - 0xd800) * 0x400 + (low - 0xdc00) + 0x10000)

def readUnicode (c : JsonCursor) : Except JsonError (Char × JsonCursor) := do
  let (unit, after) ← c.readFourHex
  if isLowSurrogate unit then throw (after.here .loneSurrogate)
  if !isHighSurrogate unit then return (.ofNat unit, after)
  let after ← after.expectInPair '\\'
  let after ← after.expectInPair 'u'
  let (low, after) ← after.readFourHex
  if isLowSurrogate low then return (joinSurrogates unit low, after) else throw (after.here .loneSurrogate)

def plainEscape? : Char → Option Char
  | '"' => some '"'
  | '\\' => some '\\'
  | '/' => some '/'
  | 'b' => some '\x08'
  | 'f' => some '\x0c'
  | 'n' => some '\n'
  | 'r' => some '\r'
  | 't' => some '\t'
  | _ => none

def readEscape (c : JsonCursor) : Except JsonError (Char × JsonCursor) :=
  match c.head? with
  | none => .error (c.here .endOfString)
  | some 'u' => c.next.readUnicode
  | some char =>
    match plainEscape? char with
    | some meant => .ok (meant, c.next)
    | none => .error (c.ahead .badEscape)

theorem length_rest_next_le (c : JsonCursor) : c.next.rest.length ≤ c.rest.length := by
  cases h : c.rest <;> simp [next, h]

theorem length_rest_readFourHex {c after : JsonCursor} {n : Nat} (h : c.readFourHex = .ok (n, after)) :
    after.rest.length ≤ c.rest.length := by
  simp only [readFourHex] at h
  split at h
  · simp only [Except.ok.injEq, Prod.mk.injEq] at h
    simp [← h.2]
  · split at h <;> simp at h

theorem length_rest_expectInPair {char : Char} {c after : JsonCursor} (h : c.expectInPair char = .ok after) :
    after.rest.length ≤ c.rest.length := by
  unfold expectInPair at h
  split at h
  · simp at h
  · split at h
    · simp only [Except.ok.injEq] at h
      exact h ▸ c.length_rest_next_le
    · simp at h

theorem length_rest_readUnicode {c after : JsonCursor} {char : Char} (h : c.readUnicode = .ok (char, after)) :
    after.rest.length ≤ c.rest.length := by
  unfold readUnicode at h
  cases h₁ : c.readFourHex with
  | error e => simp [h₁, bind, Except.bind] at h
  | ok r =>
    obtain ⟨unit, c₁⟩ := r
    have le₁ := length_rest_readFourHex h₁
    simp only [h₁, bind, Except.bind] at h
    split at h
    · simp [throw, throwThe, MonadExceptOf.throw] at h
    split at h
    · simp only [pure, Except.pure, Except.ok.injEq, Prod.mk.injEq] at h
      exact h.2 ▸ le₁
    cases h₂ : c₁.expectInPair '\\' with
    | error e => simp [h₂] at h
    | ok c₂ =>
      have le₂ := length_rest_expectInPair h₂
      simp only [h₂] at h
      cases h₃ : c₂.expectInPair 'u' with
      | error e => simp [h₃] at h
      | ok c₃ =>
        have le₃ := length_rest_expectInPair h₃
        simp only [h₃] at h
        cases h₄ : c₃.readFourHex with
        | error e => simp [h₄] at h
        | ok s =>
          obtain ⟨low, c₄⟩ := s
          have le₄ := length_rest_readFourHex h₄
          simp only [h₄] at h
          split at h
          · simp only [pure, Except.pure, Except.ok.injEq, Prod.mk.injEq] at h
            rw [← h.2]
            omega
          · simp [throw, throwThe, MonadExceptOf.throw] at h

theorem length_rest_readEscape {c after : JsonCursor} {char : Char} (h : c.readEscape = .ok (char, after)) :
    after.rest.length ≤ c.rest.length := by
  unfold readEscape at h
  split at h
  · simp at h
  · exact Nat.le_trans (length_rest_readUnicode h) c.length_rest_next_le
  · split at h
    · simp only [Except.ok.injEq, Prod.mk.injEq] at h
      exact h.2 ▸ c.length_rest_next_le
    · simp at h

theorem rest_ne_nil_of_head? {c : JsonCursor} {char : Char} (h : c.head? = some char) : c.rest ≠ [] := by
  intro hrest
  simp [head?, hrest] at h

def readTextFrom (read : List Char) (c : JsonCursor) : Except JsonError (String × JsonCursor) :=
  match _ : c.head? with
  | none => .error (c.here .endOfString)
  | some char =>
    if char = '"' then .ok (.ofList read.reverse, c.next)
    else if char = '\\' then
      match _ : c.next.readEscape with
      | .error e => .error e
      | .ok (meant, after) => readTextFrom (meant :: read) after
    else if char.toNat < 0x20 then .error (c.ahead .controlCharacter)
    else readTextFrom (char :: read) c.next
termination_by c.rest.length
decreasing_by
  · exact Nat.lt_of_le_of_lt (length_rest_readEscape (by assumption))
      (length_rest_next (rest_ne_nil_of_head? (by assumption)))
  · exact length_rest_next (rest_ne_nil_of_head? (by assumption))

theorem length_rest_readTextFrom {read : List Char} {c after : JsonCursor} {text : String}
    (h : c.readTextFrom read = .ok (text, after)) : after.rest.length ≤ c.rest.length := by
  fun_induction readTextFrom read c with
  | case1 => simp at h
  | case2 =>
    simp only [Except.ok.injEq, Prod.mk.injEq] at h
    exact h.2 ▸ length_rest_next_le _
  | case3 => simp at h
  | case4 read c meant next hescape _ _ ih =>
    exact Nat.le_trans (ih h) (Nat.le_trans (length_rest_readEscape hescape) c.length_rest_next_le)
  | case5 => simp at h
  | case6 read c _ _ _ _ _ ih => exact Nat.le_trans (ih h) c.length_rest_next_le

def readText (c : JsonCursor) : Except JsonError (String × JsonCursor) := c.readTextFrom []

end JsonCursor

end KindTable
