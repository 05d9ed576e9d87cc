import KindTable.Json.Number
import KindTable.Json.Text
import KindTable.Outcome

namespace KindTable

namespace JsonCursor

def readWord (c : JsonCursor) : List Char → Except JsonError JsonCursor
  | [] => .ok c
  | expected :: word =>
    match c.head? with
    | none => .error (c.here .endOfValue)
    | some char => if char = expected then c.next.readWord word else .error (c.ahead .unknownWord)

def readFound (c : JsonCursor) : Except JsonError (JsonFound × JsonCursor) :=
  match c.head? with
  | some 'n' => (c.next.readWord ['u', 'l', 'l']).map (.null, ·)
  | some 't' => (c.next.readWord ['r', 'u', 'e']).map (.boolean true, ·)
  | some 'f' => (c.next.readWord ['a', 'l', 's', 'e']).map (.boolean false, ·)
  | some '-' => (c.next.readNumber true).map fun r => (r.1.found, r.2)
  | some '"' => c.next.readText.map fun r => (.text r.1, r.2)
  | some '[' => .ok (.sequence, c)
  | some '\x7b' => .ok (.map, c)
  | some char =>
    if char.isDigit then (c.readNumber false).map fun r => (r.1.found, r.2) else .error (c.ahead .missingValue)
  | none => .error (c.ahead .missingValue)

def unexpected (c : JsonCursor) (expected : String) : JsonError :=
  match c.readFound with
  | .error e => e
  | .ok (found, after) => after.here (.unexpected found expected)

def readBoolean (c : JsonCursor) : Except JsonError (Bool × JsonCursor) :=
  let c := c.skipBlanks
  match c.head? with
  | none => .error (c.ahead .endOfValue)
  | some 't' => (c.next.readWord ['r', 'u', 'e']).map (true, ·)
  | some 'f' => (c.next.readWord ['a', 'l', 's', 'e']).map (false, ·)
  | some _ => .error (c.unexpected "a boolean")

def readColon (c : JsonCursor) : Except JsonError JsonCursor :=
  let c := c.skipBlanks
  match c.head? with
  | none => .error (c.ahead .endOfObject)
  | some ':' => .ok c.next
  | some _ => .error (c.ahead .missingColon)

def readMember (c : JsonCursor) : Except JsonError ((String × Bool) × JsonCursor) :=
  match c.readText with
  | .error e => .error e
  | .ok (name, after) =>
    match after.readColon with
    | .error e => .error e
    | .ok after =>
      match after.readBoolean with
      | .error e => .error e
      | .ok (value, after) => .ok ((name, value), after)

def nextMember (c : JsonCursor) (isFirst : Bool) : Except JsonError (Option JsonCursor) :=
  let c := c.skipBlanks
  match c.head? with
  | none => .error (c.ahead .endOfObject)
  | some '\x7d' => .ok none
  | some char =>
    if char = ',' && !isFirst then .ok (some c.next.skipBlanks)
    else if isFirst then .ok (some c)
    else .error (c.ahead .missingComma)

theorem length_rest_readWord {word : List Char} {c after : JsonCursor} (h : c.readWord word = .ok after) :
    after.rest.length ≤ c.rest.length := by
  induction word generalizing c with
  | nil =>
    simp only [readWord, Except.ok.injEq] at h
    exact Nat.le_of_eq (by rw [h])
  | cons expected word ih =>
    unfold readWord at h
    split at h
    · simp at h
    · split at h
      · exact Nat.le_trans (ih h) c.length_rest_next_le
      · simp at h

theorem length_rest_readBoolean {c after : JsonCursor} {value : Bool} (h : c.readBoolean = .ok (value, after)) :
    after.rest.length ≤ c.rest.length := by
  have hskip := c.length_rest_skipBlanks
  have hnext := c.skipBlanks.length_rest_next_le
  simp only [readBoolean] at h
  split at h
  · simp at h
  · obtain ⟨a, ha, heq⟩ := map_eq_ok_iff.mp h
    have := length_rest_readWord ha
    simp only [Prod.mk.injEq] at heq
    rw [← heq.2]
    omega
  · obtain ⟨a, ha, heq⟩ := map_eq_ok_iff.mp h
    have := length_rest_readWord ha
    simp only [Prod.mk.injEq] at heq
    rw [← heq.2]
    omega
  · simp at h

theorem length_rest_readColon {c after : JsonCursor} (h : c.readColon = .ok after) :
    after.rest.length ≤ c.rest.length := by
  have hskip := c.length_rest_skipBlanks
  have hnext := c.skipBlanks.length_rest_next_le
  simp only [readColon] at h
  split at h
  · simp at h
  · simp only [Except.ok.injEq] at h
    rw [← h]
    omega
  · simp at h

theorem length_rest_readMember {c after : JsonCursor} {member : String × Bool}
    (h : c.readMember = .ok (member, after)) : after.rest.length ≤ c.rest.length := by
  unfold readMember at h
  split at h
  · simp at h
  · rename_i name c₁ h₁
    split at h
    · simp at h
    · rename_i c₂ h₂
      split at h
      · simp at h
      · rename_i value c₃ h₃
        simp only [Except.ok.injEq, Prod.mk.injEq] at h
        rw [← h.2]
        exact Nat.le_trans (length_rest_readBoolean h₃)
          (Nat.le_trans (length_rest_readColon h₂) (length_rest_readTextFrom h₁))

theorem length_rest_nextMember {c after : JsonCursor} {isFirst : Bool}
    (h : c.nextMember isFirst = .ok (some after)) : after.rest.length ≤ c.rest.length := by
  have hskip := c.length_rest_skipBlanks
  have hnext := c.skipBlanks.length_rest_next_le
  have hlast := c.skipBlanks.next.length_rest_skipBlanks
  simp only [nextMember] at h
  split at h
  · simp at h
  · simp at h
  · split at h
    · simp only [Except.ok.injEq, Option.some.injEq] at h
      rw [← h]
      omega
    · split at h
      · simp only [Except.ok.injEq, Option.some.injEq] at h
        rw [← h]
        omega
      · simp at h

def readMembers (isFirst : Bool) (c : JsonCursor) : Except JsonError (List (String × Bool) × JsonCursor) :=
  match _ : c.nextMember isFirst with
  | .error e => .error e
  | .ok none => .ok ([], c.skipBlanks.next)
  | .ok (some start) =>
    match _ : start.head? with
    | some '"' =>
      match _ : start.next.readMember with
      | .error e => .error e
      | .ok (member, after) =>
        match readMembers false after with
        | .error e => .error e
        | .ok (members, final) => .ok (member :: members, final)
    | some '\x7d' => .error (start.ahead .trailingComma)
    | some _ => .error (start.ahead .keyNotText)
    | none => .error (start.ahead .endOfValue)
termination_by c.rest.length
decreasing_by
  have h₁ := length_rest_nextMember (by assumption)
  have h₂ := length_rest_next (rest_ne_nil_of_head? (by assumption))
  have h₃ := length_rest_readMember (by assumption)
  omega

def readObject (c : JsonCursor) : Except JsonError (List (String × Bool) × JsonCursor) :=
  let c := c.skipBlanks
  match c.head? with
  | none => .error (c.ahead .endOfValue)
  | some '\x7b' => c.next.readMembers true
  | some _ => .error (c.unexpected "a map")

def finish (c : JsonCursor) : Except JsonError Unit :=
  let c := c.skipBlanks
  if c.rest.isEmpty then .ok () else .error (c.ahead .trailingText)

end JsonCursor

def readJsonBooleans (source : String) : Except JsonDefect (List (String × Bool)) :=
  let read : Except JsonError (List (String × Bool)) := do
    let (members, after) ← (JsonCursor.start source).readObject
    after.finish
    return members
  read.mapError (·.locate source)

end KindTable
