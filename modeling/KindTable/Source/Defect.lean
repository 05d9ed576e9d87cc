import KindTable.Registry
import KindTable.Source.Token
import KindTable.Source.Declaration

namespace KindTable

inductive Expectation where
  | kindName
  | openParen
  | gateName
  | closeParen
  | endOfLine
  deriving DecidableEq, Repr

def Expectation.text : Expectation → String
  | kindName => "a node-kind name"
  | openParen => "`(`"
  | gateName => "a gate name"
  | closeParen => "`)`"
  | endOfLine => "end of line"

inductive Defect where
  | unexpectedCharacter (char : Char) (span : Span)
  | unexpectedToken (expected : Expectation) (found : TokenKind) (span : Span)
  | unknownMode (mode : String) (span : Span)
  | invalidIdentifier (name : String) (span : Span)
  | duplicateEntry (name : String) (first second : Nat) (firstSpan span : Span)
  | unknownGate (gate entry : String) (span : Span)
  deriving DecidableEq, Repr

structure Label where
  text : String
  span : Span
  isPrimary : Bool
  deriving DecidableEq, Repr

namespace Defect

def message : Defect → String
  | unexpectedCharacter char _ => "unexpected character `" ++ char.toString ++ "`"
  | unexpectedToken expected found _ => "expected " ++ expected.text ++ ", found " ++ found.describe
  | unknownMode mode _ => "unknown inclusion mode `" ++ mode ++ "`"
  | invalidIdentifier name _ => "invalid identifier `" ++ name ++ "`"
  | duplicateEntry name _ _ _ _ => "duplicate entry `" ++ name ++ "`"
  | unknownGate gate entry _ => "entry `" ++ entry ++ "` references unknown gate `" ++ gate ++ "`"

def code : Defect → String
  | unexpectedCharacter _ _ => "nodekind::syntax::unexpected_character"
  | unexpectedToken _ _ _ => "nodekind::syntax::unexpected_token"
  | unknownMode _ _ => "nodekind::syntax::unknown_mode"
  | invalidIdentifier _ _ => "nodekind::registry::invalid_identifier"
  | duplicateEntry _ _ _ _ _ => "nodekind::registry::duplicate_entry"
  | unknownGate _ _ _ => "nodekind::registry::unknown_gate"

def help? : Defect → Option String
  | unexpectedCharacter _ _ =>
    some "declaration lines hold a name, an optional `if(gate)` / `soft(capability)`, and `#` comments"
  | unexpectedToken _ _ _ => none
  | unknownMode _ _ =>
    some "use `if(<gate>)` for optional entries or `soft(<capability>)` for soft-gated entries"
  | invalidIdentifier _ _ =>
    some ("identifiers use ASCII letters, digits and `_`, must not start with a digit, and must not be " ++
      "Rust keywords")
  | duplicateEntry _ _ _ _ _ => some "every node kind must be declared exactly once"
  | unknownGate gate _ _ =>
    some ("resolve `" ++ gate ++ "` in the gate set supplied to the build (e.g. `--gate " ++ gate ++ "=false`)")

def span : Defect → Span
  | unexpectedCharacter _ s => s
  | unexpectedToken _ _ s => s
  | unknownMode _ s => s
  | invalidIdentifier _ s => s
  | duplicateEntry _ _ _ _ s => s
  | unknownGate _ _ s => s

def labels : Defect → List Label
  | unexpectedCharacter _ s => [⟨"not allowed in a declaration table", s, false⟩]
  | unexpectedToken expected _ s => [⟨"expected " ++ expected.text, s, false⟩]
  | unknownMode _ s => [⟨"not an inclusion mode", s, false⟩]
  | invalidIdentifier _ s => [⟨"invalid identifier", s, false⟩]
  | duplicateEntry _ first second firstSpan s =>
    [⟨"first declared here (position " ++ toString first ++ ")", firstSpan, false⟩,
      ⟨"declared again here (position " ++ toString second ++ ")", s, true⟩]
  | unknownGate _ _ s => [⟨"gate not resolved by this build", s, false⟩]

def registryError? : Defect → Option RegistryError
  | invalidIdentifier name _ => some (.invalidIdentifier name)
  | duplicateEntry name first second _ _ => some (.duplicateEntry name first second)
  | unknownGate gate entry _ => some (.unknownGate gate entry)
  | _ => none

def nameSpan (declarations : List Declaration) (fallback : Span) (position : Nat) : Span :=
  match declarations[position]? with
  | some d => d.name.span
  | none => fallback

def gateSpan (declarations : List Declaration) (fallback : Span) (entry : String) : Span :=
  match declarations.find? (·.name.text == entry) with
  | some ⟨_, some clause, _⟩ => clause.gate.span
  | _ => fallback

def ofRegistryError (declarations : List Declaration) (fallback : Span) : RegistryError → Defect
  | .invalidIdentifier name => invalidIdentifier name fallback
  | .duplicateEntry name first second =>
    duplicateEntry name first second (nameSpan declarations fallback first)
      (nameSpan declarations fallback second)
  | .unknownGate gate entry => unknownGate gate entry (gateSpan declarations fallback entry)

theorem nameSpan_eq {declarations : List Declaration} {position : Nat} {d : Declaration} (fallback : Span)
    (h : declarations[position]? = some d) : nameSpan declarations fallback position = d.name.span := by
  rw [nameSpan, h]

theorem gateSpan_eq {earlier later : List Declaration} {d : Declaration} {clause : ModeClause} (fallback : Span)
    (hmode : d.mode = some clause) (hnew : ∀ a ∈ earlier, a.name.text ≠ d.name.text) :
    gateSpan (earlier ++ d :: later) fallback d.name.text = clause.gate.span := by
  have hearlier : earlier.find? (·.name.text == d.name.text) = none := by
    rw [List.find?_eq_none]
    intro a ha
    simpa using hnew a ha
  have hfound : (earlier ++ d :: later).find? (·.name.text == d.name.text) = some d := by
    rw [List.find?_append, hearlier, Option.none_or, List.find?_cons_of_pos (by simp)]
  obtain ⟨name, mode, span⟩ := d
  subst hmode
  rw [gateSpan, hfound]

theorem registryError?_ofRegistryError (declarations : List Declaration) (fallback : Span)
    (error : RegistryError) : (ofRegistryError declarations fallback error).registryError? = some error := by
  cases error <;> rfl

end Defect

def collect {ε α : Type} : List (Except ε α) → Except (List ε) (List α)
  | [] => .ok []
  | .ok a :: rest => (collect rest).map (a :: ·)
  | .error e :: rest =>
    match collect rest with
    | .ok _ => .error [e]
    | .error es => .error (e :: es)

def errorsOf {ε α : Type} (results : List (Except ε α)) : List ε :=
  results.filterMap fun
    | .error e => some e
    | .ok _ => none

def valuesOf {ε α : Type} (results : List (Except ε α)) : List α :=
  results.filterMap fun
    | .error _ => none
    | .ok a => some a

@[simp] theorem errorsOf_ok {ε α : Type} (a : α) (rest : List (Except ε α)) :
    errorsOf (.ok a :: rest) = errorsOf rest := rfl

@[simp] theorem errorsOf_error {ε α : Type} (e : ε) (rest : List (Except ε α)) :
    errorsOf (.error e :: rest) = e :: errorsOf rest := rfl

@[simp] theorem valuesOf_ok {ε α : Type} (a : α) (rest : List (Except ε α)) :
    valuesOf (.ok a :: rest) = a :: valuesOf rest := rfl

theorem collect_eq {ε α : Type} (results : List (Except ε α)) :
    collect results = if (errorsOf results).isEmpty then .ok (valuesOf results) else .error (errorsOf results) := by
  induction results with
  | nil => rfl
  | cons result rest ih =>
    cases result with
    | ok a =>
      rw [collect, ih, errorsOf_ok, valuesOf_ok]
      cases errorsOf rest <;> rfl
    | error e =>
      rw [collect, ih, errorsOf_error]
      cases errorsOf rest <;> rfl

theorem collect_eq_ok_iff {ε α : Type} {results : List (Except ε α)} {as : List α} :
    collect results = .ok as ↔ results = as.map .ok := by
  induction results generalizing as with
  | nil => cases as <;> simp [collect]
  | cons result rest ih =>
    cases result with
    | ok a =>
      cases as with
      | nil => cases h : collect rest <;> simp [collect, h, Except.map]
      | cons b bs => cases h : collect rest <;> simp [collect, h, Except.map, ← ih]
    | error e =>
      have herror : collect (.error e :: rest) ≠ .ok as := by
        cases h : collect rest <;> simp [collect, h]
      cases as <;> simp [herror]

theorem collect_eq_error_iff {ε α : Type} {results : List (Except ε α)} {es : List ε} :
    collect results = .error es ↔ errorsOf results = es ∧ es ≠ [] := by
  rw [collect_eq]
  cases h : errorsOf results with
  | nil =>
    simp only [List.isEmpty_nil, if_true, reduceCtorEq, false_iff]
    rintro ⟨rfl, hne⟩
    exact hne rfl
  | cons e rest =>
    simp only [List.isEmpty_cons, Bool.false_eq_true, if_false, Except.error.injEq]
    constructor
    · rintro rfl
      exact ⟨rfl, List.cons_ne_nil e rest⟩
    · exact And.left

theorem mem_errorsOf {ε α : Type} {results : List (Except ε α)} {e : ε} :
    e ∈ errorsOf results ↔ .error e ∈ results := by
  induction results with
  | nil => simp [errorsOf]
  | cons result rest ih => cases result <;> simp [ih]

end KindTable
