import KindTable.Outcome
import KindTable.Source.Lexer
import KindTable.Source.Parser

namespace KindTable

def Word.identifier? (w : Word) : Except Defect Identifier :=
  match Identifier.ofText? w.text with
  | some i => .ok i
  | none => .error (.invalidIdentifier w.text w.span)

theorem Word.identifier?_eq_ok_iff {w : Word} {i : Identifier} : w.identifier? = .ok i ↔ i.text = w.text := by
  rw [← Identifier.ofText?_eq_some_iff, identifier?]
  cases Identifier.ofText? w.text <;> simp

theorem Word.identifier?_eq_error_iff {w : Word} {defect : Defect} :
    w.identifier? = .error defect ↔ isIdentifier w.text = false ∧ .invalidIdentifier w.text w.span = defect := by
  rw [← Identifier.ofText?_eq_none_iff, identifier?]
  cases Identifier.ofText? w.text <;> simp

def ModeClause.mode? (clause : ModeClause) : Except Defect Mode := do
  let name ← clause.gate.identifier?
  return .gated ⟨name, clause.kind⟩

def Declaration.mode? (d : Declaration) : Except Defect Mode :=
  match d.mode with
  | none => .ok .always
  | some clause => clause.mode?

def Declaration.entry? (d : Declaration) : Except Defect Entry := do
  let mode ← d.mode?
  let name ← d.name.identifier?
  return ⟨name, mode⟩

theorem ModeClause.mode?_eq_ok_iff {clause : ModeClause} {mode : Mode} :
    clause.mode? = .ok mode ↔ ∃ g : Gate, mode = .gated g ∧ g.name.text = clause.gate.text ∧ g.kind = clause.kind := by
  simp only [mode?, bind_eq_ok_iff, Word.identifier?_eq_ok_iff]
  constructor
  · rintro ⟨name, hname, hmode⟩
    cases hmode
    exact ⟨⟨name, clause.kind⟩, rfl, hname, rfl⟩
  · rintro ⟨⟨name, kind⟩, rfl, hname, rfl⟩
    exact ⟨name, hname, rfl⟩

theorem ModeClause.invalid_of_mode?_eq_error {clause : ModeClause} {defect : Defect}
    (h : clause.mode? = .error defect) :
    isIdentifier clause.gate.text = false ∧ .invalidIdentifier clause.gate.text clause.gate.span = defect := by
  rcases bind_eq_error_iff.mp h with hgate | ⟨name, -, hname⟩
  · exact Word.identifier?_eq_error_iff.mp hgate
  · cases hname

theorem Declaration.entry?_eq_ok_iff {d : Declaration} {e : Entry} :
    d.entry? = .ok e ↔ e.name.text = d.name.text ∧ d.mode? = .ok e.mode := by
  simp only [bind_eq_ok_iff, Word.identifier?_eq_ok_iff, Declaration.entry?]
  constructor
  · rintro ⟨mode, hmode, name, hname, hentry⟩
    cases hentry
    exact ⟨hname, hmode⟩
  · rintro ⟨hname, hmode⟩
    exact ⟨e.mode, hmode, e.name, hname, rfl⟩

theorem Declaration.invalid_of_entry?_eq_error {d : Declaration} {defect : Defect} (h : d.entry? = .error defect) :
    ∃ w, (w = d.name ∨ ∃ clause, d.mode = some clause ∧ w = clause.gate) ∧
      isIdentifier w.text = false ∧ .invalidIdentifier w.text w.span = defect := by
  rcases bind_eq_error_iff.mp h with hmode | ⟨mode, -, hrest⟩
  · unfold mode? at hmode
    split at hmode
    · cases hmode
    · rename_i clause hclause
      exact ⟨clause.gate, .inr ⟨clause, hclause, rfl⟩, clause.invalid_of_mode?_eq_error hmode⟩
  · rcases bind_eq_error_iff.mp hrest with hname | ⟨name, -, hentry⟩
    · exact ⟨d.name, .inl rfl, Word.identifier?_eq_error_iff.mp hname⟩
    · cases hentry

abbrev Lowering := EStateM Defect Draft

def located {α : Type} (table : List Declaration) (w : Word) (change : Authoring α) : Lowering α :=
  EStateM.adaptExcept (.ofRegistryError table w.span) change

def Declaration.lowerMode (table : List Declaration) (d : Declaration) : Lowering Mode :=
  match d.mode with
  | none => pure .always
  | some clause => located table clause.gate (liftExcept ((parseGate clause.kind clause.gate.text).map .gated))

def Declaration.enter (table : List Declaration) (d : Declaration) : Lowering Unit := do
  let mode ← d.lowerMode table
  located table d.name (declare d.name.text mode)

def enterAll (table : List Declaration) : List Declaration → Draft → List Defect × Draft
  | [], draft => ([], draft)
  | d :: rest, draft =>
    match d.enter table draft with
    | .ok _ changed => enterAll table rest changed
    | .error defect left =>
      let (defects, last) := enterAll table rest left
      (defect :: defects, last)

def lower (declarations : List Declaration) : Except (List Defect) Draft :=
  let (defects, draft) := enterAll declarations declarations .empty
  if defects.isEmpty then .ok draft else .error defects

def resultOn {α : Type} (draft : Draft) : Except Defect α → EStateM.Result Defect Draft α
  | .ok a => .ok a draft
  | .error defect => .error defect draft

theorem Declaration.lowerMode_eq (table : List Declaration) (d : Declaration) (draft : Draft) :
    d.lowerMode table draft = resultOn draft d.mode? := by
  unfold lowerMode mode?
  cases d.mode with
  | none => rfl
  | some clause =>
    unfold ModeClause.mode? Word.identifier? parseGate parseIdentifier
    cases h : Identifier.ofText? clause.gate.text <;> simp only [h] <;> rfl

theorem located_declare (table : List Declaration) (w : Word) (mode : Mode) (draft : Draft) :
    located table w (declare w.text mode) draft = match w.identifier? with
      | .ok i => .ok () ⟨draft.entries ++ [⟨i, mode⟩]⟩
      | .error defect => .error defect draft := by
  unfold Word.identifier? declare parseIdentifier
  cases Identifier.ofText? w.text <;> rfl

theorem Declaration.enter_eq (table : List Declaration) (d : Declaration) (draft : Draft) :
    d.enter table draft = match d.entry? with
      | .ok e => .ok () ⟨draft.entries ++ [e]⟩
      | .error defect => .error defect draft := by
  change EStateM.bind (d.lowerMode table) _ draft = _
  unfold EStateM.bind entry?
  rw [lowerMode_eq]
  cases d.mode? with
  | error defect => rfl
  | ok mode =>
    change located table d.name (declare d.name.text mode) draft = _
    rw [located_declare]
    cases d.name.identifier? <;> rfl

theorem enterAll_eq (table declarations : List Declaration) (draft : Draft) :
    enterAll table declarations draft = (errorsOf (declarations.map Declaration.entry?),
      ⟨draft.entries ++ valuesOf (declarations.map Declaration.entry?)⟩) := by
  induction declarations generalizing draft with
  | nil => simp [enterAll, errorsOf, valuesOf]
  | cons d rest ih =>
    rw [enterAll, d.enter_eq, List.map_cons]
    cases d.entry? with
    | ok e => simp [ih]
    | error defect =>
      simp only [ih]
      rfl

theorem lower_eq_collect (declarations : List Declaration) :
    lower declarations = (collect (declarations.map Declaration.entry?)).map Draft.mk := by
  rw [lower, enterAll_eq, collect_eq]
  cases errorsOf (declarations.map Declaration.entry?) <;> rfl

structure LoadedTable where
  declarations : List Declaration
  registry : Registry

def freezeTable (declarations : List Declaration) (draft : Draft) (gates : GateSet) :
    Except (List Defect) LoadedTable :=
  match draft.freeze gates with
  | .ok registry => .ok ⟨declarations, registry⟩
  | .error error => .error [.ofRegistryError declarations ⟨0, 0⟩ error]

def loadText (source : String) (gates : GateSet) : Except (List Defect) LoadedTable := do
  let tokens ← lex source
  let declarations ← parseTable tokens
  let draft ← lower declarations
  freezeTable declarations draft gates

theorem lower_eq_ok_iff {declarations : List Declaration} {draft : Draft} :
    lower declarations = .ok draft ↔ declarations.map Declaration.entry? = draft.entries.map .ok := by
  obtain ⟨entries⟩ := draft
  rw [← collect_eq_ok_iff, lower_eq_collect]
  cases collect (declarations.map Declaration.entry?) <;> simp [Except.map]

theorem lower_eq_error_iff {declarations : List Declaration} {defects : List Defect} :
    lower declarations = .error defects ↔ errorsOf (declarations.map Declaration.entry?) = defects ∧ defects ≠ [] := by
  rw [← collect_eq_error_iff, lower_eq_collect]
  cases collect (declarations.map Declaration.entry?) <;> simp [Except.map]

theorem freezeTable_eq_ok_iff {declarations : List Declaration} {draft : Draft} {gates : GateSet}
    {loaded : LoadedTable} : freezeTable declarations draft gates = .ok loaded ↔
      declarations = loaded.declarations ∧ draft.freeze gates = .ok loaded.registry := by
  obtain ⟨others, registry⟩ := loaded
  unfold freezeTable
  cases draft.freeze gates <;> simp

theorem freezeTable_eq_error_iff {declarations : List Declaration} {draft : Draft} {gates : GateSet}
    {defects : List Defect} : freezeTable declarations draft gates = .error defects ↔
      ∃ error, draft.freeze gates = .error error ∧ [.ofRegistryError declarations ⟨0, 0⟩ error] = defects := by
  unfold freezeTable
  cases draft.freeze gates <;> simp

theorem loadText_eq_ok_iff {source : String} {gates : GateSet} {loaded : LoadedTable} :
    loadText source gates = .ok loaded ↔ ∃ tokens draft, lex source = .ok tokens ∧
      parseTable tokens = .ok loaded.declarations ∧ lower loaded.declarations = .ok draft ∧
      draft.freeze gates = .ok loaded.registry := by
  simp only [loadText, bind_eq_ok_iff, freezeTable_eq_ok_iff]
  constructor
  · rintro ⟨tokens, hlex, declarations, hparse, draft, hlower, rfl, hfrozen⟩
    exact ⟨tokens, draft, hlex, hparse, hlower, hfrozen⟩
  · rintro ⟨tokens, draft, hlex, hparse, hlower, hfrozen⟩
    exact ⟨tokens, hlex, loaded.declarations, hparse, draft, hlower, rfl, hfrozen⟩

theorem loadText_eq_error_iff {source : String} {gates : GateSet} {defects : List Defect} :
    loadText source gates = .error defects ↔ lex source = .error defects ∨ ∃ tokens, lex source = .ok tokens ∧
      (parseTable tokens = .error defects ∨ ∃ declarations, parseTable tokens = .ok declarations ∧
        (lower declarations = .error defects ∨ ∃ draft, lower declarations = .ok draft ∧
          ∃ error, draft.freeze gates = .error error ∧ [.ofRegistryError declarations ⟨0, 0⟩ error] = defects)) := by
  simp only [loadText, bind_eq_error_iff, freezeTable_eq_error_iff]

structure TableError where
  origin : String
  source : String
  defects : List Defect
  deriving DecidableEq, Repr

def TableError.message (e : TableError) : String :=
  toString e.defects.length ++ " error(s) in declaration table `" ++ e.origin ++ "`"

def loadTable (origin source : String) (gates : GateSet) : Except TableError LoadedTable :=
  (loadText source gates).mapError fun defects => ⟨origin, source, defects⟩

theorem loadTable_of_ok {origin source : String} {gates : GateSet} {loaded : LoadedTable}
    (h : loadText source gates = .ok loaded) : loadTable origin source gates = .ok loaded := by
  rw [loadTable, h]
  rfl

theorem loadTable_of_error {origin source : String} {gates : GateSet} {defects : List Defect}
    (h : loadText source gates = .error defects) :
    loadTable origin source gates = .error ⟨origin, source, defects⟩ := by
  rw [loadTable, h]
  rfl

theorem loadTable_eq_ok_iff {origin source : String} {gates : GateSet} {loaded : LoadedTable} :
    loadTable origin source gates = .ok loaded ↔ loadText source gates = .ok loaded := by
  cases h : loadText source gates with
  | ok other => simp [loadTable_of_ok h]
  | error defects => simp [loadTable_of_error h]

theorem loadTable_eq_error_iff {origin source : String} {gates : GateSet} {failure : TableError} :
    loadTable origin source gates = .error failure ↔
      ∃ defects, loadText source gates = .error defects ∧ ⟨origin, source, defects⟩ = failure := by
  cases h : loadText source gates with
  | ok loaded => simp [loadTable_of_ok h]
  | error defects => simp [loadTable_of_error h]

end KindTable
