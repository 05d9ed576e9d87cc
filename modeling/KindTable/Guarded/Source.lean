import KindTable.Guarded.Panic
import KindTable.Source.Table

namespace KindTable

namespace Guarded

def readLexeme (text : List Char) : Lexeme → Guarded (Except Defect Token)
  | .token ⟨.word _, span⟩ => do
    let word ← slice text span
    return .ok ⟨.word (.ofList word), span⟩
  | .token t => return .ok t
  | .stray char span => do
    let defect ← measure (.unexpectedCharacter char span)
    return .error defect

def lex (source : String) : ExceptT (List Defect) Guarded (List Token) := .mk do
  let results ← (lexFrom 0 false source.toList).mapM (readLexeme source.toList)
  return collect results

inductive Halt where
  | panic (panic : Panic)
  | defect (defect : Defect)

abbrev Walk := EStateM Halt Nat

def Walk.ofGuarded {α : Type} : Guarded α → Walk α
  | .ok a => return a
  | .error panic => throw (.panic panic)

def refuse {α : Type} (defect : Defect) : Walk α := do
  let measured ← .ofGuarded (measure defect)
  throw (.defect measured)

def advance : Walk Unit := modify (· + 1)

section

variable (tokens : List Token)

def peekAt (position : Nat) : Guarded Token := index tokens (min position (tokens.length - 1))

def peek : Walk Token := do
  let position ← get
  .ofGuarded (peekAt tokens position)

def unexpected {α : Type} (expected : Expectation) : Walk α := do
  let t ← peek tokens
  refuse (.unexpectedToken expected t.kind t.span)

def takeWord (expected : Expectation) : Walk Word := do
  let t ← peek tokens
  match t.kind with
  | .word text => do
    advance
    return ⟨text, t.span⟩
  | _ => unexpected tokens expected

def takeKind (kind : TokenKind) (expected : Expectation) : Walk Span := do
  let t ← peek tokens
  if t.kind = kind then do
    advance
    return t.span
  else unexpected tokens expected

def takeEndOfLine : Walk Unit := do
  let t ← peek tokens
  match t.kind with
  | .newline => advance
  | .endOfFile => return ()
  | _ => unexpected tokens .endOfLine

def takeClause (kind : GateKind) (keyword : Span) : Walk ModeClause := do
  let _ ← takeKind tokens .openParen .openParen
  let gate ← takeWord tokens .gateName
  let close ← takeKind tokens .closeParen .closeParen
  return ⟨kind, gate, keyword.merge close⟩

def takeModeOf (keyword : String) (span : Span) : Walk ModeClause :=
  match GateKind.ofKeyword? keyword with
  | none => refuse (.unknownMode keyword span)
  | some kind => takeClause tokens kind span

def takeMode : Walk (Option ModeClause) := do
  let t ← peek tokens
  match t.kind with
  | .word text => do
    advance
    some <$> takeModeOf tokens text t.span
  | _ => return none

def takeDeclaration : Walk Declaration := do
  let name ← takeWord tokens .kindName
  let mode ← takeMode tokens
  takeEndOfLine tokens
  return .ofParts name mode

def isAtEnd (position : Nat) : Guarded Bool :=
  if tokens.isEmpty then return true
  else do
    let t ← peekAt tokens position
    return t.kind = .endOfFile

-- A loop is given as many rounds as there are tokens; to need more is not to end.
def skipLine : (rounds position : Nat) → Guarded Nat
  | 0, _ => throw .endless
  | rounds + 1, position => do
    if ← isAtEnd tokens position then return position
    let t ← peekAt tokens position
    if t.kind = .newline then return position + 1
    skipLine rounds (position + 1)

def readLine (position : Nat) : Guarded (Except Defect Declaration × Nat) :=
  match takeDeclaration tokens position with
  | .ok d next => return (.ok d, next)
  | .error (.defect defect) left => do
    let next ← skipLine tokens tokens.length left
    return (.error defect, next)
  | .error (.panic panic) _ => throw panic

def outcomes : (rounds position : Nat) → Guarded (List (Except Defect Declaration))
  | 0, _ => throw .endless
  | rounds + 1, position => do
    if ← isAtEnd tokens position then return []
    let (outcome, next) ← readLine tokens position
    let later ← outcomes rounds next
    return outcome :: later

def parseTable : ExceptT (List Defect) Guarded (List Declaration) := .mk do
  let results ← outcomes tokens (tokens.length + 1) 0
  return collect results

end

def enterAll (table : List Declaration) : List Declaration → Draft → Guarded (List Defect × Draft)
  | [], draft => return ([], draft)
  | d :: rest, draft =>
    match d.enter table draft with
    | .ok _ changed => enterAll table rest changed
    | .error defect left => do
      let measured ← measure defect
      let (defects, last) ← enterAll table rest left
      return (measured :: defects, last)

def lower (declarations : List Declaration) : ExceptT (List Defect) Guarded Draft := .mk do
  let (defects, draft) ← enterAll declarations declarations .empty
  return if defects.isEmpty then .ok draft else .error defects

def freezeTable (declarations : List Declaration) (draft : Draft) (gates : GateSet) :
    ExceptT (List Defect) Guarded LoadedTable := .mk do
  match draft.freeze gates with
  | .ok registry => return .ok ⟨declarations, registry⟩
  | .error error => do
    let defect ← measure (.ofRegistryError declarations ⟨0, 0⟩ error)
    return .error [defect]

def loadText (source : String) (gates : GateSet) : ExceptT (List Defect) Guarded LoadedTable := do
  let tokens ← lex source
  let declarations ← parseTable tokens
  let draft ← lower declarations
  freezeTable declarations draft gates

def loadTable (origin source : String) (gates : GateSet) : ExceptT TableError Guarded LoadedTable :=
  (loadText source gates).adapt fun defects => ⟨origin, source, defects⟩

end Guarded

end KindTable
