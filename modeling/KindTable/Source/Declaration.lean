import KindTable.Entry
import KindTable.Source.Span

namespace KindTable

structure Word where
  text : String
  span : Span
  deriving DecidableEq, Repr

namespace GateKind

def keyword : GateKind → String
  | hard => "if"
  | soft => "soft"

def ofKeyword? (text : String) : Option GateKind :=
  if text = "if" then some hard else if text = "soft" then some soft else none

@[simp] theorem ofKeyword?_keyword (kind : GateKind) : ofKeyword? kind.keyword = some kind := by
  cases kind <;> rfl

theorem keyword_of_ofKeyword? {text : String} {kind : GateKind} (h : ofKeyword? text = some kind) :
    text = kind.keyword := by
  unfold ofKeyword? at h
  split at h
  · rename_i hif
    cases h
    exact hif
  · split at h
    · rename_i hsoft
      cases h
      exact hsoft
    · cases h

theorem keyword_inj {kind kind' : GateKind} (h : kind.keyword = kind'.keyword) : kind = kind' := by
  cases kind <;> cases kind' <;> simp_all [keyword]

end GateKind

structure ModeClause where
  kind : GateKind
  gate : Word
  span : Span
  deriving DecidableEq, Repr

structure Declaration where
  name : Word
  mode : Option ModeClause
  span : Span
  deriving DecidableEq, Repr

end KindTable
