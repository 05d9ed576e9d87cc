import KindTable.Identifier

namespace KindTable

inductive GateKind where
  | hard
  | soft
  deriving DecidableEq, Repr

structure Gate where
  name : Identifier
  kind : GateKind
  deriving DecidableEq

inductive Mode where
  | always
  | gated (gate : Gate)
  deriving DecidableEq

namespace Mode

def gate? : Mode → Option Gate
  | always => none
  | gated g => some g

def text : Mode → String
  | always => "always"
  | gated ⟨name, .hard⟩ => "if(" ++ name.text ++ ")"
  | gated ⟨name, .soft⟩ => "soft(" ++ name.text ++ ")"

end Mode

structure Entry where
  name : Identifier
  mode : Mode
  deriving DecidableEq

namespace Entry

def gate? (e : Entry) : Option Gate := e.mode.gate?

def gateName? (e : Entry) : Option String := e.gate?.map (·.name.text)

end Entry

end KindTable
