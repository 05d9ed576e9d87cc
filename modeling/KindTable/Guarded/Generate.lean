import KindTable.Generate
import KindTable.Guarded.Source

namespace KindTable

namespace Guarded

structure Roll where
  registry : Registry
  decisions : List Inclusion
  active : List Nat

def rollFrom (gates : GateSet) (fallback : SoftFallback) :
    (position : Nat) → List Entry → Except RegistryError (List Inclusion × List Nat)
  | _, [] => return ([], [])
  | position, e :: rest => do
    let decision ← e.inclusion gates fallback
    let (decisions, active) ← rollFrom gates fallback (position + 1) rest
    return (decision :: decisions, if decision.isActive then position :: active else active)

def classify (r : Registry) (gates : GateSet) (fallback : SoftFallback) : ExceptT RegistryError Guarded Roll := do
  let (decisions, active) ← settled (rollFrom gates fallback 0 r.entries)
  let _ ← liftM (subtract r.size active.length)
  return ⟨r, decisions, active⟩

namespace Roll

def entryAt (r : Roll) (opcode position : Nat) : Guarded ActiveEntry := do
  let inclusion ← index r.decisions position
  let entry ← index r.registry.entries position
  return ⟨.ofIndex opcode, position, inclusion, entry⟩

def entries (r : Roll) : Guarded (List ActiveEntry) :=
  r.active.zipIdx.mapM fun (position, opcode) => r.entryAt opcode position

def slots (r : Roll) (policy : SlotPolicy) : Guarded (List Slot) := do
  let active ← r.entries
  match policy with
  | .compact => return active.map .ofActive
  | .reserve => return mergeSlots 0 active (r.registry.entries.zip r.decisions)

def artifact {α : Type} (r : Roll) (c : RowConsumer α) : Guarded (Artifact α) := do
  let slots ← r.slots c.policy
  return ⟨c.name, c.policy, slots.map fun slot => (c.row slot).run⟩

end Roll

section

variable {α : Type}

def emitted : Except EmissionError α → ExceptT EmissionError Guarded α
  | .error (.malformedWord word) => .mk (.error (.malformedWord word))
  | result => settled result

end

variable [Toolkit]

namespace Roll

def visitorTable (r : Roll) (policy : SlotPolicy) :
    ExceptT EmissionError Guarded (Artifact (DispatchRow String)) := do
  let active ← liftM r.entries
  let methods ← emitted
    (assignMethods (Std.HashMap.insert ∅ fallbackMethod fallbackOwner) (active.map (·.name)))
  liftM (r.artifact (dispatchConsumer (.ofList methods none) policy))

def manifest (r : Roll) (gates : GateSet) (fallback : SoftFallback) (rows : Artifact ManifestRow) : Manifest where
  generator := KindTable.generator
  slotPolicy := rows.policy.text
  softFallback := fallback.text
  gates := Manifest.referencedGates r.registry gates
  declared := r.registry.size
  active := r.active.length
  entries := rows.rows

def outputText (r : Roll) (c : Config) (opcodes : Artifact OpcodeRow) :
    Output → ExceptT EmissionError Guarded String
  | .opcodes => emitted (OpcodeCode.ofRows opcodes.rows).file.print
  | .names => do
    let rows ← liftM (r.artifact (nameConsumer c.policy))
    emitted (ensureAligned opcodes rows)
    emitted (NameCode.ofRows rows.rows).file.print
  | .stubs => do
    let rows ← liftM (r.artifact (stubConsumer c.policy))
    emitted (ensureAligned opcodes rows)
    emitted (StubCode.ofRows rows.rows).file.print
  | .visitor => do
    let table ← r.visitorTable c.policy
    emitted (ensureAligned opcodes table)
    emitted (VisitorCode.ofRows table.rows).file.print
  | .manifest => do
    let rows ← liftM (r.artifact (manifestConsumer c.policy))
    emitted (ensureAligned opcodes rows)
    emitted (r.manifest c.gates c.fallback rows).text

def emit (r : Roll) (c : Config) : ExceptT EmissionError Guarded FileSet := do
  let opcodes ← liftM (r.artifact (opcodeConsumer c.policy))
  let texts ← c.wanted.mapM fun o => (o.fileName, ·) <$> r.outputText c opcodes o
  return .ofList texts

end Roll

def generate (c : Config) (origin source : String) : ExceptT GenerationError Guarded FileSet := do
  let loaded ← (loadTable origin source c.gates).adapt .table
  let roll ← (classify loaded.registry c.gates c.fallback).adapt .registry
  (roll.emit c).adapt .emission

end Guarded

end KindTable
