import KindTable.Code.Names
import KindTable.Code.Opcodes
import KindTable.Code.Stubs
import KindTable.Code.Visitor

namespace KindTable

structure CodeSet where
  opcodes : OpcodeCode
  names : NameCode
  stubs : StubCode
  visitor : VisitorCode
  deriving DecidableEq, Repr

namespace CodeSet

def files (c : CodeSet) : List CodeFile := [c.opcodes.file, c.names.file, c.stubs.file, c.visitor.file]

def ofSlots [Toolkit] (slots : List Slot) : CodeSet where
  opcodes := ⟨slots.map fun slot => ⟨slot.name, .ofNat slot.index, slot.isReserved⟩, slots.length,
    slots.map Slot.name, slots.map fun slot => ⟨.ofNat slot.index, slot.name⟩,
    slots.map fun slot => ⟨slot.name, slot.name⟩⟩
  names := ⟨slots.length, slots.map Slot.name⟩
  stubs := ⟨slots.filterMap fun slot =>
    if slot.isReserved then none else some ⟨slot.name, slot.name ++ typeSuffix⟩⟩
  visitor := ⟨slots.filterMap fun slot => slot.method?.map (⟨·, slot.name⟩),
    slots.map fun slot => ⟨slot.name, slot.method?⟩⟩

end CodeSet

end KindTable
