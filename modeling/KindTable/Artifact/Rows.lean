import Std.Data.HashMap
import KindTable.Artifact.Basic

namespace KindTable

structure OpcodeRow where
  name : String
  id : UInt32
  reserved : Bool
  deriving DecidableEq, Repr

def opcodeConsumer (policy : SlotPolicy) : RowConsumer OpcodeRow :=
  ⟨"opcodes", policy, fun slot => ⟨slot.name, .ofNat slot.index, slot.isReserved⟩⟩

structure NameRow where
  name : String
  reserved : Bool
  deriving DecidableEq, Repr

def nameConsumer (policy : SlotPolicy) : RowConsumer NameRow :=
  ⟨"names", policy, fun slot => ⟨slot.name, slot.isReserved⟩⟩

def typeSuffix : String := "Node"

structure StubRow where
  node : String
  typeName : String
  reserved : Bool
  deriving DecidableEq, Repr

def stubConsumer (policy : SlotPolicy) : RowConsumer StubRow :=
  ⟨"stubs", policy, fun slot => ⟨slot.name, slot.name ++ typeSuffix, slot.isReserved⟩⟩

structure ManifestRow where
  slot : Nat
  name : String
  inclusion : String
  gate : Option String
  deriving DecidableEq, Repr

def manifestConsumer (policy : SlotPolicy) : RowConsumer ManifestRow :=
  ⟨"manifest", policy, fun slot => ⟨slot.index, slot.name, slot.inclusion.text, slot.entry.gateName?⟩⟩

structure DispatchRow (η : Type) where
  slot : Nat
  name : String
  handler : Option η
  deriving DecidableEq, Repr

structure Handlers (η : Type) where
  byName : Std.HashMap String η
  default : Option η

namespace Handlers

variable {η : Type}

def ofList (registrations : List (String × η)) (default : Option η) : Handlers η :=
  ⟨registrations.foldl (fun table r => table.insert r.1 r.2) ∅, default⟩

def forSlot (h : Handlers η) (slot : Slot) : Option η :=
  if slot.isReserved then h.default
  else
    match h.byName[slot.name]? with
    | some handler => some handler
    | none => h.default

theorem getElem?_foldl_insert (registrations : List (String × η)) (table : Std.HashMap String η) (name : String) :
    (registrations.foldl (fun table r => table.insert r.1 r.2) table)[name]? =
      (registrations.reverse.lookup name).or table[name]? := by
  induction registrations generalizing table with
  | nil => simp
  | cons r rest ih =>
    rw [List.foldl_cons, ih, List.reverse_cons, List.lookup_append, Option.or_assoc, Std.HashMap.getElem?_insert]
    congr 1
    obtain ⟨key, value⟩ := r
    by_cases h : key = name
    · subst h
      simp
    · have hne : (name == key) = false := by simpa using fun e => h e.symm
      simp [h, hne, List.lookup_cons]

theorem byName_ofList (registrations : List (String × η)) (default : Option η) (name : String) :
    (ofList registrations default).byName[name]? = registrations.reverse.lookup name := by
  rw [ofList, getElem?_foldl_insert, Std.HashMap.getElem?_empty, Option.or_none]

end Handlers

def dispatchConsumer {η : Type} (handlers : Handlers η) (policy : SlotPolicy) : RowConsumer (DispatchRow η) :=
  ⟨"dispatch", policy, fun slot => ⟨slot.index, slot.name, handlers.forSlot slot⟩⟩

def Artifact.handlerAt? {η : Type} (a : Artifact (DispatchRow η)) (slot : Nat) : Option η :=
  match a.rows[slot]? with
  | some row => row.handler
  | none => none

end KindTable
