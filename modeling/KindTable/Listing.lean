import KindTable.Slot
import KindTable.Text.Pad

namespace KindTable

structure ListingLine where
  opcode : Option Opcode
  name : String
  inclusion : Inclusion
  deriving DecidableEq, Repr

namespace ListingLine

def ofSlot (s : Slot) : ListingLine := ⟨s.active?.map (·.opcode), s.name, s.inclusion⟩

def opcodeText (l : ListingLine) : String :=
  match l.opcode with
  | some o => o.text
  | none => "-"

def text (nameWidth : Nat) (l : ListingLine) : String :=
  padRight 6 l.opcodeText ++ padRight nameWidth l.name ++ "  " ++ l.inclusion.text ++ "\n"

end ListingLine

namespace Selection

def listingLines (s : Selection) : List ListingLine := (s.slots .reserve).map .ofSlot

def nameWidth (s : Selection) : Nat := (s.registry.entries.map (·.name.text.utf8ByteSize)).foldl max 0

def countLine (s : Selection) : String :=
  toString s.size ++ " active / " ++ toString s.registry.size ++ " declared\n"

def listing (s : Selection) : String :=
  let width := s.nameWidth
  .join (s.listingLines.map (·.text width)) ++ s.countLine

end Selection

end KindTable
