import KindTable.Code.Set
import KindTable.Code.Token
import KindTable.FileSet
import KindTable.Text.Numeral

namespace KindTable

namespace CodeReader

def dropTokens : List CodeToken → List CodeToken → Option (List CodeToken)
  | [], ts => some ts
  | t :: expected, u :: ts => if t = u then dropTokens expected ts else none
  | _, [] => none

def expect (texts : List String) (ts : List CodeToken) : Option (List CodeToken) :=
  dropTokens (texts.flatMap readTokens) ts

def skip (text : String) (ts : List CodeToken) : List CodeToken := (expect [text] ts).getD ts

def readWord : List CodeToken → Option (String × List CodeToken)
  | .word text :: rest => some (text, rest)
  | _ => none

def readLiteral : List CodeToken → Option (String × List CodeToken)
  | .literal written :: rest => some (written, rest)
  | _ => none

def readNumber (ts : List CodeToken) : Option (Nat × List CodeToken) := do
  let (text, rest) ← readWord ts
  let (value, left) := readNumeral text.toList
  if left.isEmpty then some (value, rest) else none

def readId (ts : List CodeToken) : Option (UInt32 × List CodeToken) := do
  let (value, rest) ← readNumber ts
  if value < UInt32.size then some (.ofNat value, rest) else none

def readPath (ts : List CodeToken) : Option (String × List CodeToken) := do
  let ts ← expect ["Opcode::"] ts
  readWord ts

def readVariant (ts : List CodeToken) : Option (Variant × List CodeToken) := do
  let isHidden := (expect ["#[doc(hidden)]"] ts).isSome
  let (name, ts) ← readWord (skip "#[doc(hidden)]" ts)
  let (id, ts) ← readId (← expect [" = "] ts)
  return (⟨name, id, isHidden⟩, ← expect [","] ts)

def readFromArm (ts : List CodeToken) : Option (FromArm × List CodeToken) := do
  let (id, ts) ← readId ts
  let (variant, ts) ← readPath (← expect [" => ", "Some("] ts)
  return (⟨id, variant⟩, ← expect [")"] ts)

def readNameArm (ts : List CodeToken) : Option (NameArm × List CodeToken) := do
  let (variant, ts) ← readPath ts
  let (name, ts) ← readLiteral (← expect [" => "] ts)
  return (⟨variant, name⟩, ts)

def readStruct (ts : List CodeToken) : Option (String × List CodeToken) := do
  let (name, ts) ← readWord (← expect ["#[derive(Debug)]", "#[allow(non_camel_case_types)]", "pub struct "] ts)
  return (name, ← expect [" ", "_private: (),"] ts)

def readMethod (ts : List CodeToken) : Option (VisitMethod × List CodeToken) := do
  let (name, ts) ← readWord (← expect ["fn "] ts)
  let ts ← expect ["(", "&mut self", ")", " -> Self::Output", " ", "self." ++ fallbackMethod, "("] ts
  let (variant, ts) ← readPath ts
  return (⟨name, variant⟩, ← expect [")"] ts)

def readVisitArm (ts : List CodeToken) : Option (VisitArm × List CodeToken) := do
  let (variant, ts) ← readPath ts
  let ts ← expect [" => ", "visitor", "."] ts
  match expect [fallbackMethod, "(", "opcode", ")"] ts with
  | some rest => return (⟨variant, none⟩, rest)
  | none =>
    let (method, ts) ← readWord ts
    return (⟨variant, some method⟩, ← expect ["(", ")"] ts)

section

variable {α : Type} (item : List CodeToken → Option (α × List CodeToken))

def readUpTo : Nat → List CodeToken → List α × List CodeToken
  | 0, ts => ([], ts)
  | bound + 1, ts =>
    match item ts with
    | none => ([], ts)
    | some (a, rest) =>
      let (as, rest) := readUpTo bound rest
      (a :: as, rest)

def readMany (ts : List CodeToken) : List α × List CodeToken := readUpTo item ts.length ts

end

def readEnumeration (ts : List CodeToken) : Option (List Variant × List CodeToken) := do
  let ts ← expect ["#[derive(Debug, Clone, Copy, PartialEq, Eq, PartialOrd, Ord, Hash)]",
    "#[allow(non_camel_case_types)]"] ts
  let ts ← expect ["pub enum Opcode "] (skip "#[repr(u32)]" ts)
  return readMany readVariant ts

def readListing (ts : List CodeToken) : Option (List String × List CodeToken) := do
  let ts ← expect ["pub const " ++ OpcodeCode.listingItem ++ ": [Opcode; OPCODE_COUNT] = ", "["] ts
  let (listed, ts) := readMany readPath ts
  return (listed, ← expect ["]", ";"] ts)

def readConversion (ts : List CodeToken) : Option (List FromArm × List CodeToken) := do
  let ts ← expect ["pub const fn " ++ OpcodeCode.conversionItem ++ "(value: u32) -> Option<Opcode> ", "match value "] ts
  let (arms, ts) := readMany readFromArm ts
  return (arms, ← expect ["_", " => ", "None"] ts)

def readNaming (ts : List CodeToken) : Option (List NameArm × List CodeToken) := do
  let ts ← expect ["pub const fn " ++ OpcodeCode.namingItem ++ "(self) -> &'static str ", "match self "] ts
  return readMany readNameArm ts

def readOpcodes (ts : List CodeToken) : Option OpcodeCode := do
  let (variants, ts) ← readEnumeration ts
  let (count, ts) ← readNumber (← expect ["pub const OPCODE_COUNT: usize = "] ts)
  let (all, ts) ← readListing (← expect [";", "impl Opcode "] ts)
  let (fromArms, ts) ← readConversion ts
  let (nameArms, ts) ← readNaming ts
  if ts.isEmpty then some ⟨variants, count, all, fromArms, nameArms⟩ else none

def readNames (ts : List CodeToken) : Option NameCode := do
  let (count, ts) ← readNumber (← expect ["pub static NODE_CLASS_NAMES: [&str; "] ts)
  let (names, ts) := readMany readLiteral (← expect ["] = ", "["] ts)
  let ts ← expect ["]", ";"] ts
  if ts.isEmpty then some ⟨count, names⟩ else none

def readStructs (ts : List CodeToken) : Option (List String) :=
  let (structs, ts) := readMany readStruct ts
  if ts.isEmpty then some structs else none

def readVisitor (ts : List CodeToken) : Option VisitorCode := do
  let ts ← expect ["use super::opcodes::Opcode;", "pub trait NodeVisitor ", "type Output;",
    "fn " ++ fallbackMethod ++ "(&mut self, opcode: Opcode) -> Self::Output;"] ts
  let (methods, ts) := readMany readMethod ts
  let ts ← expect ["pub fn dispatch<V: NodeVisitor + ?Sized>(visitor: &mut V, opcode: Opcode) -> V::Output ",
    "match opcode "] ts
  let (arms, ts) := readMany readVisitArm ts
  if ts.isEmpty then some ⟨methods, arms⟩ else none

def readFile? {α : Type} (files : FileSet) (o : Output) (read : List CodeToken → Option α) : Option α := do
  read (readTokens (← files.get? o.fileName))

end CodeReader

structure DeclaredCode where
  opcodes : OpcodeCode
  names : NameCode
  structs : List String
  visitor : VisitorCode
  deriving DecidableEq, Repr

def DeclaredCode.read? (files : FileSet) : Option DeclaredCode := do
  let opcodes ← CodeReader.readFile? files .opcodes CodeReader.readOpcodes
  let names ← CodeReader.readFile? files .names CodeReader.readNames
  let structs ← CodeReader.readFile? files .stubs CodeReader.readStructs
  let visitor ← CodeReader.readFile? files .visitor CodeReader.readVisitor
  return ⟨opcodes, names, structs, visitor⟩

end KindTable
