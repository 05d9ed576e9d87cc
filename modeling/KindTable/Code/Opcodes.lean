import KindTable.Artifact.Rows
import KindTable.Code.Comment
import KindTable.Code.File
import KindTable.Code.Pieces

namespace KindTable

structure Variant where
  name : String
  id : UInt32
  isHidden : Bool
  deriving DecidableEq, Repr

structure FromArm where
  id : UInt32
  variant : String
  deriving DecidableEq, Repr

structure NameArm where
  variant : String
  name : String
  deriving DecidableEq, Repr

structure OpcodeCode where
  variants : List Variant
  count : Nat
  all : List String
  fromArms : List FromArm
  nameArms : List NameArm
  deriving DecidableEq, Repr

namespace OpcodeCode

def ofRows (rows : List OpcodeRow) : OpcodeCode where
  variants := rows.map fun row => ⟨row.name, row.id, row.reserved⟩
  count := rows.length
  all := rows.map (·.name)
  fromArms := rows.map fun row => ⟨row.id, row.name⟩
  nameArms := rows.map fun row => ⟨row.name, row.name⟩

def listingItem : String := "ALL"

def conversionItem : String := "from_u32"

def namingItem : String := "name"

def associatedItems : List String := [listingItem, conversionItem, namingItem]

def opcodePath (variant : String) : List Doc := [.text "Opcode::", .name ⟨.path, variant⟩]

def variantItem (v : Variant) : List Doc :=
  (if v.isHidden then [.text "#[doc(hidden)]", .hard 0] else []) ++
    [.name ⟨.variant, v.name⟩, .text (" = " ++ toString v.id ++ ",")]

def enumeration (c : OpcodeCode) : List (List Doc) :=
  [[.text (docComment " IR node-kind opcodes, numbered in declaration order.")],
    [.text "#[derive(Debug, Clone, Copy, PartialEq, Eq, PartialOrd, Ord, Hash)]"],
    [.text "#[allow(non_camel_case_types)]"]] ++
  (if c.variants.isEmpty then [] else [[.text "#[repr(u32)]"]]) ++
  [block [.text "pub enum Opcode "] (c.variants.map variantItem)]

def fromArmItem (a : FromArm) : List Doc :=
  matchArm [.text (toString a.id)] [.text "Some(", bracketed (opcodePath a.variant), .text ")"]

def nameArmItem (a : NameArm) : List Doc := matchArm (opcodePath a.variant) [.text (stringLiteral a.name)]

def implementation (c : OpcodeCode) : List Doc :=
  block [.text "impl Opcode "]
    [[.text (docComment " Every opcode, in id order.")],
      [.text ("pub const " ++ listingItem ++ ": [Opcode; OPCODE_COUNT] = "), .seam] ++
        arrayOf (c.all.map opcodePath) ++ [.text ";"],
      block [.text ("pub const fn " ++ conversionItem ++ "(value: u32) -> Option<Opcode> ")]
        [block [.text "match value "] (c.fromArms.map fromArmItem ++ [matchArm [.text "_"] [.text "None"]])],
      [.text (docComment " Node-class name of this opcode.")],
      block [.text ("pub const fn " ++ namingItem ++ "(self) -> &'static str ")]
        [block [.text "match self "] (c.nameArms.map nameArmItem)]]

def file (c : OpcodeCode) : CodeFile where
  output := .opcodes
  body := stackLines (c.enumeration ++
    [[.text (docComment " Number of opcodes (one past the largest id).")],
      [.text ("pub const OPCODE_COUNT: usize = " ++ toString c.count ++ ";")], c.implementation])

theorem mentions_variantItem (v : Variant) : mentionsOf (variantItem v) = [⟨.variant, v.name⟩] := by
  unfold variantItem
  cases v.isHidden <;> rfl

theorem mentions_enumeration (c : OpcodeCode) :
    c.enumeration.flatMap mentionsOf = c.variants.map (⟨.variant, ·.name⟩) := by
  have hattribute : ((if c.variants.isEmpty then [] else [[Doc.text "#[repr(u32)]"]]).flatMap mentionsOf) = [] := by
    cases c.variants.isEmpty <;> rfl
  rw [enumeration, List.flatMap_append, List.flatMap_append, hattribute]
  simp [mentionsOf, Doc.mentions, flatMap_mentions mentions_variantItem]

theorem mentions_implementation (c : OpcodeCode) : mentionsOf c.implementation =
    c.all.map (⟨.path, ·⟩) ++ c.fromArms.map (⟨.path, ·.variant⟩) ++ c.nameArms.map (⟨.path, ·.variant⟩) := by
  have hfrom (a : FromArm) : mentionsOf (fromArmItem a) = [⟨.path, a.variant⟩] := rfl
  have hname (a : NameArm) : mentionsOf (nameArmItem a) = [⟨.path, a.variant⟩] := rfl
  have hpath (variant : String) : mentionsOf (opcodePath variant) = [⟨.path, variant⟩] := rfl
  simp [implementation, mentionsOf, Doc.mentions, flatMap_mentions hfrom, flatMap_mentions hname,
    flatMap_mentions hpath]

theorem mentions_file (c : OpcodeCode) : c.file.mentions = c.variants.map (⟨.variant, ·.name⟩) ++
    c.all.map (⟨.path, ·⟩) ++ c.fromArms.map (⟨.path, ·.variant⟩) ++ c.nameArms.map (⟨.path, ·.variant⟩) := by
  simp [CodeFile.mentions, file, mentions_enumeration, mentions_implementation, mentionsOf, Doc.mentions]

end OpcodeCode

end KindTable
