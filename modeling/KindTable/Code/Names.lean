import KindTable.Artifact.Rows
import KindTable.Code.Comment
import KindTable.Code.File
import KindTable.Code.Pieces

namespace KindTable

structure NameCode where
  count : Nat
  names : List String
  deriving DecidableEq, Repr

namespace NameCode

def ofRows (rows : List NameRow) : NameCode := ⟨rows.length, rows.map (·.name)⟩

def file (c : NameCode) : CodeFile where
  output := .names
  body := stackLines
    [[.text (docComment " Node-class names, indexed by opcode.")],
      [.text ("pub static NODE_CLASS_NAMES: [&str; " ++ toString c.count ++ "] = "), .seam] ++
        arrayOf (c.names.map fun name => [.text (stringLiteral name)]) ++ [.text ";"]]

theorem mentions_file (c : NameCode) : c.file.mentions = [] := by
  simp [CodeFile.mentions, file, mentionsOf, Doc.mentions, List.flatMap_map]

end NameCode

end KindTable
