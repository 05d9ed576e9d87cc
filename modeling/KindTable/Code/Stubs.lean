import KindTable.Artifact.Rows
import KindTable.Code.Comment
import KindTable.Code.File
import KindTable.Code.Pieces

namespace KindTable

structure StubItem where
  node : String
  typeName : String
  deriving DecidableEq, Repr

structure StubCode where
  items : List StubItem
  deriving DecidableEq, Repr

namespace StubCode

def ofRows (rows : List StubRow) : StubCode :=
  ⟨(rows.filter (!·.reserved)).map fun row => ⟨row.node, row.typeName⟩⟩

def lines (item : StubItem) : List (List Doc) :=
  [[.text (docComment (" IR node class for the `" ++ item.node ++ "` node kind."))],
    [.text "#[derive(Debug)]"],
    [.text "#[allow(non_camel_case_types)]"],
    block [.text "pub struct ", .name ⟨.item, item.typeName⟩, .text " "] [[.text "_private: (),"]]]

def file (c : StubCode) : CodeFile where
  output := .stubs
  body := stackLines (c.items.flatMap lines)

theorem mentions_lines (item : StubItem) : (lines item).flatMap mentionsOf = [⟨.item, item.typeName⟩] := rfl

theorem mentions_file (c : StubCode) : c.file.mentions = c.items.map (⟨.item, ·.typeName⟩) := by
  rw [CodeFile.mentions, file, mentionsOf_stackLines, List.flatMap_assoc, List.map_eq_flatMap]
  exact congrArg (List.flatMap · c.items) (funext mentions_lines)

end StubCode

end KindTable
