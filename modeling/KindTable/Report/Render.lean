import KindTable.Generate
import KindTable.Report.Excerpt
import KindTable.Text.Wrap

namespace KindTable

namespace Report

def wrapWidth : Nat := 158

def titleLines (title : String) : List String := wrapText wrapWidth "  × " "  │ " title

def helpLines : Option String → List String
  | none => []
  | some help => wrapText wrapWidth "  help: " "        " help

def defectLines (origin : String) (source : SourceText) (d : Defect) : List String :=
  ["", "Error: " ++ d.code, ""] ++ titleLines d.message ++
    (excerptsOf source d.labels).flatMap (·.text origin) ++ helpLines d.help?

end Report

def TableError.render (e : TableError) : String :=
  let source := SourceText.ofString e.source
  joinLines (["nodekind::table", ""] ++ Report.titleLines e.message ++
    e.defects.flatMap (Report.defectLines e.origin source))

def errorLine (message : String) : String := "error: " ++ message

def GenerationError.render : GenerationError → String
  | table error => error.render
  | registry error => errorLine error.message
  | emission error => errorLine error.message

end KindTable
