import KindTable.Config
import KindTable.Toolkit

namespace KindTable

def programVersion : String := "0.1.0"

def generator : String := "nodekind " ++ programVersion

def fileHeader : String := "// @generated by " ++ generator ++ ". Do not edit by hand.\n\n"

inductive EmissionError where
  | malformedWord (word : String)
  | rejected (output : Output) (message : String)
  | methodCollision (method first second : String)
  | misaligned (left : String) (leftSize : Nat) (right : String) (rightSize : Nat)
  | manifest (message : String)
  deriving DecidableEq, Repr

def EmissionError.message : EmissionError → String
  | malformedWord word => "`" ++ word ++ "` is not an identifier"
  | rejected output message => "generated `" ++ output.fileName ++ "` is not valid Rust: " ++ message
  | methodCollision method first second =>
    "node kinds `" ++ first ++ "` and `" ++ second ++ "` both map to visitor method `" ++ method ++ "`"
  | misaligned left leftSize right rightSize =>
    "artifacts `" ++ left ++ "` (" ++ toString leftSize ++ " rows) and `" ++ right ++ "` (" ++
      toString rightSize ++ " rows) are not aligned"
  | manifest message => "failed to serialize manifest: " ++ message

structure CodeFile where
  output : Output
  body : List Doc

namespace CodeFile

def mentions (f : CodeFile) : List Mention := mentionsOf f.body

variable [Toolkit]

def text (f : CodeFile) : String := fileHeader ++ Toolkit.layout f.body

def check (f : CodeFile) : Except EmissionError Unit :=
  match f.mentions.find? (!Toolkit.isWord ·.word) with
  | some m => .error (.malformedWord m.word)
  | none => (Toolkit.parse f.body).mapError (.rejected f.output)

def print (f : CodeFile) : Except EmissionError String := do
  f.check
  return f.text

end CodeFile

end KindTable
