import KindTable.Unicode.Word

namespace KindTable

def keywords : List String :=
  ["_", "abstract", "as", "async", "await", "become", "box", "break", "const", "continue", "crate", "do", "dyn",
    "else", "enum", "extern", "false", "final", "fn", "for", "if", "impl", "in", "let", "loop", "macro", "match",
    "mod", "move", "mut", "override", "priv", "pub", "ref", "return", "Self", "self", "static", "struct", "super",
    "trait", "true", "try", "type", "typeof", "unsafe", "unsized", "use", "virtual", "where", "while", "yield"]

def pathKeywords : List String := ["super", "self", "crate", "try", "Self"]

def neverRaw : List String := ["_", "super", "self", "Self", "crate"]

def isPlainWord (text : List Char) : Bool :=
  match text with
  | [] => false
  | c :: rest =>
    (c == '_' || Unicode.isIdentifierStart c) && rest.all Unicode.isIdentifierContinue

def isWordToken (text : String) : Bool :=
  match text.toList with
  | 'r' :: '#' :: word =>
    isPlainWord word && !neverRaw.contains (String.ofList word)
  | word => isPlainWord word

inductive Place where
  | variant
  | item
  | path
  deriving DecidableEq, Repr

structure Mention where
  place : Place
  word : String
  deriving DecidableEq, Repr

inductive SpellingFault where
  | keyword (word : String)
  | missing
  deriving DecidableEq, Repr

def SpellingFault.message : SpellingFault → String
  | keyword word => "expected identifier, found keyword `" ++ word ++ "`"
  | missing => "expected identifier"

def Mention.fault? (m : Mention) : Option SpellingFault :=
  match m.place with
  | .variant =>
    if m.word = "pub" then some .missing else if keywords.contains m.word then some (.keyword m.word) else none
  | .item => if keywords.contains m.word then some (.keyword m.word) else none
  | .path => if keywords.contains m.word && !pathKeywords.contains m.word then some (.keyword m.word) else none

end KindTable
