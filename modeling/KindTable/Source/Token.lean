import KindTable.Source.Span

namespace KindTable

inductive TokenKind where
  | word (text : String)
  | openParen
  | closeParen
  | newline
  | endOfFile
  deriving DecidableEq, Repr

def TokenKind.describe : TokenKind → String
  | word text => "`" ++ text ++ "`"
  | openParen => "`(`"
  | closeParen => "`)`"
  | newline => "end of line"
  | endOfFile => "end of file"

structure Token where
  kind : TokenKind
  span : Span
  deriving DecidableEq, Repr

end KindTable
