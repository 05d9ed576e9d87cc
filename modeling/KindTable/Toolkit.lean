import KindTable.Json.Value
import KindTable.Layout
import KindTable.Text.Snake

namespace KindTable

-- What the generator does not do itself. `keywords` are the words that `parse` keeps for itself.
class Toolkit where
  snakeCase : String → String
  isWord : String → Bool
  keywords : List String
  parse : List Doc → Except String Unit
  layout : List Doc → String
  serialize : JsonValue → Except String String

def parseMentions (docs : List Doc) : Except String Unit :=
  match (mentionsOf docs).findSome? Mention.fault? with
  | some fault => .error fault.message
  | none => .ok ()

instance Toolkit.standard : Toolkit where
  snakeCase := KindTable.snakeCase
  isWord := isWordToken
  keywords := KindTable.keywords
  parse := parseMentions
  layout := Layout.render
  serialize v := .ok v.pretty

end KindTable
