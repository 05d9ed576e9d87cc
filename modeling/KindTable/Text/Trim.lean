import KindTable.Unicode.Blank

namespace KindTable

def trimChars (text : List Char) : List Char :=
  ((text.dropWhile Unicode.isBlank).reverse.dropWhile Unicode.isBlank).reverse

def trimBlanks (text : String) : String := .ofList (trimChars text.toList)

end KindTable
