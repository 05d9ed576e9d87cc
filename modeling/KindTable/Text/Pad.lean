namespace KindTable

def blanks (count : Nat) : String := .ofList (List.replicate count ' ')

def padRight (width : Nat) (text : String) : String := text ++ blanks (width - text.length)

def padLeft (width : Nat) (text : String) : String := blanks (width - text.length) ++ text

end KindTable
