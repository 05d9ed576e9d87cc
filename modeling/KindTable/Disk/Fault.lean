namespace KindTable

inductive DiskFault where
  | missing
  | taken
  | notDirectory
  | isDirectory
  | nameTooLong
  | notText
  | other (message : String)
  deriving DecidableEq, Repr

namespace DiskFault

def systemText (text : String) (number : Nat) : String := text ++ " (os error " ++ toString number ++ ")"

def message : DiskFault → String
  | missing => systemText "No such file or directory" 2
  | taken => systemText "File exists" 17
  | notDirectory => systemText "Not a directory" 20
  | isDirectory => systemText "Is a directory" 21
  | nameTooLong => systemText "File name too long" 36
  | notText => "stream did not contain valid UTF-8"
  | other message => message

end DiskFault

end KindTable
