import KindTable.Disk.Fault
import KindTable.Json.Fault

namespace KindTable

inductive GateFault where
  | missingValue (spec : String)
  | badName (name : String)
  | badValue (gate value : String)
  | unreadableFile (path : String) (fault : DiskFault)
  | malformedFile (path : String) (defect : JsonDefect)
  deriving DecidableEq, Repr

def GateFault.message : GateFault → String
  | missingValue spec => "invalid gate `" ++ spec ++ "`: expected `name=value`"
  | badName name => "invalid gate name `" ++ name ++ "`"
  | badValue gate value =>
    "invalid value `" ++ value ++ "` for gate `" ++ gate ++ "`: expected true/false, on/off, yes/no or 1/0"
  | unreadableFile path fault => "cannot read gates file `" ++ path ++ "`: " ++ fault.message
  | malformedFile path defect => "invalid gates file `" ++ path ++ "`: " ++ defect.message

end KindTable
