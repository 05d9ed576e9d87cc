import KindTable.Gates.Setting
import KindTable.Json.Booleans

namespace KindTable

def firstBadName? (gates : GateSet) : Option String :=
  (gates.bindings.find? fun b => !isIdentifier b.1).map (·.1)

def parseGatesFile (path source : String) : Except GateFault GateSet :=
  match readJsonBooleans source with
  | .error defect => .error (.malformedFile path defect)
  | .ok bindings =>
    let gates := GateSet.ofList bindings
    match firstBadName? gates with
    | some name => .error (.badName name)
    | none => .ok gates

def layerGates (defaults : GateSet) (file : Option GateSet) (settings : List String) : Except GateFault GateSet :=
  applySettings (match file with
    | some later => defaults.overlay later
    | none => defaults) settings

end KindTable
