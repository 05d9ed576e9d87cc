import KindTable.GateSet
import KindTable.Gates.Fault
import KindTable.Identifier
import KindTable.Text.Trim

namespace KindTable

def onWords : List String := ["true", "on", "yes", "1"]

def offWords : List String := ["false", "off", "no", "0"]

def lowerAscii (text : String) : String := .ofList (text.toList.map Char.toLower)

def parseGateValue (text : String) : Option Bool :=
  let word := lowerAscii (trimBlanks text)
  if onWords.contains word then some true else if offWords.contains word then some false else none

def splitSetting (text : List Char) : Option (List Char × List Char) :=
  match text.dropWhile (· != '=') with
  | [] => none
  | _ :: value => some (text.takeWhile (· != '='), value)

def parseSetting (text : String) : Except GateFault Binding :=
  match splitSetting text.toList with
  | none => .error (.missingValue text)
  | some (left, right) =>
    let name := trimBlanks (.ofList left)
    let value := String.ofList right
    if isIdentifier name then
      match parseGateValue value with
      | some isOn => .ok (name, isOn)
      | none => .error (.badValue name value)
    else .error (.badName name)

def applySettings (gates : GateSet) : List String → Except GateFault GateSet
  | [] => .ok gates
  | text :: rest => do
    let binding ← parseSetting text
    applySettings (gates.set binding.1 binding.2) rest

end KindTable
