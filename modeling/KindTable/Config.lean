import KindTable.Slot

namespace KindTable

inductive Output where
  | opcodes
  | names
  | stubs
  | visitor
  | manifest
  deriving DecidableEq, Repr

namespace Output

def all : List Output := [opcodes, names, stubs, visitor, manifest]

theorem mem_all (o : Output) : o ∈ all := by cases o <;> decide

def text : Output → String
  | opcodes => "opcodes"
  | names => "names"
  | stubs => "stubs"
  | visitor => "visitor"
  | manifest => "manifest"

def ofText? (text : String) : Option Output := all.find? (·.text == text)

def fileName : Output → String
  | opcodes => "opcodes.rs"
  | names => "names.rs"
  | stubs => "stubs.rs"
  | visitor => "visitor.rs"
  | manifest => "manifest.json"

theorem fileName_inj {o other : Output} (h : o.fileName = other.fileName) : o = other := by
  cases o <;> cases other <;> simp_all [fileName]

end Output

structure Config where
  gates : GateSet
  fallback : SoftFallback
  policy : SlotPolicy
  outputs : List Output

namespace Config

def standard : Config := ⟨.empty, .drop, .compact, Output.all⟩

def wants (c : Config) (o : Output) : Bool := c.outputs.contains o

theorem wants_iff {c : Config} {o : Output} : c.wants o = true ↔ o ∈ c.outputs := List.contains_iff_mem

def withOutputs (c : Config) (outputs : List Output) : Config :=
  { c with outputs := if outputs.isEmpty then Output.all else outputs }

theorem wants_withOutputs_iff {c : Config} {outputs : List Output} {o : Output} :
    (c.withOutputs outputs).wants o = true ↔ outputs = [] ∨ o ∈ outputs := by
  rw [wants_iff, withOutputs]
  cases outputs with
  | nil => simp [o.mem_all]
  | cons first rest => simp

def wanted (c : Config) : List Output := Output.all.filter c.wants

theorem mem_wanted {c : Config} {o : Output} : o ∈ c.wanted ↔ c.wants o = true := by
  simp [wanted, List.mem_filter, o.mem_all]

def fileNames (c : Config) : List String := c.wanted.map Output.fileName

theorem mem_fileNames {c : Config} {o : Output} : o.fileName ∈ c.fileNames ↔ c.wants o = true := by
  rw [fileNames, List.mem_map, ← mem_wanted]
  constructor
  · rintro ⟨other, hother, hname⟩
    exact Output.fileName_inj hname ▸ hother
  · exact fun h => ⟨o, h, rfl⟩

theorem wanted_of_narrower {c other : Config} (h : ∀ o, c.wants o = true → other.wants o = true) :
    other.wanted.filter c.wants = c.wanted := by
  rw [wanted, wanted, List.filter_filter]
  apply List.filter_congr
  intro o _
  cases ho : c.wants o with
  | false => rfl
  | true => rw [h o ho, Bool.and_true]

end Config

end KindTable
