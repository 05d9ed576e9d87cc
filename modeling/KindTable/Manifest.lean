import KindTable.Artifact.Rows
import KindTable.Code.File
import KindTable.Json.Value

namespace KindTable

structure Manifest where
  generator : String
  slotPolicy : String
  softFallback : String
  gates : GateSet
  declared : Nat
  active : Nat
  entries : List ManifestRow

namespace Manifest

def referencedGates (r : Registry) (gates : GateSet) : GateSet :=
  let used := r.gates
  ⟨gates.bindings.filter fun b => used.contains b.1, gates.sorted.filter _⟩

theorem mem_referencedGates_iff {r : Registry} {gates : GateSet} {b : Binding} :
    b ∈ (referencedGates r gates).bindings ↔ b.1 ∈ r.gates ∧ gates.get? b.1 = some b.2 := by
  rw [referencedGates, List.mem_filter, List.contains_iff_mem, GateSet.mem_bindings_iff, and_comm]

theorem referencedGates_congr {r : Registry} {gates others : GateSet}
    (h : ∀ g ∈ r.gates, gates.get? g = others.get? g) : referencedGates r gates = referencedGates r others := by
  apply GateSet.eq_of_mem_iff
  intro b
  rw [mem_referencedGates_iff, mem_referencedGates_iff]
  constructor
  · rintro ⟨hused, hvalue⟩
    exact ⟨hused, h b.1 hused ▸ hvalue⟩
  · rintro ⟨hused, hvalue⟩
    exact ⟨hused, (h b.1 hused).symm ▸ hvalue⟩

def ofArtifact (s : Selection) (gates : GateSet) (fallback : SoftFallback) (rows : Artifact ManifestRow) :
    Manifest where
  generator := KindTable.generator
  slotPolicy := rows.policy.text
  softFallback := fallback.text
  gates := referencedGates s.registry gates
  declared := s.registry.size
  active := s.size
  entries := rows.rows

def rowValue (row : ManifestRow) : JsonValue :=
  .object ([("slot", .number row.slot), ("name", .text row.name), ("inclusion", .text row.inclusion)] ++
    match row.gate with
    | none => []
    | some gate => [("gate", .text gate)])

def value (m : Manifest) : JsonValue :=
  .object [("generator", .text m.generator), ("slot_policy", .text m.slotPolicy),
    ("soft_fallback", .text m.softFallback),
    ("gates", .object (m.gates.bindings.map fun b => (b.1, .boolean b.2))),
    ("declared", .number m.declared), ("active", .number m.active),
    ("entries", .array (m.entries.map rowValue))]

def text [Toolkit] (m : Manifest) : Except EmissionError String :=
  ((Toolkit.serialize m.value).map (· ++ "\n")).mapError .manifest

end Manifest

end KindTable
