import KindTable.Manifest
import KindTable.Proofs.ToolkitLaws

namespace KindTable

section

variable {α : Type}

theorem insertBinding_last {name : String} {value : α} {bs : List (String × α)} (h : ∀ b ∈ bs, b.1 < name) :
    insertBinding name value bs = bs ++ [(name, value)] := by
  induction bs with
  | nil => rfl
  | cons b rest ih =>
    obtain ⟨hb, hrest⟩ := List.forall_mem_cons.mp h
    have hne : name ≠ b.1 := fun heq => String.lt_irrefl name (heq ▸ hb)
    rw [insertBinding, if_neg (String.lt_asymm hb), if_neg hne, ih hrest]
    rfl

theorem foldl_insertBinding {bs added : List (String × α)} (h : (bs ++ added).Pairwise (fun a b => a.1 < b.1)) :
    added.foldl (fun sorted b => insertBinding b.1 b.2 sorted) bs = bs ++ added := by
  induction added generalizing bs with
  | nil => exact (List.append_nil bs).symm
  | cons a rest ih =>
    have hlast : ∀ b ∈ bs, b.1 < a.1 := fun b hb => (List.pairwise_append.mp h).2.2 b hb a List.mem_cons_self
    rw [List.append_cons] at h ⊢
    rw [List.foldl_cons, insertBinding_last hlast, ih h]

end

theorem GateSet.ofList_bindings (g : GateSet) : GateSet.ofList g.bindings = g := by
  have hbindings : (GateSet.ofList g.bindings).bindings = g.bindings := by
    rw [ofList, setAll_bindings]
    exact foldl_insertBinding g.sorted
  exact eq_of_mem_iff fun b => by rw [hbindings]

namespace Manifest

def bindingOf? (field : String × JsonValue) : Option Binding := field.2.asBoolean?.map (field.1, ·)

def gateOf? (row : JsonValue) : Option (Option String) :=
  match row.member? "gate" with
  | none => some none
  | some gate => gate.asText?.map some

def rowOf? (row : JsonValue) : Option ManifestRow := do
  let slot ← row.member? "slot" >>= JsonValue.asNumber?
  let name ← row.member? "name" >>= JsonValue.asText?
  let inclusion ← row.member? "inclusion" >>= JsonValue.asText?
  let gate ← gateOf? row
  return ⟨slot, name, inclusion, gate⟩

def ofValue? (v : JsonValue) : Option Manifest := do
  let generator ← v.member? "generator" >>= JsonValue.asText?
  let slotPolicy ← v.member? "slot_policy" >>= JsonValue.asText?
  let softFallback ← v.member? "soft_fallback" >>= JsonValue.asText?
  let fields ← v.member? "gates" >>= JsonValue.asFields?
  let bindings ← fields.mapM bindingOf?
  let declared ← v.member? "declared" >>= JsonValue.asNumber?
  let active ← v.member? "active" >>= JsonValue.asNumber?
  let rows ← v.member? "entries" >>= JsonValue.asItems?
  let entries ← rows.mapM rowOf?
  return ⟨generator, slotPolicy, softFallback, .ofList bindings, declared, active, entries⟩

def read? (text : String) : Option Manifest := JsonValue.read? text >>= ofValue?

theorem rowOf?_rowValue (row : ManifestRow) : rowOf? (rowValue row) = some row := by
  obtain ⟨slot, name, inclusion, gate⟩ := row
  cases gate <;> rfl

theorem mapM_map_eq_some {α β : Type} {write : α → β} {read : β → Option α} (h : ∀ a, read (write a) = some a)
    (as : List α) : (as.map write).mapM read = some as := by
  induction as with
  | nil => rfl
  | cons a as ih => simp [h, ih]

theorem ofValue?_value (m : Manifest) : ofValue? m.value = some m := by
  let field (b : Binding) : String × JsonValue := (b.1, .boolean b.2)
  have hgates : (m.gates.bindings.map field).mapM bindingOf? = some m.gates.bindings :=
    mapM_map_eq_some (fun b => show bindingOf? (field b) = some b from rfl) _
  have hentries : (m.entries.map rowValue).mapM rowOf? = some m.entries := mapM_map_eq_some rowOf?_rowValue _
  change (List.mapM bindingOf? (m.gates.bindings.map field) >>= fun bindings =>
    List.mapM rowOf? (m.entries.map rowValue) >>= fun entries =>
      some (Manifest.mk _ _ _ (.ofList bindings) _ _ entries)) = _
  rw [hgates, hentries]
  change some (Manifest.mk _ _ _ (.ofList m.gates.bindings) _ _ m.entries) = _
  rw [GateSet.ofList_bindings]

theorem read?_text [Toolkit] [LawfulSerializer] {m : Manifest} {text : String} (h : m.text = .ok text) :
    read? text = some m := by
  rw [Manifest.text, mapError_eq_ok_iff, map_eq_ok_iff] at h
  obtain ⟨serialized, hserialized, rfl⟩ := h
  have hblank : ∀ c ∈ "\n".toList, JsonCursor.isJsonBlank c = true := List.forall_mem_singleton.mpr rfl
  rw [read?, LawfulSerializer.read_serialized _ _ hserialized _ hblank]
  exact ofValue?_value m

end Manifest

end KindTable
