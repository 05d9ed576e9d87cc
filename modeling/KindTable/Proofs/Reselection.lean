import Mathlib.Data.List.Induction
import KindTable.Proofs.Authoring
import KindTable.Selection

namespace KindTable

theorem eraseDups_concat {α : Type} [BEq α] [LawfulBEq α] (xs : List α) (x : α) :
    (xs ++ [x]).eraseDups = if x ∈ xs then xs.eraseDups else xs.eraseDups ++ [x] := by
  rw [List.eraseDups_append]
  split
  · rename_i hmem
    simp [List.removeAll, hmem]
  · rename_i hnew
    simp [List.removeAll, hnew, List.eraseDups_cons]

def firstUse (entries : List Entry) (gate : String) : Nat := entries.findIdx (·.gateName? == some gate)

theorem firstUse_lt_length {entries : List Entry} {gate : String} (h : gate ∈ entries.filterMap Entry.gateName?) :
    firstUse entries gate < entries.length := by
  obtain ⟨e, he, hgate⟩ := List.mem_filterMap.mp h
  exact List.findIdx_lt_length.mpr ⟨e, he, by rw [hgate, beq_self_eq_true]⟩

theorem firstUse_append {before : List Entry} {gate : String} (h : gate ∈ before.filterMap Entry.gateName?)
    (later : List Entry) : firstUse (before ++ later) gate = firstUse before gate := by
  have hlt := firstUse_lt_length h
  unfold firstUse at hlt ⊢
  rw [List.findIdx_append, if_pos hlt]

theorem firstUse_concat {before : List Entry} {e : Entry} {gate : String}
    (hnew : gate ∉ before.filterMap Entry.gateName?) (hgate : e.gateName? = some gate) :
    firstUse (before ++ [e]) gate = before.length := by
  have hunused : ¬before.findIdx (·.gateName? == some gate) < before.length := by
    rw [List.findIdx_lt_length]
    rintro ⟨earlier, hearlier, huses⟩
    exact hnew (List.mem_filterMap.mpr ⟨earlier, hearlier, by simpa using huses⟩)
  rw [firstUse, List.findIdx_append, if_neg hunused, List.findIdx_singleton, hgate, beq_self_eq_true]
  simp

-- The induction is from the end: a last entry adds its gate behind the others, or none.
theorem pairwise_firstUse (entries : List Entry) :
    (entries.filterMap Entry.gateName?).eraseDups.Pairwise fun g h => firstUse entries g < firstUse entries h := by
  induction entries using List.reverseRecOn with
  | nil => exact .nil
  | append_singleton before e ih =>
    have hkept : (before.filterMap Entry.gateName?).eraseDups.Pairwise fun g h =>
        firstUse (before ++ [e]) g < firstUse (before ++ [e]) h := by
      refine ih.imp_of_mem ?_
      intro g h hg hh hlt
      rwa [firstUse_append (List.mem_eraseDups.mp hg), firstUse_append (List.mem_eraseDups.mp hh)]
    rw [List.filterMap_append]
    cases hgate : e.gateName? with
    | none => simpa [hgate] using hkept
    | some gate =>
      have huses : [e].filterMap Entry.gateName? = [gate] := by simp [hgate]
      rw [huses, eraseDups_concat]
      split
      · exact hkept
      · rename_i hnew
        refine List.pairwise_append.mpr ⟨hkept, List.pairwise_singleton _ _, ?_⟩
        intro g hg h hh
        obtain rfl := List.mem_singleton.mp hh
        have hused := List.mem_eraseDups.mp hg
        rw [firstUse_append hused, firstUse_concat hnew hgate]
        exact firstUse_lt_length hused

theorem Registry.nodup_gates (r : Registry) : r.gates.Nodup :=
  (pairwise_firstUse r.entries).imp fun hlt hsame => Nat.ne_of_lt hlt (congrArg (firstUse r.entries) hsame)

theorem Registry.forall_gates_iff {r : Registry} {gates : GateSet} :
    (∀ g ∈ r.gates, gates.contains g = true) ↔ ∀ e ∈ r.entries, e.Resolved gates := by
  simp only [mem_gates_iff]
  constructor
  · intro h e he g hg
    exact h g ⟨e, he, hg⟩
  · rintro h g ⟨e, he, hg⟩
    exact h e he g hg

theorem Entry.inclusion_eq_error_iff {e : Entry} {gates : GateSet} {fallback : SoftFallback} {error : RegistryError} :
    e.inclusion gates fallback = .error error ↔ unresolvedGate? gates e = some error := by
  obtain ⟨name, mode⟩ := e
  cases mode with
  | always => simp [Entry.inclusion, unresolvedGate?, Entry.gateName?, Entry.gate?, Mode.gate?]
  | gated gate =>
    cases hgate : gates.get? gate.name.text <;>
      simp [Entry.inclusion, unresolvedGate?, Entry.gateName?, Entry.gate?, Mode.gate?, GateSet.contains, hgate]

theorem inclusions_cons_eq_error_iff {gates : GateSet} {fallback : SoftFallback} {e : Entry} {rest : List Entry}
    {error : RegistryError} : inclusions gates fallback (e :: rest) = .error error ↔
      e.inclusion gates fallback = .error error ∨
        (∃ i, e.inclusion gates fallback = .ok i) ∧ inclusions gates fallback rest = .error error := by
  rw [inclusions]
  cases e.inclusion gates fallback <;> simp [map_eq_error_iff]

theorem unresolved_of_inclusions {gates : GateSet} {fallback : SoftFallback} {entries : List Entry}
    {error : RegistryError} (h : inclusions gates fallback entries = .error error) :
    ∃ passed e later, entries = passed ++ e :: later ∧ (∀ a ∈ passed, a.Resolved gates) ∧
      unresolvedGate? gates e = some error := by
  induction entries with
  | nil => cases h
  | cons e rest ih =>
    rcases inclusions_cons_eq_error_iff.mp h with hfirst | ⟨hpasses, hrest⟩
    · exact ⟨[], e, rest, rfl, by simp, Entry.inclusion_eq_error_iff.mp hfirst⟩
    · obtain ⟨passed, failed, later, rfl, hpassed, hfailed⟩ := ih hrest
      exact ⟨e :: passed, failed, later, rfl,
        List.forall_mem_cons.mpr ⟨Entry.exists_inclusion_iff.mp hpasses, hpassed⟩, hfailed⟩

def FirstUnresolved (gates : GateSet) (entries : List Entry) (error : RegistryError) : Prop :=
  ∃ (i : Nat) (e : Entry) (g : String), entries[i]? = some e ∧ e.gateName? = some g ∧ gates.get? g = none ∧
    (∀ j < i, ∀ (earlier : Entry) (used : String), entries[j]? = some earlier → earlier.gateName? = some used →
      gates.get? used ≠ none) ∧
    error = .unknownGate g e.name.text

theorem firstUnresolved_of_select {r : Registry} {gates : GateSet} {fallback : SoftFallback} {error : RegistryError}
    (h : r.select gates fallback = .error error) : FirstUnresolved gates r.entries error := by
  obtain ⟨passed, e, later, hentries, hpassed, hfailed⟩ := unresolved_of_inclusions (inclusions_of_select_error h)
  obtain ⟨g, hgate, hlacks, rfl⟩ := unresolvedGate?_eq_some_iff.mp hfailed
  refine ⟨passed.length, e, g, by simp [hentries], hgate, by simpa [GateSet.contains] using hlacks, ?_, rfl⟩
  intro j hj earlier used hearlier hused hnone
  rw [hentries, List.getElem?_append_left hj] at hearlier
  have hresolved := hpassed earlier (List.mem_of_getElem? hearlier) used hused
  simp [GateSet.contains, hnone] at hresolved

structure Reselects (r : Registry) (frozen gates : GateSet) (fallback : SoftFallback) : Prop where
  referenced : ∀ g, g ∈ r.gates ↔ ∃ e ∈ r.entries, e.gateName? = some g
  once : r.gates.Nodup
  ordered : r.gates.Pairwise fun g h => firstUse r.entries g < firstUse r.entries h
  selects : (∃ s, r.select gates fallback = .ok s) ↔ ∀ g ∈ r.gates, gates.contains g = true
  refused : ∀ error, r.select gates fallback = .error error → FirstUnresolved gates r.entries error
  again : ∃ s, r.select frozen fallback = .ok s
  covers : (∀ g, frozen.contains g = true → gates.contains g = true) → ∃ s, r.select gates fallback = .ok s

theorem frozen_reselects {d : Draft} {frozen : GateSet} {r : Registry} (h : d.freeze frozen = .ok r)
    (gates : GateSet) (fallback : SoftFallback) : Reselects r frozen gates fallback := by
  have hresolved : ∀ e ∈ r.entries, e.Resolved frozen := by
    rw [← (Draft.freeze_eq_ok_iff.mp h).2]
    exact (exists_freeze_iff.mp ⟨r, h⟩).2
  constructor
  case referenced => exact fun g => Registry.mem_gates_iff
  case once => exact r.nodup_gates
  case ordered => exact pairwise_firstUse r.entries
  case selects => rw [exists_select_iff, Registry.forall_gates_iff]
  case refused => exact fun error herror => firstUnresolved_of_select herror
  case again => exact exists_select_iff.mpr hresolved
  case covers =>
    intro hcovers
    exact exists_select_iff.mpr fun e he g hg => hcovers g (hresolved e he g hg)

def sharingDraft : Draft :=
  ⟨[⟨⟨"Fetch", rfl⟩, .gated ⟨⟨"Cache", rfl⟩, .soft⟩⟩, ⟨⟨"Merge", rfl⟩, .always⟩,
    ⟨⟨"Gather", rfl⟩, .gated ⟨⟨"Simd", rfl⟩, .hard⟩⟩, ⟨⟨"Flush", rfl⟩, .gated ⟨⟨"Cache", rfl⟩, .hard⟩⟩]⟩

def sharingRegistry : Registry := ⟨sharingDraft.entries, by decide⟩

theorem frozen_reselects_sharing :
    sharingDraft.freeze (.ofList [("Cache", true), ("Simd", false)]) = .ok sharingRegistry ∧
      sharingRegistry.gates = ["Cache", "Simd"] ∧
      FirstUnresolved (.ofList [("Cache", false)]) sharingRegistry.entries (.unknownGate "Simd" "Gather") ∧
      ∃ s, sharingRegistry.select (.ofList [("Jit", true), ("Simd", true), ("Cache", false)]) .drop = .ok s := by
  have hfrozen : sharingDraft.freeze (.ofList [("Cache", true), ("Simd", false)]) = .ok sharingRegistry := by
    refine Draft.freeze_eq_ok_iff.mpr ⟨firstDefect?_eq_none_iff.mpr ⟨by simp, by decide, by decide⟩, rfl⟩
  have hrefused : sharingRegistry.select (.ofList [("Cache", false)]) .keep =
      .error (.unknownGate "Simd" "Gather") := rfl
  have hgates : sharingRegistry.gates = ["Cache", "Simd"] := by decide
  refine ⟨hfrozen, hgates, (frozen_reselects hfrozen _ .keep).refused _ hrefused, ?_⟩
  rw [(frozen_reselects hfrozen _ .drop).selects, hgates]
  decide

end KindTable
