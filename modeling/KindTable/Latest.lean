import KindTable.GateSet

namespace KindTable

variable {α : Type}

inductive Latest (bs : List (String × α)) (name : String) : Option α → Prop where
  | given {before after : List (String × α)} {value : α} :
    bs = before ++ (name, value) :: after → (∀ b ∈ after, b.1 ≠ name) → Latest bs name (some value)
  | missing : (∀ b ∈ bs, b.1 ≠ name) → Latest bs name none

theorem lookup_reverse_eq_some_iff {bs : List (String × α)} {name : String} {value : α} :
    bs.reverse.lookup name = some value ↔
      ∃ before after, bs = before ++ (name, value) :: after ∧ ∀ b ∈ after, b.1 ≠ name := by
  rw [List.lookup_eq_some_iff]
  constructor
  · rintro ⟨passed, rest, hbs, hpassed⟩
    refine ⟨rest.reverse, passed.reverse, ?_, ?_⟩
    · rw [← List.reverse_reverse bs, hbs]
      simp
    · intro b hb
      have hne := hpassed b (List.mem_reverse.mp hb)
      exact fun hname => by simp [hname] at hne
  · rintro ⟨before, after, rfl, hafter⟩
    refine ⟨after.reverse, before.reverse, by simp, ?_⟩
    intro b hb
    simpa using (hafter b (List.mem_reverse.mp hb)).symm

theorem lookup_reverse_eq_none_iff {bs : List (String × α)} {name : String} :
    bs.reverse.lookup name = none ↔ ∀ b ∈ bs, b.1 ≠ name := by
  rw [List.lookup_eq_none_iff]
  constructor
  · intro h b hb hname
    simpa [hname] using h b (List.mem_reverse.mpr hb)
  · intro h b hb
    simpa using (h b (List.mem_reverse.mp hb)).symm

theorem isSome_lookup_reverse_iff {bs : List (String × α)} {name : String} :
    (bs.reverse.lookup name).isSome = true ↔ ∃ b ∈ bs, b.1 = name := by
  rw [Option.isSome_iff_ne_none, ne_eq, lookup_reverse_eq_none_iff]
  simp only [Classical.not_forall, Classical.not_not, exists_prop]

theorem latest_iff {bs : List (String × α)} {name : String} {o : Option α} :
    Latest bs name o ↔ bs.reverse.lookup name = o := by
  constructor
  · intro h
    cases h with
    | given hbs hafter => exact lookup_reverse_eq_some_iff.mpr ⟨_, _, hbs, hafter⟩
    | missing hnone => exact lookup_reverse_eq_none_iff.mpr hnone
  · rintro rfl
    cases h : bs.reverse.lookup name with
    | none => exact .missing (lookup_reverse_eq_none_iff.mp h)
    | some value =>
      obtain ⟨before, after, hbs, hafter⟩ := lookup_reverse_eq_some_iff.mp h
      exact .given hbs hafter

theorem latest_lookup (bs : List (String × α)) (name : String) : Latest bs name (bs.reverse.lookup name) :=
  latest_iff.mpr rfl

theorem lookup_reverse_congr {bs cs : List (String × α)} {name : String}
    (h : bs.filter (·.1 == name) = cs.filter (·.1 == name)) : bs.reverse.lookup name = cs.reverse.lookup name := by
  have hname (ds : List (String × α)) : (ds.filter (·.1 == name)).reverse.lookup name = ds.reverse.lookup name := by
    rw [← List.filter_reverse, lookup_filter (· == name), if_pos (beq_self_eq_true name)]
  rw [← hname bs, ← hname cs, h]

theorem lookup_reverse_of_sorted {bs : List (String × α)} (h : bs.Pairwise fun a b => a.1 < b.1) (name : String) :
    bs.reverse.lookup name = bs.lookup name := by
  ext value
  rw [lookup_reverse_eq_some_iff, lookup_eq_some_iff h]
  constructor
  · rintro ⟨before, after, rfl, -⟩
    exact List.mem_append_right before List.mem_cons_self
  · intro hmem
    obtain ⟨before, after, rfl⟩ := List.append_of_mem hmem
    refine ⟨before, after, rfl, ?_⟩
    rintro ⟨key, other⟩ hb rfl
    exact String.lt_irrefl key (List.rel_of_pairwise_cons (List.pairwise_append.mp h).2.1 hb)

theorem GateSet.get?_overlay (g later : GateSet) (name : String) :
    (g.overlay later).get? name = (later.get? name).or (g.get? name) := by
  rw [overlay, get?_setAll, lookup_reverse_of_sorted later.sorted]
  rfl

end KindTable
