import Mathlib.Tactic.Push
import KindTable.Proofs.StandardNaming

namespace KindTable

section

variable [Toolkit]

inductive Owns (earlier : List String) : (method owner : String) → Prop where
  | fallback : Owns earlier fallbackMethod fallbackOwner
  | node {name : String} : name ∈ earlier → Owns earlier (methodName name) name

theorem owns_append_iff {earlier : List String} {node method owner : String} :
    Owns (earlier ++ [node]) method owner ↔
      Owns earlier method owner ∨ (method = methodName node ∧ owner = node) := by
  constructor
  · intro h
    cases h with
    | fallback => exact .inl .fallback
    | node hname =>
      rcases List.mem_append.mp hname with hname | hname
      · exact .inl (.node hname)
      · obtain rfl := List.mem_singleton.mp hname
        exact .inr ⟨rfl, rfl⟩
  · rintro (h | ⟨rfl, rfl⟩)
    · cases h with
      | fallback => exact .fallback
      | node hname => exact .node (List.mem_append_left _ hname)
    · exact .node (List.mem_append_right _ List.mem_cons_self)

def Records (owners : Std.HashMap String String) (earlier : List String) : Prop :=
  ∀ method owner, owners[method]? = some owner ↔ Owns earlier method owner

section

variable {owners : Std.HashMap String String} {earlier : List String} {node method owner first : String}

theorem records_fallback : Records (Std.HashMap.insert ∅ fallbackMethod fallbackOwner) [] := by
  intro method owner
  rw [Std.HashMap.getElem?_insert]
  constructor
  · intro h
    split at h
    · rename_i hmethod
      obtain rfl := beq_iff_eq.mp hmethod
      obtain rfl := Option.some.inj h
      exact .fallback
    · simp at h
  · intro h
    cases h with
    | fallback => simp
    | node hname => cases hname

theorem Records.insert (h : Records owners earlier) (hfree : owners[methodName node]? = none) :
    Records (owners.insert (methodName node) node) (earlier ++ [node]) := by
  intro method owner
  rw [Std.HashMap.getElem?_insert, owns_append_iff, ← h method owner]
  by_cases hmethod : methodName node = method
  · subst hmethod
    simp [hfree, eq_comm]
  · have hother : method ≠ methodName node := fun hsame => hmethod hsame.symm
    simp [hmethod, hother]

theorem Records.owner_unique (h : Records owners earlier) (hfirst : Owns earlier method first)
    (howner : Owns earlier method owner) : owner = first := by
  rw [← h] at hfirst howner
  exact Option.some.inj (howner.symm.trans hfirst)

theorem Records.not_owns (h : Records owners earlier) (hfree : owners[method]? = none) :
    ¬Owns earlier method owner := by
  rw [← h, hfree]
  simp

end

structure ClashesAt (earlier nodes : List String) (k : Nat) (method first second : String) : Prop where
  reached : nodes[k]? = some second
  shared : methodName second = method
  owned : Owns (earlier ++ nodes.take k) method first
  unique : ∀ owner, Owns (earlier ++ nodes.take k) method owner → owner = first
  earliest : ∀ j < k, ∀ other, nodes[j]? = some other →
    ∀ owner, ¬Owns (earlier ++ nodes.take j) (methodName other) owner

section

variable {earlier rest : List String} {node method first second : String} {k : Nat}

theorem clashesAt_cons_succ (hfree : ∀ owner, ¬Owns earlier (methodName node) owner) :
    ClashesAt earlier (node :: rest) (k + 1) method first second ↔
      ClashesAt (earlier ++ [node]) rest k method first second := by
  constructor
  · intro h
    refine ⟨h.reached, h.shared, by simpa using h.owned, by simpa using h.unique, ?_⟩
    intro j hj other hother owner
    simpa using h.earliest (j + 1) (Nat.succ_lt_succ hj) other hother owner
  · intro h
    refine ⟨h.reached, h.shared, by simpa using h.owned, by simpa using h.unique, ?_⟩
    intro j hj other hother owner
    cases j with
    | zero =>
      obtain rfl := Option.some.inj hother
      simpa using hfree owner
    | succ j => simpa using h.earliest j (Nat.lt_of_succ_lt_succ hj) other hother owner

end

theorem assignMethods_eq_error_iff {owners : Std.HashMap String String} {earlier nodes : List String}
    (h : Records owners earlier) (hwords : ∀ node ∈ nodes, Toolkit.isWord (methodName node) = true)
    {e : EmissionError} : assignMethods owners nodes = .error e ↔
      ∃ k method first second,
        ClashesAt earlier nodes k method first second ∧ .methodCollision method first second = e := by
  induction nodes generalizing owners earlier with
  | nil =>
    constructor
    · intro hassign
      cases hassign
    · rintro ⟨k, method, first, second, hclash, -⟩
      cases hclash.reached
  | cons node rest ih =>
    obtain ⟨hword, hwords⟩ := List.forall_mem_cons.mp hwords
    unfold assignMethods
    split
    · rename_i first hfirst
      have howned : Owns earlier (methodName node) first := (h _ _).mp hfirst
      have hclash : ClashesAt earlier (node :: rest) 0 (methodName node) first node := by
        refine ⟨rfl, rfl, by simpa using howned, ?_, fun j hj => absurd hj (Nat.not_lt_zero j)⟩
        intro owner howner
        exact h.owner_unique howned (by simpa using howner)
      constructor
      · intro hassign
        exact ⟨0, _, _, _, hclash, Except.error.inj hassign⟩
      · rintro ⟨k, method, other, second, hother, rfl⟩
        cases k with
        | zero =>
          obtain rfl := Option.some.inj hother.reached
          obtain rfl := hother.shared
          rw [hclash.unique other hother.owned]
        | succ k => exact absurd (by simpa using howned) (hother.earliest 0 (Nat.succ_pos k) node rfl first)
    · rename_i hfree
      have hunowned : ∀ owner, ¬Owns earlier (methodName node) owner := fun owner => h.not_owns hfree
      rw [if_pos hword, map_eq_error_iff, ih (h.insert hfree) hwords]
      constructor
      · rintro ⟨k, method, first, second, hclash, rfl⟩
        exact ⟨k + 1, method, first, second, (clashesAt_cons_succ hunowned).mpr hclash, rfl⟩
      · rintro ⟨k, method, first, second, hclash, rfl⟩
        cases k with
        | zero =>
          obtain rfl := Option.some.inj hclash.reached
          obtain rfl := hclash.shared
          exact absurd (by simpa using hclash.owned) (hunowned first)
        | succ k => exact ⟨k, method, first, second, (clashesAt_cons_succ hunowned).mp hclash, rfl⟩

namespace Selection

theorem handlers_of_visitorTable {s : Selection} {policy : SlotPolicy} {table : Artifact (DispatchRow String)}
    (h : s.visitorTable policy = .ok table) :
    table.rows.filterMap (·.handler) = s.active.map fun a => methodName a.name := by
  rw [rows_of_visitorTable h, List.filterMap_map, ← filterMap_active?_slots s policy, List.map_filterMap]
  rfl

theorem visitorTable_outcome_congr {s t : Selection} (h : t.active.map (·.name) = s.active.map (·.name))
    (policy other : SlotPolicy) :
    (t.visitorTable other).map (fun _ => ()) = (s.visitorTable policy).map fun _ => () := by
  rw [visitorTable, visitorTable, methods, methods, h]
  cases assignMethods (Std.HashMap.insert ∅ fallbackMethod fallbackOwner) (s.active.map (·.name)) <;> rfl

variable [LawfulNaming]

theorem isWord_method_of_active (s : Selection) : ∀ a ∈ s.active, Toolkit.isWord (methodName a.name) = true :=
  fun a _ => LawfulNaming.isWord_of_spelling _ (isWord_methodName a.entry.name)

theorem methods_eq_error_iff {s : Selection} {e : EmissionError} : s.methods = .error e ↔
    ∃ k method first second,
      ClashesAt [] (s.active.map (·.name)) k method first second ∧ .methodCollision method first second = e :=
  assignMethods_eq_error_iff records_fallback (List.forall_mem_map.mpr s.isWord_method_of_active)

theorem collision_of_methods {s : Selection} {e : EmissionError} (h : s.methods = .error e) :
    ∃ method first second, second ∈ s.active.map (·.name) ∧ method = methodName second ∧
      e = .methodCollision method first second := by
  obtain ⟨k, method, first, second, hclash, rfl⟩ := methods_eq_error_iff.mp h
  exact ⟨method, first, second, List.mem_of_getElem? hclash.reached, hclash.shared.symm, rfl⟩

theorem visitorTable_eq_error_iff {s : Selection} {policy : SlotPolicy} {e : EmissionError} :
    s.visitorTable policy = .error e ↔ ∃ k method first second,
      ClashesAt [] (s.active.map (·.name)) k method first second ∧ .methodCollision method first second = e := by
  rw [visitorTable, map_eq_error_iff, methods_eq_error_iff]

theorem exists_clash_iff {s : Selection} {policy : SlotPolicy} : (∃ e, s.visitorTable policy = .error e) ↔
    (∃ (i j : Nat) (a b : ActiveEntry), i < j ∧ s.active[i]? = some a ∧ s.active[j]? = some b ∧
      methodName a.name = methodName b.name) ∨
    ∃ a ∈ s.active, methodName a.name = fallbackMethod := by
  have hsuccess : (∃ e, s.visitorTable policy = .error e) ↔ ¬∃ table, s.visitorTable policy = .ok table := by
    cases s.visitorTable policy <;> simp
  have hdistinct : ((s.active.map (·.name)).map methodName).Nodup ↔ ∀ (i j : Nat) (a b : ActiveEntry), i < j →
      s.active[i]? = some a → s.active[j]? = some b → methodName a.name ≠ methodName b.name := by
    rw [List.map_map, List.Nodup, List.pairwise_map, List.pairwise_iff_getElem]
    constructor
    · intro h i j a b hij ha hb
      obtain ⟨hi, rfl⟩ := List.getElem?_eq_some_iff.mp ha
      obtain ⟨hj, rfl⟩ := List.getElem?_eq_some_iff.mp hb
      exact h i j hi hj hij
    · intro h i j hi hj hij
      exact h i j _ _ hij (List.getElem?_eq_getElem hi) (List.getElem?_eq_getElem hj)
  have hwords : (∀ a ∈ s.active, Toolkit.isWord (methodName a.name) = true) ↔ True :=
    iff_true_intro s.isWord_method_of_active
  simp only [hsuccess, visitorTable_eq_ok_iff, exists_and_left, exists_eq', and_true, hdistinct, hwords, not_and_or]
  push Not
  simp only [exists_and_left]

end Selection

end

theorem visitor_collisions_exact (s : Selection) (policy : SlotPolicy) :
    ((∃ e, s.visitorTable policy = .error e) ↔
      (∃ (i j : Nat) (a b : ActiveEntry), i < j ∧ s.active[i]? = some a ∧ s.active[j]? = some b ∧
        methodName a.name = methodName b.name) ∨
      ∃ a ∈ s.active, methodName a.name = fallbackMethod) ∧
    (∀ e, s.visitorTable policy = .error e ↔ ∃ k method first second,
      ClashesAt [] (s.active.map (·.name)) k method first second ∧ .methodCollision method first second = e) ∧
    (∀ table, s.visitorTable policy = .ok table → table.rows.length = s.width policy ∧
      (∀ (i : Nat) (slot : Slot), (s.slots policy)[i]? = some slot → ∃ row : DispatchRow String,
        table.rows[i]? = some row ∧ row.name = slot.name ∧
        row.handler = slot.active?.map fun a => methodName a.name) ∧
      (table.rows.filterMap (·.handler)).Nodup ∧ fallbackMethod ∉ table.rows.filterMap (·.handler)) ∧
    ∀ (t : Selection) (other : SlotPolicy), t.active.map (·.name) = s.active.map (·.name) →
      (t.visitorTable other).map (fun _ => ()) = (s.visitorTable policy).map fun _ => () := by
  refine ⟨Selection.exists_clash_iff, fun e => Selection.visitorTable_eq_error_iff, ?_, ?_⟩
  · intro table htable
    obtain ⟨hdistinct, hfree, -⟩ := Selection.visitorTable_eq_ok_iff.mp htable
    rw [List.map_map] at hdistinct
    rw [Selection.handlers_of_visitorTable htable]
    refine ⟨?_, ?_, hdistinct, ?_⟩
    · rw [Selection.rows_of_visitorTable htable, List.length_map, Selection.length_slots]
    · intro i slot hslot
      refine ⟨⟨slot.index, slot.name, slot.method?⟩, ?_, rfl, rfl⟩
      rw [Selection.rows_of_visitorTable htable, List.getElem?_map, hslot, Option.map_some]
    · intro htaken
      obtain ⟨a, ha, hname⟩ := List.mem_map.mp htaken
      exact hfree a ha hname
  · exact fun t other h => Selection.visitorTable_outcome_congr h policy other

end KindTable
