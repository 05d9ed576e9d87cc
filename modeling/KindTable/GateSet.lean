namespace KindTable

variable {α : Type}

def insertBinding (name : String) (value : α) : List (String × α) → List (String × α)
  | [] => [(name, value)]
  | b :: rest =>
    if name < b.1 then (name, value) :: b :: rest
    else if name = b.1 then (name, value) :: rest
    else b :: insertBinding name value rest

theorem mem_insertBinding {name : String} {value : α} {bs : List (String × α)} {b : String × α}
    (h : b ∈ insertBinding name value bs) : b.1 = name ∨ b ∈ bs := by
  induction bs with
  | nil => simp_all [insertBinding]
  | cons a rest ih =>
    unfold insertBinding at h
    split at h
    · rcases List.mem_cons.mp h with rfl | h
      · exact .inl rfl
      · exact .inr h
    · split at h
      · rcases List.mem_cons.mp h with rfl | h
        · exact .inl rfl
        · exact .inr (List.mem_cons_of_mem _ h)
      · rcases List.mem_cons.mp h with rfl | h
        · exact .inr List.mem_cons_self
        · exact (ih h).imp id (List.mem_cons_of_mem _)

theorem insertBinding_sorted {name : String} {value : α} {bs : List (String × α)}
    (h : bs.Pairwise (fun a b => a.1 < b.1)) :
    (insertBinding name value bs).Pairwise (fun a b => a.1 < b.1) := by
  induction bs with
  | nil => simp [insertBinding]
  | cons a rest ih =>
    obtain ⟨ha, hrest⟩ := List.pairwise_cons.mp h
    unfold insertBinding
    split
    · rename_i hlt
      refine List.pairwise_cons.mpr ⟨?_, h⟩
      intro b hb
      rcases List.mem_cons.mp hb with rfl | hb
      · exact hlt
      · exact String.lt_trans hlt (ha b hb)
    · split
      · rename_i heq
        exact List.pairwise_cons.mpr ⟨fun b hb => heq ▸ ha b hb, hrest⟩
      · rename_i hlt hne
        refine List.pairwise_cons.mpr ⟨?_, ih hrest⟩
        intro b hb
        rcases mem_insertBinding hb with hb | hb
        · rw [hb]
          exact String.not_le.mp fun hle => hne (String.le_antisymm hle (String.not_lt.mp hlt))
        · exact ha b hb

theorem lookup_cons_eq {name : String} {b : String × α} {bs : List (String × α)} :
    (b :: bs).lookup name = if name = b.1 then some b.2 else bs.lookup name := by
  obtain ⟨k, v⟩ := b
  rw [List.lookup_cons]
  by_cases h : name = k
  · simp [h]
  · rw [show (name == k) = false from by simpa using h]
    simp [h]

theorem lookup_filter (keep : String → Bool) (bs : List (String × α)) (name : String) :
    (bs.filter fun b => keep b.1).lookup name = if keep name then bs.lookup name else none := by
  induction bs with
  | nil => simp
  | cons b rest ih =>
    rw [List.filter_cons, lookup_cons_eq]
    by_cases hname : name = b.1
    · subst hname
      split
      · rw [lookup_cons_eq, if_pos rfl, if_pos rfl]
      · rename_i hdropped
        rw [ih, if_neg hdropped]
    · rw [if_neg hname, ← ih]
      split
      · rw [lookup_cons_eq, if_neg hname]
      · rfl

theorem lookup_map_of_mem {β : Type} (key : β → String) {value : β → α} {xs : List β} {x : β}
    (hkey : ∀ y, key x = key y → x = y) (hx : x ∈ xs) :
    (xs.map fun x => (key x, value x)).lookup (key x) = some (value x) := by
  induction xs with
  | nil => cases hx
  | cons y rest ih =>
    rw [List.map_cons, lookup_cons_eq]
    by_cases hsame : key x = key y
    · rw [if_pos hsame, hkey y hsame]
    · rw [if_neg hsame]
      rcases List.mem_cons.mp hx with rfl | hx
      · exact absurd rfl hsame
      · exact ih hx

theorem lookup_insertBinding {name : String} {value : α} {bs : List (String × α)} {other : String} :
    (insertBinding name value bs).lookup other = if other = name then some value else bs.lookup other := by
  induction bs with
  | nil => simp only [insertBinding, lookup_cons_eq]
  | cons a rest ih =>
    unfold insertBinding
    split
    · exact lookup_cons_eq
    · split
      · rename_i heq
        simp only [lookup_cons_eq, ← heq]
        split <;> rfl
      · rename_i hne
        simp only [lookup_cons_eq, ih]
        by_cases h : other = a.1
        · have : ¬ other = name := fun e => hne (e.symm.trans h)
          simp [h]
          intro e
          exact absurd (h.trans e) this
        · simp [h]

theorem lookup_foldl_insertBinding (added bs : List (String × α)) (name : String) :
    (added.foldl (fun sorted b => insertBinding b.1 b.2 sorted) bs).lookup name =
      (added.reverse.lookup name).or (bs.lookup name) := by
  induction added generalizing bs with
  | nil => rfl
  | cons b rest ih =>
    rw [List.foldl_cons, ih, lookup_insertBinding, List.reverse_cons, List.lookup_append, Option.or_assoc]
    congr 1
    rw [lookup_cons_eq]
    split <;> rfl

theorem lookup_eq_some_iff {bs : List (String × α)} (h : bs.Pairwise (fun a b => a.1 < b.1)) {name : String}
    {value : α} : bs.lookup name = some value ↔ (name, value) ∈ bs := by
  induction bs with
  | nil => simp
  | cons a rest ih =>
    obtain ⟨key, first⟩ := a
    obtain ⟨hfirst, hrest⟩ := List.pairwise_cons.mp h
    rw [lookup_cons_eq, List.mem_cons, Prod.mk.injEq]
    by_cases hname : name = key
    · subst hname
      have hnot : (name, value) ∉ rest := fun hlater => String.lt_irrefl name (hfirst (name, value) hlater)
      simp [hnot, eq_comm]
    · simp [hname, ih hrest]

theorem bindings_eq_of_mem_iff {bs cs : List (String × α)} (hbs : bs.Pairwise (fun a b => a.1 < b.1))
    (hcs : cs.Pairwise (fun a b => a.1 < b.1)) (h : ∀ b, b ∈ bs ↔ b ∈ cs) : bs = cs := by
  have hnodup {ds : List (String × α)} (hds : ds.Pairwise (fun a b => a.1 < b.1)) : ds.Nodup := by
    apply hds.imp
    rintro a b hlt rfl
    exact String.lt_irrefl _ hlt
  refine ((List.perm_ext_iff_of_nodup (hnodup hbs) (hnodup hcs)).mpr h).eq_of_pairwise ?_ hbs hcs
  intro a b _ _ hab hba
  exact absurd (String.lt_trans hab hba) (String.lt_irrefl _)

abbrev Binding := String × Bool

structure GateSet where
  bindings : List Binding
  sorted : bindings.Pairwise (fun a b => a.1 < b.1)

namespace GateSet

def empty : GateSet := ⟨[], .nil⟩

instance : EmptyCollection GateSet := ⟨empty⟩
instance : Inhabited GateSet := ⟨empty⟩

def set (g : GateSet) (name : String) (value : Bool) : GateSet :=
  ⟨insertBinding name value g.bindings, insertBinding_sorted g.sorted⟩

def get? (g : GateSet) (name : String) : Option Bool := g.bindings.lookup name

def contains (g : GateSet) (name : String) : Bool := (g.get? name).isSome

def setAll (g : GateSet) (bs : List Binding) : GateSet := bs.foldl (fun g b => g.set b.1 b.2) g

def ofList (bs : List Binding) : GateSet := empty.setAll bs

def overlay (g later : GateSet) : GateSet := g.setAll later.bindings

@[simp] theorem get?_set (g : GateSet) (name : String) (value : Bool) (other : String) :
    (g.set name value).get? other = if other = name then some value else g.get? other :=
  lookup_insertBinding

theorem setAll_bindings (g : GateSet) (bs : List Binding) :
    (g.setAll bs).bindings = bs.foldl (fun sorted b => insertBinding b.1 b.2 sorted) g.bindings :=
  (List.foldl_hom GateSet.bindings fun _ _ => rfl).symm

theorem get?_setAll (g : GateSet) (bs : List Binding) (name : String) :
    (g.setAll bs).get? name = (bs.reverse.lookup name).or (g.get? name) := by
  rw [get?, setAll_bindings, lookup_foldl_insertBinding]
  rfl

theorem mem_bindings_iff {g : GateSet} {b : Binding} : b ∈ g.bindings ↔ g.get? b.1 = some b.2 :=
  (lookup_eq_some_iff g.sorted).symm

theorem eq_of_mem_iff {g others : GateSet} (h : ∀ b, b ∈ g.bindings ↔ b ∈ others.bindings) : g = others := by
  obtain ⟨bindings, sorted⟩ := g
  obtain ⟨otherBindings, otherSorted⟩ := others
  obtain rfl : bindings = otherBindings := bindings_eq_of_mem_iff sorted otherSorted h
  rfl

theorem eq_of_get?_eq {g others : GateSet} (h : ∀ name, g.get? name = others.get? name) : g = others :=
  eq_of_mem_iff fun b => by rw [mem_bindings_iff, mem_bindings_iff, h]

end GateSet

end KindTable
