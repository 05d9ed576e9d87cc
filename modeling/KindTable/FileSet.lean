import KindTable.Config

namespace KindTable

structure FileSet where
  files : List (String × String)
  deriving DecidableEq, Repr

namespace FileSet

def ofList (files : List (String × String)) : FileSet :=
  ⟨files.foldl (fun sorted f => insertBinding f.1 f.2 sorted) []⟩

def size (s : FileSet) : Nat := s.files.length

def get? (s : FileSet) (name : String) : Option String := s.files.lookup name

def names (s : FileSet) : List String := s.files.map (·.1)

theorem name_of_mem_ofList {files : List (String × String)} {f : String × String} (h : f ∈ (ofList files).files) :
    f.1 ∈ files.map (·.1) := by
  have hfold (added sorted : List (String × String))
      (hf : f ∈ added.foldl (fun sorted b => insertBinding b.1 b.2 sorted) sorted) :
      f.1 ∈ added.map (·.1) ∨ f ∈ sorted := by
    induction added generalizing sorted with
    | nil => exact .inr hf
    | cons b rest ih =>
      rw [List.map_cons, List.mem_cons]
      rcases ih _ hf with hf | hf
      · exact .inl (.inr hf)
      · exact (mem_insertBinding hf).imp .inl id
  exact (hfold files [] h).resolve_right List.not_mem_nil

theorem sorted_ofList (files : List (String × String)) : (ofList files).files.Pairwise fun a b => a.1 < b.1 := by
  have hfold (added sorted : List (String × String)) (hsorted : sorted.Pairwise fun a b => a.1 < b.1) :
      (added.foldl (fun sorted b => insertBinding b.1 b.2 sorted) sorted).Pairwise fun a b => a.1 < b.1 := by
    induction added generalizing sorted with
    | nil => exact hsorted
    | cons b rest ih => exact ih _ (insertBinding_sorted hsorted)
  exact hfold files [] .nil

theorem nodup_ofList (files : List (String × String)) : ((ofList files).files.map (·.1)).Nodup := by
  apply List.pairwise_map.mpr
  exact (sorted_ofList files).imp fun hlt => String.ne_of_lt hlt

theorem get?_ofList_eq_some_iff {files : List (String × String)} {name text : String} :
    (ofList files).get? name = some text ↔ (name, text) ∈ (ofList files).files :=
  lookup_eq_some_iff (sorted_ofList files)

theorem get?_ofList (files : List (String × String)) (name : String) :
    (ofList files).get? name = files.reverse.lookup name := by
  rw [get?, ofList, lookup_foldl_insertBinding, List.lookup_nil, Option.or_none]

def restrict (s : FileSet) (names : List String) : FileSet := ⟨s.files.filter fun f => names.contains f.1⟩

theorem eq_of_mem_iff {s other : FileSet} (hs : s.files.Pairwise fun a b => a.1 < b.1)
    (hother : other.files.Pairwise fun a b => a.1 < b.1) (h : ∀ f, f ∈ s.files ↔ f ∈ other.files) : s = other := by
  obtain ⟨files⟩ := s
  obtain ⟨otherFiles⟩ := other
  obtain rfl : files = otherFiles := bindings_eq_of_mem_iff hs hother h
  rfl

theorem restrict_ofList (files : List (String × String)) (names : List String) :
    (ofList files).restrict names = ofList (files.filter fun f => names.contains f.1) := by
  apply eq_of_mem_iff ((sorted_ofList files).filter _) (sorted_ofList _)
  rintro ⟨name, text⟩
  change (name, text) ∈ (ofList files).files.filter (fun f => names.contains f.1) ↔ _
  rw [List.mem_filter, ← get?_ofList_eq_some_iff, ← get?_ofList_eq_some_iff, get?_ofList, get?_ofList,
    ← List.filter_reverse, lookup_filter]
  cases hname : names.contains name <;> simp

def ofOutputs (texts : List (Output × String)) : FileSet := .ofList (texts.map fun t => (t.1.fileName, t.2))

theorem output_of_mem_ofOutputs {texts : List (Output × String)} {f : String × String}
    (h : f ∈ (ofOutputs texts).files) : ∃ o : Output, f.1 = o.fileName := by
  have hname := name_of_mem_ofList h
  rw [List.map_map] at hname
  obtain ⟨t, -, ht⟩ := List.mem_map.mp hname
  exact ⟨t.1, ht.symm⟩

theorem get?_ofList_outputs {outputs : List Output} {text : Output → String} {o : Output} (h : o ∈ outputs) :
    (ofList (outputs.map fun o => (o.fileName, text o))).get? o.fileName = some (text o) := by
  rw [get?_ofList, ← List.map_reverse]
  exact lookup_map_of_mem Output.fileName (fun _ => Output.fileName_inj) (List.mem_reverse.mpr h)

end FileSet

end KindTable
