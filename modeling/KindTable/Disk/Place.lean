import Mathlib.Data.String.Basic
import KindTable.Disk.Basic

namespace KindTable.Disk

variable {d : Disk} {p q here there : Location} {name : String} {names rest : List String} {n : DiskNode}

theorem lookup_filter_ne {nodes : List (Location × DiskNode)} (h : q ≠ p) :
    (nodes.filter (·.1 != p)).lookup q = nodes.lookup q := by
  induction nodes with
  | nil => rfl
  | cons node later ih =>
    obtain ⟨place, n⟩ := node
    by_cases hplace : place = p
    · have hne : (q == place) = false := by simpa [hplace] using h
      rw [List.filter_cons_of_neg (by simp [hplace]), ih, List.lookup_cons, hne]
    · rw [List.filter_cons_of_pos (by simpa using hplace), List.lookup_cons, List.lookup_cons, ih]

theorem node?_put_self (h : d.node? p ≠ some .directory) : (d.put p n).node? p = some n := by
  have hbelow : p.isPrefixOf d.workingDirectory = false := by
    rw [Bool.eq_false_iff]
    exact fun habove => h (by rw [node?, if_pos habove])
  simp [node?, put, hbelow]

theorem node?_put_ne (h : q ≠ p) : (d.put p n).node? q = d.node? q := by
  have hne : (q == p) = false := by simpa using h
  simp only [node?, put, List.lookup_cons, hne, lookup_filter_ne h]

def IsPlain (name : String) : Prop := name ≠ "" ∧ name ≠ "." ∧ name ≠ ".." ∧ ¬longestName < name.utf8ByteSize

instance (name : String) : Decidable (IsPlain name) := inferInstanceAs (Decidable (_ ∧ _))

theorem walk_skip (h : name = "" ∨ name = ".") : d.walk here (name :: rest) = d.walk here rest := by
  rw [walk, if_pos (by simpa using h)]

theorem walk_up : d.walk here (".." :: rest) = d.walk here.dropLast rest := by
  rw [walk, if_neg (by decide), if_pos rfl]

theorem walk_plain (h : IsPlain name) : d.walk here (name :: rest) =
    if rest.isEmpty then .ok (.entry (here ++ [name]))
    else
      match d.node? (here ++ [name]) with
      | none => .error .missing
      | some (.file _) => .error .notDirectory
      | some .directory => d.walk (here ++ [name]) rest := by
  obtain ⟨hempty, hdot, hup, hfits⟩ := h
  rw [walk, if_neg (by simp [hempty, hdot]), if_neg hup]
  exact if_neg hfits

theorem walk_last (h : IsPlain name) : d.walk here [name] = .ok (.entry (here ++ [name])) := by
  rw [walk_plain h]
  rfl

theorem walk_enter (h : IsPlain name) (hdirectory : d.node? (here ++ [name]) = some .directory) (hrest : rest ≠ []) :
    d.walk here (name :: rest) = d.walk (here ++ [name]) rest := by
  rw [walk_plain h, if_neg (by simpa using hrest), hdirectory]

theorem walk_missing (h : IsPlain name) (hmissing : d.node? (here ++ [name]) = none) (hrest : rest ≠ []) :
    d.walk here (name :: rest) = .error .missing := by
  rw [walk_plain h, if_neg (by simpa using hrest), hmissing]

inductive Leads (d : Disk) : Location → List String → Location → Prop where
  | here {p : Location} : Leads d p [] p
  | skip {p q : Location} {name : String} {rest : List String} :
    name = "" ∨ name = "." → Leads d p rest q → Leads d p (name :: rest) q
  | up {p q : Location} {name : String} {rest : List String} :
    name = ".." → Leads d p.dropLast rest q → Leads d p (name :: rest) q
  | enter {p q : Location} {name : String} {rest : List String} :
    IsPlain name → d.node? (p ++ [name]) = some .directory → Leads d (p ++ [name]) rest q → Leads d p (name :: rest) q

namespace Leads

theorem walk (h : Leads d here names there) (hrest : rest ≠ []) : d.walk here (names ++ rest) = d.walk there rest := by
  induction h with
  | here => rfl
  | skip hname h ih => rw [List.cons_append, walk_skip hname, ih]
  | up hname h ih => rw [hname, List.cons_append, walk_up, ih]
  | enter hname hnode h ih => rw [List.cons_append, walk_enter hname hnode (by simp [hrest]), ih]

theorem walk_self (h : Leads d here names there) :
    d.walk here names = .ok (.directory there) ∨
      d.walk here names = .ok (.entry there) ∧ d.node? there = some .directory := by
  induction h with
  | here => exact .inl rfl
  | skip hname h ih => rwa [walk_skip hname]
  | up hname h ih => rwa [hname, walk_up]
  | @enter p q name rest hname hnode h ih =>
    cases rest with
    | nil =>
      cases h
      exact .inr ⟨walk_last hname, hnode⟩
    | cons next later => rwa [walk_enter hname hnode (List.cons_ne_nil _ _)]

theorem append (h : Leads d here names there) (hrest : Leads d there rest q) : Leads d here (names ++ rest) q := by
  induction h with
  | here => exact hrest
  | skip hname h ih => exact .skip hname (ih hrest)
  | up hname h ih => exact .up hname (ih hrest)
  | enter hname hnode h ih => exact .enter hname hnode (ih hrest)

theorem mono {other : Disk} (h : Leads d here names there)
    (hkeeps : ∀ p, d.node? p = some .directory → other.node? p = some .directory) :
    Leads other here names there := by
  induction h with
  | here => exact .here
  | skip hname h ih => exact .skip hname ih
  | up hname h ih => exact .up hname ih
  | enter hname hnode h ih => exact .enter hname (hkeeps _ hnode) ih

theorem of_skip (hname : name = "" ∨ name = ".") (h : Leads d here (name :: names) there) :
    Leads d here names there := by
  cases h with
  | skip _ h => exact h
  | up hup => rcases hname with rfl | rfl <;> simp at hup
  | enter hplain => rcases hname with rfl | rfl <;> simp [IsPlain] at hplain

theorem of_append_blanks {count : Nat} (h : Leads d here (names ++ List.replicate count "") there) :
    Leads d here names there := by
  induction names generalizing here with
  | nil =>
    induction count with
    | zero => exact h
    | succ count ih => exact ih (h.of_skip (.inl rfl))
  | cons name rest ih =>
    cases h with
    | skip hname h => exact .skip hname (ih h)
    | up hname h => exact .up hname (ih h)
    | enter hname hnode h => exact .enter hname hnode (ih h)

end Leads

theorem leads_of_walk (h : d.walk here names = .ok (.directory there) ∨
    d.walk here names = .ok (.entry there) ∧ d.node? there = some .directory) : Leads d here names there := by
  fun_induction walk d here names with
  | case1 here =>
    rcases h with h | ⟨h, -⟩ <;> cases h
    exact .here
  | case2 here name rest hname ih => exact .skip (by simpa using hname) (ih h)
  | case3 here rest _ ih => exact .up rfl (ih h)
  | case4 here name rest _ _ hlong => rcases h with h | ⟨h, -⟩ <;> cases h
  | case5 here name rest hname hup hfits hrest =>
    rcases h with h | ⟨h, hnode⟩ <;> cases h
    obtain rfl := List.isEmpty_iff.mp hrest
    simp only [Bool.or_eq_true, decide_eq_true_eq, not_or] at hname
    exact .enter ⟨hname.1, hname.2, hup, hfits⟩ hnode .here
  | case6 here name rest _ _ _ _ hnode => rcases h with h | ⟨h, -⟩ <;> cases h
  | case7 here name rest _ _ _ _ content hnode => rcases h with h | ⟨h, -⟩ <;> cases h
  | case8 here name rest hname hup hfits hrest hnode ih =>
    simp only [Bool.or_eq_true, decide_eq_true_eq, not_or] at hname
    exact .enter ⟨hname.1, hname.2, hup, hfits⟩ hnode (ih h)

inductive Elided : List String → List String → Prop where
  | nil : Elided [] []
  | drop {name : String} {names shorter : List String} :
    name = "" ∨ name = "." → Elided names shorter → Elided (name :: names) shorter
  | keep {name : String} {names shorter : List String} : Elided names shorter → Elided (name :: names) (name :: shorter)

namespace Elided

variable {shorter : List String}

theorem walk (h : Elided names shorter) (last : String) :
    d.walk here (names ++ [last]) = d.walk here (shorter ++ [last]) := by
  induction h generalizing here with
  | nil => rfl
  | drop hname h ih => rw [List.cons_append, walk_skip hname, ih]
  | @keep name names shorter h ih =>
    simp only [List.cons_append, Disk.walk, ih, List.isEmpty_iff, List.append_eq_nil_iff, List.cons_ne_nil, and_false]

theorem leads (h : Elided names shorter) : Leads d here names there ↔ Leads d here shorter there := by
  induction h generalizing here with
  | nil => exact Iff.rfl
  | drop hname h ih =>
    rw [← ih]
    exact ⟨.of_skip hname, .skip hname⟩
  | keep h ih =>
    constructor
    · intro hleads
      cases hleads with
      | skip hname hleads => exact .skip hname (ih.mp hleads)
      | up hname hleads => exact .up hname (ih.mp hleads)
      | enter hname hnode hleads => exact .enter hname hnode (ih.mp hleads)
    · intro hleads
      cases hleads with
      | skip hname hleads => exact .skip hname (ih.mpr hleads)
      | up hname hleads => exact .up hname (ih.mpr hleads)
      | enter hname hnode hleads => exact .enter hname hnode (ih.mpr hleads)

theorem refl (names : List String) : Elided names names := by
  induction names with
  | nil => exact .nil
  | cons name rest ih => exact .keep ih

theorem filter {keep : String → Bool} (hdrops : ∀ name, keep name = false → name = "" ∨ name = ".")
    (names : List String) : Elided names (names.filter keep) := by
  induction names with
  | nil => exact .nil
  | cons name rest ih =>
    cases hkeep : keep name with
    | false =>
      rw [List.filter_cons_of_neg (by simp [hkeep])]
      exact .drop (hdrops name hkeep) ih
    | true =>
      rw [List.filter_cons_of_pos hkeep]
      exact .keep ih

theorem trans {shortest : List String} (h : Elided names shorter) (hnext : Elided shorter shortest) :
    Elided names shortest := by
  induction h generalizing shortest with
  | nil => exact hnext
  | drop hname h ih => exact .drop hname (ih hnext)
  | keep h ih =>
    cases hnext with
    | drop hname hnext => exact .drop hname (ih hnext)
    | keep hnext => exact .keep (ih hnext)

theorem sublist (h : Elided names shorter) : shorter.Sublist names := by
  induction h with
  | nil => exact .slnil
  | drop hname h ih => exact ih.cons _
  | keep h ih => exact ih.cons_cons _

theorem append {others shorterOthers : List String} (h : Elided names shorter) (hothers : Elided others shorterOthers) :
    Elided (names ++ others) (shorter ++ shorterOthers) := by
  induction h with
  | nil => exact hothers
  | drop hname h ih => exact .drop hname ih
  | keep h ih => exact .keep ih

end Elided

end KindTable.Disk
