import Std.Data.HashMap
import KindTable.Entry
import KindTable.GateSet

namespace KindTable

inductive RegistryError where
  | invalidIdentifier (name : String)
  | duplicateEntry (name : String) (first second : Nat)
  | unknownGate (gate entry : String)
  deriving DecidableEq, Repr

def RegistryError.message : RegistryError → String
  | .invalidIdentifier name =>
    "invalid identifier `" ++ name ++ "`: expected ASCII letters, digits or `_`, not starting with a digit"
  | .duplicateEntry name first second =>
    "duplicate entry `" ++ name ++ "` at position " ++ toString second ++
      " (first declared at position " ++ toString first ++ ")"
  | .unknownGate gate entry => "entry `" ++ entry ++ "` references unknown gate `" ++ gate ++ "`"

def parseIdentifier (text : String) : Except RegistryError Identifier :=
  match Identifier.ofText? text with
  | some i => .ok i
  | none => .error (.invalidIdentifier text)

def parseGate (kind : GateKind) (text : String) : Except RegistryError Gate :=
  (parseIdentifier text).map (⟨·, kind⟩)

structure Draft where
  entries : List Entry

def Draft.empty : Draft := ⟨[]⟩

abbrev Authoring := EStateM RegistryError Draft

def declare (name : String) (mode : Mode) : Authoring Unit := do
  let i ← liftExcept (parseIdentifier name)
  modify fun d => ⟨d.entries ++ [⟨i, mode⟩]⟩

theorem parseIdentifier_text (i : Identifier) : parseIdentifier i.text = .ok i := by
  rw [parseIdentifier, Identifier.ofText?_eq_some_iff.mpr rfl]

theorem parseIdentifier_eq_error {name : String} (h : isIdentifier name = false) :
    parseIdentifier name = .error (.invalidIdentifier name) := by
  rw [parseIdentifier, Identifier.ofText?_eq_none_iff.mpr h]

theorem declare_identifier (i : Identifier) (mode : Mode) (d : Draft) :
    declare i.text mode d = .ok () ⟨d.entries ++ [⟨i, mode⟩]⟩ := by
  unfold declare
  rw [parseIdentifier_text]
  rfl

theorem declare_invalid {name : String} (h : isIdentifier name = false) (mode : Mode) (d : Draft) :
    declare name mode d = .error (.invalidIdentifier name) d := by
  unfold declare
  rw [parseIdentifier_eq_error h]
  rfl

def unresolvedGate? (gates : GateSet) (e : Entry) : Option RegistryError :=
  match e.gateName? with
  | none => none
  | some g => if gates.contains g then none else some (.unknownGate g e.name.text)

def firstDefect? (gates : GateSet) :
    (seen : Std.HashMap String Nat) → (position : Nat) → List Entry → Option RegistryError
  | _, _, [] => none
  | seen, position, e :: rest =>
    match seen[e.name.text]? with
    | some first => some (.duplicateEntry e.name.text first position)
    | none =>
      match unresolvedGate? gates e with
      | some error => some error
      | none => firstDefect? gates (seen.insert e.name.text position) (position + 1) rest

def Entry.Resolved (gates : GateSet) (e : Entry) : Prop :=
  ∀ g, e.gateName? = some g → gates.contains g = true

theorem unresolvedGate?_eq_none_iff {gates : GateSet} {e : Entry} :
    unresolvedGate? gates e = none ↔ e.Resolved gates := by
  unfold unresolvedGate? Entry.Resolved
  cases e.gateName? with
  | none => simp
  | some g => by_cases h : gates.contains g = true <;> simp [h]

theorem unresolvedGate?_eq_some_iff {gates : GateSet} {e : Entry} {error : RegistryError} :
    unresolvedGate? gates e = some error ↔
      ∃ g, e.gateName? = some g ∧ gates.contains g = false ∧ .unknownGate g e.name.text = error := by
  unfold unresolvedGate?
  cases e.gateName? with
  | none => simp
  | some g => by_cases h : gates.contains g = true <;> simp [h]

theorem unresolvedGate?_congr {gates others : GateSet} {e : Entry}
    (h : ∀ g, e.gateName? = some g → gates.contains g = others.contains g) :
    unresolvedGate? gates e = unresolvedGate? others e := by
  unfold unresolvedGate?
  split
  · rfl
  · rename_i g hg
    rw [h g hg]

instance (gates : GateSet) (e : Entry) : Decidable (e.Resolved gates) :=
  decidable_of_iff _ unresolvedGate?_eq_none_iff

theorem firstDefect?_cons {gates : GateSet} {seen : Std.HashMap String Nat} {position : Nat} {e : Entry}
    {rest : List Entry} (hnew : e.name.text ∉ seen) (hgate : unresolvedGate? gates e = none) :
    firstDefect? gates seen position (e :: rest) =
      firstDefect? gates (seen.insert e.name.text position) (position + 1) rest := by
  rw [firstDefect?, Std.HashMap.getElem?_eq_none hnew, hgate]

theorem passes_of_firstDefect?_eq_none {gates : GateSet} {seen : Std.HashMap String Nat} {position : Nat} {e : Entry}
    {rest : List Entry} (h : firstDefect? gates seen position (e :: rest) = none) :
    e.name.text ∉ seen ∧ unresolvedGate? gates e = none := by
  unfold firstDefect? at h
  split at h
  · cases h
  · rename_i hnew
    split at h
    · cases h
    · rename_i hgate
      refine ⟨?_, hgate⟩
      intro hmem
      rw [Std.HashMap.getElem?_eq_some_getElem hmem] at hnew
      cases hnew

theorem firstDefect?_eq_none_iff {gates : GateSet} {seen : Std.HashMap String Nat} {position : Nat}
    {entries : List Entry} : firstDefect? gates seen position entries = none ↔
      (∀ e ∈ entries, e.name.text ∉ seen) ∧ (entries.map (·.name.text)).Nodup ∧
        ∀ e ∈ entries, unresolvedGate? gates e = none := by
  induction entries generalizing seen position with
  | nil => simp [firstDefect?]
  | cons e rest ih =>
    have hstep : firstDefect? gates seen position (e :: rest) = none ↔
        (e.name.text ∉ seen ∧ unresolvedGate? gates e = none) ∧
          firstDefect? gates (seen.insert e.name.text position) (position + 1) rest = none := by
      constructor
      · intro h
        have hpasses := passes_of_firstDefect?_eq_none h
        rw [firstDefect?_cons hpasses.1 hpasses.2] at h
        exact ⟨hpasses, h⟩
      · rintro ⟨⟨hnew, hgate⟩, h⟩
        rw [firstDefect?_cons hnew hgate, h]
    rw [hstep, ih]
    simp only [List.forall_mem_cons, List.map_cons, List.nodup_cons, List.mem_map, Std.HashMap.mem_insert,
      beq_iff_eq, not_or, not_exists, not_and]
    constructor
    · rintro ⟨⟨hnew, hgate⟩, hseen, hnodup, hgates⟩
      exact ⟨⟨hnew, fun a ha => (hseen a ha).2⟩, ⟨fun a ha hname => (hseen a ha).1 hname.symm, hnodup⟩, hgate, hgates⟩
    · rintro ⟨⟨hnew, hseen⟩, ⟨hfresh, hnodup⟩, hgate, hgates⟩
      exact ⟨⟨hnew, hgate⟩, fun a ha => ⟨fun hname => hfresh a ha hname.symm, hseen a ha⟩, hnodup, hgates⟩

theorem firstDefect?_congr {gates others : GateSet} {seen : Std.HashMap String Nat} {position : Nat}
    {entries : List Entry} (h : ∀ e ∈ entries, ∀ g, e.gateName? = some g → gates.contains g = others.contains g) :
    firstDefect? gates seen position entries = firstDefect? others seen position entries := by
  induction entries generalizing seen position with
  | nil => rfl
  | cons e rest ih =>
    obtain ⟨he, hrest⟩ := List.forall_mem_cons.mp h
    rw [firstDefect?, firstDefect?, unresolvedGate?_congr he, ih hrest]

def entryDefect? (gates : GateSet) (before : List Entry) (e : Entry) : Option RegistryError :=
  match before.findIdx? (·.name.text == e.name.text) with
  | some first => some (.duplicateEntry e.name.text first before.length)
  | none => unresolvedGate? gates e

theorem new_of_entryDefect?_eq_none {gates : GateSet} {before : List Entry} {e : Entry}
    (h : entryDefect? gates before e = none) : before.findIdx? (·.name.text == e.name.text) = none := by
  unfold entryDefect? at h
  split at h
  · cases h
  · assumption

def Seen (seen : Std.HashMap String Nat) (before : List Entry) : Prop :=
  ∀ name, seen[name]? = before.findIdx? (·.name.text == name)

theorem Seen.insert {seen : Std.HashMap String Nat} {before : List Entry} {e : Entry} (h : Seen seen before)
    (hnew : before.findIdx? (·.name.text == e.name.text) = none) :
    Seen (seen.insert e.name.text before.length) (before ++ [e]) := by
  intro name
  rw [Std.HashMap.getElem?_insert, List.findIdx?_append, h name]
  by_cases hname : e.name.text = name
  · subst hname
    simp [hnew, List.findIdx?_cons]
  · simp [hname, List.findIdx?_cons]

theorem firstDefect?_step {gates : GateSet} {seen : Std.HashMap String Nat} {before : List Entry} {e : Entry}
    {rest : List Entry} (h : Seen seen before) :
    firstDefect? gates seen before.length (e :: rest) = (entryDefect? gates before e).or
      (firstDefect? gates (seen.insert e.name.text before.length) (before ++ [e]).length rest) := by
  rw [firstDefect?, entryDefect?, h e.name.text, List.length_append, List.length_singleton]
  cases before.findIdx? (·.name.text == e.name.text) with
  | some first => rfl
  | none => cases unresolvedGate? gates e <;> rfl

theorem firstDefect?_eq_some {gates : GateSet} {seen : Std.HashMap String Nat} {before rest : List Entry}
    {error : RegistryError} (hseen : Seen seen before)
    (h : firstDefect? gates seen before.length rest = some error) :
    ∃ passed e later, rest = passed ++ e :: later ∧ firstDefect? gates seen before.length passed = none ∧
      entryDefect? gates (before ++ passed) e = some error := by
  induction rest generalizing seen before with
  | nil => cases h
  | cons e rest ih =>
    rw [firstDefect?_step hseen] at h
    cases hdefect : entryDefect? gates before e with
    | some found =>
      rw [hdefect] at h
      cases h
      exact ⟨[], e, rest, rfl, rfl, by rw [List.append_nil, hdefect]⟩
    | none =>
      rw [hdefect, Option.none_or] at h
      obtain ⟨passed, failed, later, rfl, hpassed, hfailed⟩ := ih (hseen.insert (new_of_entryDefect?_eq_none hdefect)) h
      refine ⟨e :: passed, failed, later, rfl, ?_, ?_⟩
      · rw [firstDefect?_step hseen, hdefect, Option.none_or, hpassed]
      · rw [List.append_cons, hfailed]

theorem firstDefect?_of_entryDefect {gates : GateSet} {seen : Std.HashMap String Nat} {before passed later : List Entry}
    {e : Entry} {error : RegistryError} (hseen : Seen seen before)
    (hpassed : firstDefect? gates seen before.length passed = none)
    (h : entryDefect? gates (before ++ passed) e = some error) :
    firstDefect? gates seen before.length (passed ++ e :: later) = some error := by
  induction passed generalizing seen before with
  | nil =>
    rw [List.append_nil] at h
    rw [List.nil_append, firstDefect?_step hseen, h, Option.some_or]
  | cons first rest ih =>
    rw [firstDefect?_step hseen] at hpassed
    obtain ⟨hfirst, hrest⟩ := Option.or_eq_none_iff.mp hpassed
    rw [List.cons_append, firstDefect?_step hseen, hfirst, Option.none_or]
    refine ih (hseen.insert (new_of_entryDefect?_eq_none hfirst)) hrest ?_
    rw [← List.append_cons, h]

theorem seen_empty : Seen ∅ [] := fun name => by simp

structure Registry where
  entries : List Entry
  nodup : (entries.map (·.name.text)).Nodup

def Draft.freeze (d : Draft) (gates : GateSet) : Except RegistryError Registry :=
  match h : firstDefect? gates ∅ 0 d.entries with
  | some error => .error error
  | none => .ok ⟨d.entries, (firstDefect?_eq_none_iff.mp h).2.1⟩

theorem Draft.freeze_eq_error_iff {d : Draft} {gates : GateSet} {error : RegistryError} :
    d.freeze gates = .error error ↔ firstDefect? gates ∅ 0 d.entries = some error := by
  unfold freeze
  split <;> simp_all

theorem Draft.freeze_eq_ok_iff {d : Draft} {gates : GateSet} {r : Registry} :
    d.freeze gates = .ok r ↔ firstDefect? gates ∅ 0 d.entries = none ∧ d.entries = r.entries := by
  obtain ⟨entries, nodup⟩ := r
  unfold freeze
  split <;> simp_all

theorem Draft.freeze_congr {d : Draft} {gates others : GateSet}
    (h : ∀ e ∈ d.entries, ∀ g, e.gateName? = some g → gates.contains g = others.contains g) :
    d.freeze gates = d.freeze others := by
  have hdefect := @firstDefect?_congr gates others ∅ 0 d.entries h
  cases hfrozen : d.freeze others with
  | error error =>
    rw [freeze_eq_error_iff] at hfrozen ⊢
    rw [hdefect, hfrozen]
  | ok r =>
    rw [freeze_eq_ok_iff] at hfrozen ⊢
    rw [hdefect]
    exact hfrozen

namespace Registry

def size (r : Registry) : Nat := r.entries.length

def get? (r : Registry) (position : Nat) : Option Entry := r.entries[position]?

def index (r : Registry) : Std.HashMap String Nat := .ofList (r.entries.zipIdx.map fun e => (e.1.name.text, e.2))

def position? (r : Registry) (name : String) : Option Nat := r.index[name]?

def gates (r : Registry) : List String := (r.entries.filterMap Entry.gateName?).eraseDups

theorem mem_gates_iff {r : Registry} {g : String} : g ∈ r.gates ↔ ∃ e ∈ r.entries, e.gateName? = some g := by
  rw [gates, List.mem_eraseDups, List.mem_filterMap]

theorem map_fst_index (r : Registry) :
    (r.entries.zipIdx.map fun e => (e.1.name.text, e.2)).map Prod.fst = r.entries.map (·.name.text) := by
  have hfst := congrArg (List.map (·.name.text)) (List.zipIdx_map_fst 0 r.entries)
  rw [List.map_map] at hfst ⊢
  exact hfst

theorem position?_eq_some_iff {r : Registry} {name : String} {position : Nat} :
    r.position? name = some position ↔ ∃ e, r.entries[position]? = some e ∧ e.name.text = name := by
  have hdistinct : (r.entries.zipIdx.map fun e => (e.1.name.text, e.2)).Pairwise fun a b => (a.1 == b.1) = false := by
    have hnodup := r.nodup
    rw [← map_fst_index, List.Nodup, List.pairwise_map] at hnodup
    exact hnodup.imp fun hne => beq_eq_false_iff_ne.mpr hne
  have hfound {position : Nat} {e : Entry} (he : r.entries[position]? = some e) :
      r.position? e.name.text = some position := by
    refine Std.HashMap.getElem?_ofList_of_mem (beq_self_eq_true _) hdistinct (List.mem_map.mpr ⟨(e, position), ?_, rfl⟩)
    exact List.mk_mem_zipIdx_iff_getElem?.mpr he
  constructor
  · intro h
    by_cases hdeclared : name ∈ r.entries.map (·.name.text)
    · obtain ⟨e, he, rfl⟩ := List.mem_map.mp hdeclared
      obtain ⟨other, hother⟩ := List.mem_iff_getElem?.mp he
      obtain rfl : other = position := Option.some.inj ((hfound hother).symm.trans h)
      exact ⟨e, hother, rfl⟩
    · have hnone : r.position? name = none := by
        refine Std.HashMap.getElem?_ofList_of_contains_eq_false ?_
        rw [map_fst_index]
        simpa using hdeclared
      rw [hnone] at h
      cases h
  · rintro ⟨e, he, rfl⟩
    exact hfound he

end Registry

end KindTable
