import Mathlib.Data.List.Induction
import KindTable.Disk.Path

namespace KindTable.Disk

variable {d : Disk} {path : String} {base names : List String} {there p : Location}

def Nested (d : Disk) : Prop := ∀ p name, d.node? (p ++ [name]) ≠ none → d.node? p = some .directory

theorem nested_of_nodes (h : ∀ n ∈ d.nodes, d.node? n.1.dropLast = some .directory) : d.Nested := by
  intro p name hthere
  by_cases hworking : (p ++ [name]).isPrefixOf d.workingDirectory
  · have habove : p <+: d.workingDirectory := (List.prefix_append p [name]).trans (by simpa using hworking)
    rw [node?, if_pos (by simpa using habove)]
  rw [node?, if_neg hworking] at hthere
  obtain ⟨n, hn⟩ := Option.ne_none_iff_exists'.mp hthere
  obtain ⟨before, after, hnodes, -⟩ := List.lookup_eq_some_iff.mp hn
  have hparent := h (p ++ [name], n) (by simp [hnodes])
  rwa [List.dropLast_concat] at hparent

theorem Nested.below (h : d.Nested) (hmissing : d.node? p = none) (later : List String) :
    d.node? (p ++ later) = none := by
  induction later using List.reverseRecOn with
  | nil => rwa [List.append_nil]
  | append_singleton later name ih =>
    by_contra hthere
    rw [← List.append_assoc] at hthere
    rw [h _ name hthere] at ih
    cases ih

structure Makeable (names : List String) : Prop where
  plain : ∀ n ∈ names, n = "" ∨ n = "." ∨ IsPlain n
  last : (names.filter (· != "")).getLast? ≠ some "."

theorem makeable_nil : Makeable [] := ⟨by simp, by simp⟩

theorem Makeable.tail {name : String} (h : Makeable (name :: names)) : Makeable names where
  plain n hn := h.plain n (List.mem_cons_of_mem _ hn)
  last hdot := by
    apply h.last
    by_cases hname : name = ""
    · rw [List.filter_cons_of_neg (by simpa using hname), hdot]
    · rw [List.filter_cons_of_pos (by simpa using hname), List.getLast?_cons, hdot]
      rfl

def HasWay (d : Disk) (here : Location) (names : List String) : Prop :=
  ∃ base there fresh, names = base ++ fresh ∧ Leads d here base there ∧ Makeable fresh ∧
    ∀ first, fresh.head? = some first → IsPlain first ∧ d.node? (there ++ [first]) = none

-- There is no `..` past a missing directory: to make that directory would change where the path leads. A `.` at the end
-- of a path cannot be made.
structure Opens (d : Disk) (path : String) : Prop where
  faultless : pathFault? path = none
  way : d.HasWay (d.startOf path) (pathNames path)

theorem leads_of_isDirectory (h : d.isDirectory path = true) :
    pathFault? path = none ∧ ∃ place, Leads d (d.startOf path) (pathNames path) place := by
  have hleads {place : Location} (hlocate : d.locate path = .ok (.directory place) ∨
      d.locate path = .ok (.entry place) ∧ d.node? place = some .directory) :
      pathFault? path = none ∧ ∃ place, Leads d (d.startOf path) (pathNames path) place := by
    rw [locate] at hlocate
    split at hlocate
    · rcases hlocate with hlocate | ⟨hlocate, -⟩ <;> cases hlocate
    · rename_i hfault
      split at hlocate
      · rcases hlocate with hlocate | ⟨hlocate, -⟩ <;> cases hlocate
      · exact ⟨hfault, place, leads_of_walk hlocate⟩
  rw [isDirectory, find] at h
  cases hlocate : d.locate path with
  | error fault =>
    rw [hlocate] at h
    cases h
  | ok target =>
    rw [hlocate] at h
    cases target with
    | directory place => exact hleads (.inl hlocate)
    | entry place =>
      cases hnode : d.node? place with
      | none => simp [bind, Except.bind, hnode, throw, throwThe, MonadExceptOf.throw] at h
      | some n =>
        cases n with
        | file content => simp [bind, Except.bind, hnode, pure, Except.pure] at h
        | directory => exact hleads (.inr ⟨hlocate, hnode⟩)

theorem opens_of_isDirectory (h : d.isDirectory path = true) : d.Opens path := by
  obtain ⟨hfault, place, hleads⟩ := leads_of_isDirectory h
  exact ⟨hfault, _, place, [], (List.append_nil _).symm, hleads, makeable_nil, by simp⟩

theorem hasWay_of_missing {here : Location} (hnames : Makeable names)
    (h : d.walk here names = .error .missing ∨
      ∃ place, d.walk here names = .ok (.entry place) ∧ d.node? place = none) : d.HasWay here names := by
  induction names generalizing here with
  | nil => rcases h with h | ⟨place, h, -⟩ <;> cases h
  | cons name rest ih =>
    rcases or_assoc.mpr (hnames.plain name List.mem_cons_self) with hskip | hplain
    · rw [walk_skip hskip] at h
      obtain ⟨base, there, fresh, rfl, hleads, hfresh⟩ := ih hnames.tail h
      exact ⟨name :: base, there, fresh, rfl, .skip hskip hleads, hfresh⟩
    · rw [walk_plain hplain] at h
      cases hnode : d.node? (here ++ [name]) with
      | none =>
        refine ⟨[], here, name :: rest, rfl, .here, hnames, ?_⟩
        rintro first ⟨⟩
        exact ⟨hplain, hnode⟩
      | some n =>
        rw [hnode] at h
        cases rest with
        | nil =>
          rcases h with h | ⟨place, h, hmissing⟩ <;> cases h
          rw [hnode] at hmissing
          cases hmissing
        | cons next later =>
          cases n with
          | file content => rcases h with h | ⟨place, h, -⟩ <;> cases h
          | directory =>
            obtain ⟨base, there, fresh, hsplit, hleads, hfresh⟩ := ih hnames.tail h
            exact ⟨name :: base, there, fresh, by rw [hsplit, List.cons_append], .enter hplain hnode hleads, hfresh⟩

theorem opens_of_missing (h : d.find path = .error .missing) (hfault : pathFault? path = none) (hne : path ≠ "")
    (hnames : Makeable (pathNames path)) : d.Opens path := by
  refine ⟨hfault, hasWay_of_missing hnames ?_⟩
  rw [find, locate_eq_walk hfault hne] at h
  cases hwalk : d.walk (d.startOf path) (pathNames path) with
  | error fault =>
    rw [hwalk] at h
    cases h
    exact .inl rfl
  | ok target =>
    rw [hwalk] at h
    cases target with
    | directory place => cases h
    | entry place =>
      cases hnode : d.node? place with
      | none => exact .inr ⟨place, rfl, hnode⟩
      | some n => simp [bind, Except.bind, hnode, pure, Except.pure] at h

def above (root names : List String) : List String :=
  ((List.range names.length).tail.map fun count => pathOfNames (root ++ names.take count)).reverse

theorem above_append (hne : names ≠ []) (root : List String) (last : String) :
    above root (names ++ [last]) = pathOfNames (root ++ names) :: above root names := by
  have hlength : 0 < names.length := List.length_pos_of_ne_nil hne
  have hrange : (List.range (names.length + 1)).tail = (List.range names.length).tail ++ [names.length] := by
    rw [List.range_succ, List.tail_append_of_ne_nil (by simpa using hne)]
  rw [above, List.length_append, List.length_singleton, hrange, List.map_append, List.reverse_append]
  have htake : (List.range names.length).tail.map (fun count => pathOfNames (root ++ (names ++ [last]).take count)) =
      (List.range names.length).tail.map fun count => pathOfNames (root ++ names.take count) := by
    apply List.map_congr_left
    intro count hcount
    have hlt : count < names.length := List.mem_range.mp (List.mem_of_mem_tail hcount)
    rw [List.take_append_of_le_length (Nat.le_of_lt hlt)]
  rw [htake, above]
  simp

theorem makeDirectory_eq (hfault : pathFault? path = none) (hne : path ≠ "") :
    d.makeDirectory path =
      match d.walk (d.startOf path) (trimmedNames path) with
      | .error fault => .error fault
      | .ok (.directory _) => .error .taken
      | .ok (.entry place) =>
        match d.node? place with
        | some _ => .error .taken
        | none => .ok (d.put place .directory) := by
  rw [makeDirectory, hfault]
  simp only [String.isEmpty_iff, if_neg hne]
  cases d.walk (d.startOf path) (trimmedNames path) with
  | error fault => rfl
  | ok target =>
    cases target with
    | directory place => rfl
    | entry place =>
      simp only [bind, Except.bind]
      cases d.node? place <;> rfl

theorem makeDirectory_new {whole : String} (h : Spells whole path names)
    (hwalk : d.walk (d.startOf whole) names = .ok (.entry p)) (hmissing : d.node? p = none) :
    d.makeDirectory path = .ok (d.put p .directory) := by
  rw [makeDirectory_eq h.faultless h.nonempty, startOf_congr h.rooted, h.walk, hwalk]
  simp only [hmissing]

theorem makeDirectory_missing {whole : String} (h : Spells whole path names)
    (hwalk : d.walk (d.startOf whole) names = .error .missing) : d.makeDirectory path = .error .missing := by
  rw [makeDirectory_eq h.faultless h.nonempty, startOf_congr h.rooted, h.walk, hwalk]

theorem makeTree_of_made {made : Disk} (h : d.makeDirectory path = .ok made) (parents : List String) :
    d.makeTree path parents = (.ok (), made) := by
  cases parents <;> simp [makeTree, h, orDirectory]

structure MadeFrom (left d : Disk) (place : Location) : Prop where
  working : left.workingDirectory = d.workingDirectory
  keeps : ∀ p n, d.node? p = some n → left.node? p = some n
  deeper : ∀ p, place.length < p.length → left.node? p = d.node? p

theorem madeFrom_put (h : d.node? p = none) : MadeFrom (d.put p .directory) d p := by
  constructor
  case working => rfl
  case keeps =>
    intro q n hq
    rw [node?_put_ne, hq]
    rintro rfl
    rw [h] at hq
    cases hq
  case deeper =>
    intro q hq
    rw [node?_put_ne]
    rintro rfl
    exact Nat.lt_irrefl _ hq

theorem MadeFrom.trans {final left : Disk} {q : Location} (h : MadeFrom left d p) (hnext : MadeFrom final left q)
    (hlength : p.length ≤ q.length) : MadeFrom final d q where
  working := hnext.working.trans h.working
  keeps place n hn := hnext.keeps place n (h.keeps place n hn)
  deeper place hplace := (hnext.deeper place hplace).trans (h.deeper place (Nat.lt_of_le_of_lt hlength hplace))

theorem MadeFrom.startOf {left : Disk} (h : MadeFrom left d p) (path : String) :
    left.startOf path = d.startOf path := by
  rw [Disk.startOf, Disk.startOf, h.working]

-- The induction is on the names past the first new one: each is made where the call for its parent has made one.
theorem makeTree_new {whole first : String} {later root : List String} (hbase : Leads d (d.startOf whole) base there)
    (hnested : d.Nested) (hmissing : d.node? (there ++ [first]) = none) (hplain : ∀ n ∈ first :: later, IsPlain n)
    (hspells : Spells whole path (base ++ first :: later))
    (hparents : ∀ names, names <+: base ++ first :: later → names ≠ [] →
      Spells whole (pathOfNames (root ++ names)) names) :
    ∃ left, d.makeTree path (above root (base ++ first :: later)) = (.ok (), left) ∧
      Leads left there (first :: later) (there ++ first :: later) ∧ MadeFrom left d (there ++ first :: later) := by
  have hfirst := hplain first List.mem_cons_self
  induction later using List.reverseRecOn generalizing path with
  | nil =>
    have hwalk : d.walk (d.startOf whole) (base ++ [first]) = .ok (.entry (there ++ [first])) := by
      rw [hbase.walk (List.cons_ne_nil _ _), walk_last hfirst]
    refine ⟨_, makeTree_of_made (makeDirectory_new hspells hwalk hmissing) _, ?_, madeFrom_put hmissing⟩
    exact .enter hfirst (node?_put_self (by simp [hmissing])) .here
  | append_singleton later last ih =>
    have hlast := hplain last (by simp)
    have hnames : base ++ first :: (later ++ [last]) = base ++ first :: later ++ [last] := by simp
    have hplace : there ++ first :: (later ++ [last]) = there ++ first :: later ++ [last] := by simp
    have hbegins : base ++ first :: later <+: base ++ first :: (later ++ [last]) := hnames ▸ List.prefix_append _ _
    have hearlier : ∀ n ∈ first :: later, IsPlain n :=
      fun n hn => hplain n (List.mem_append_left [last] hn)
    obtain ⟨left, hmade, hleads, hkept⟩ := ih hearlier (hparents _ hbegins (by simp))
      fun names hnames => hparents names (hnames.trans hbegins)
    have hnone : d.makeDirectory path = .error .missing := by
      apply makeDirectory_missing hspells
      rw [hbase.walk (List.cons_ne_nil _ _), walk_missing hfirst hmissing (by simp)]
    have hfree : left.node? (there ++ first :: later ++ [last]) = none := by
      have hbelow := hnested.below hmissing (later ++ [last])
      rw [hkept.deeper _ (by simp)]
      simpa using hbelow
    have hway := (hbase.mono fun p => hkept.keeps p .directory).append hleads
    have hwalk : left.walk (left.startOf whole) (base ++ first :: (later ++ [last])) =
        .ok (.entry (there ++ first :: later ++ [last])) := by
      rw [hkept.startOf, hnames, hway.walk (List.cons_ne_nil _ _), walk_last hlast]
    have hput := madeFrom_put hfree
    refine ⟨left.put (there ++ first :: later ++ [last]) .directory, ?_, ?_, ?_⟩
    · rw [hnames, above_append (by simp), makeTree, hnone]
      simp only [hmade, makeDirectory_new hspells hwalk hfree, orDirectory]
    · have hnew : Leads (left.put (there ++ first :: later ++ [last]) .directory) (there ++ first :: later) [last]
          (there ++ first :: later ++ [last]) := .enter hlast (node?_put_self (by rw [hfree]; simp)) .here
      rw [hplace]
      exact (hleads.mono fun p => hput.keeps p .directory).append hnew
    · rw [hplace]
      exact hkept.trans hput (by simp)

def isStep (name : String) : Bool := name != "" && name != "."

theorem elided_filter_isStep (names : List String) : Elided names (names.filter isStep) :=
  .filter (fun n hn => by simpa [isStep, imp_iff_not_or] using hn) names

theorem IsPlain.isStep {name : String} (h : IsPlain name) : isStep name = true := by
  simp [Disk.isStep, h.1, h.2.1]

theorem significantNames_append {first : String} {rest : List String} (hnames : pathNames path = base ++ first :: rest)
    (hfirst : IsPlain first) :
    ∃ shorter, Elided base shorter ∧ significantNames path = shorter ++ first :: rest.filter isStep := by
  have hsteps : (first :: rest.filter (· != ".")).filter (· != "") = first :: rest.filter isStep := by
    rw [List.filter_cons_of_pos (by simpa using hfirst.1), List.filter_filter]
    rfl
  rw [significantNames, hnames]
  cases base with
  | nil => exact ⟨[], .nil, hsteps⟩
  | cons head later =>
    refine ⟨(head :: later.filter (· != ".")).filter (· != ""), ?_, ?_⟩
    · have hdotless : Elided (head :: later) (head :: later.filter (· != ".")) :=
        .keep (.filter (fun n hn => .inr (by simpa using hn)) later)
      exact hdotless.trans (.filter (fun n hn => .inl (by simpa using hn)) _)
    · have hkept : head :: (later ++ first :: rest).filter (· != ".") =
          (head :: later.filter (· != ".")) ++ first :: rest.filter (· != ".") := by
        rw [List.filter_append, List.filter_cons_of_pos (by simpa using hfirst.2.1), List.cons_append]
      change (head :: (later ++ first :: rest).filter (· != ".")).filter (· != "") = _
      rw [hkept, List.filter_append, hsteps]

theorem exists_last_nonblank {names : List String} (h : ∃ n ∈ names, n ≠ "") :
    ∃ init last count, names = init ++ [last] ++ List.replicate count "" ∧ last ≠ "" := by
  induction names using List.reverseRecOn with
  | nil => simp at h
  | append_singleton names last ih =>
    by_cases hlast : last = ""
    · obtain ⟨n, hn, hne⟩ := h
      rcases List.mem_append.mp hn with hn | hn
      · obtain ⟨init, final, count, rfl, hfinal⟩ := ih ⟨n, hn, hne⟩
        refine ⟨init, final, count + 1, ?_, hfinal⟩
        rw [hlast, List.replicate_succ', ← List.append_assoc]
      · exact absurd ((List.mem_singleton.mp hn).trans hlast) hne
    · exact ⟨names, last, 0, by simp, hlast⟩

theorem isDirectory_of_leads (hfault : pathFault? path = none) (hne : path ≠ "")
    (h : Leads d (d.startOf path) (pathNames path) there) : d.isDirectory path = true := by
  rw [isDirectory, find, locate_eq_walk hfault hne]
  rcases h.walk_self with hwalk | ⟨hwalk, hnode⟩
  · rw [hwalk]
    rfl
  · rw [hwalk]
    simp only [bind, Except.bind, hnode]
    rfl

theorem makeDirectory_there (hfault : pathFault? path = none) (hne : path ≠ "")
    (h : Leads d (d.startOf path) (pathNames path) there) : d.makeDirectory path = .error .taken := by
  obtain ⟨count, htrimmed⟩ := pathNames_eq_trimmed path
  rw [htrimmed] at h
  rw [makeDirectory_eq hfault hne]
  rcases h.of_append_blanks.walk_self with hwalk | ⟨hwalk, hnode⟩
  · rw [hwalk]
  · rw [hwalk]
    simp only [hnode]

theorem makeDirectories_there (hfault : pathFault? path = none)
    (h : Leads d (d.startOf path) (pathNames path) there) : d.makeDirectories path = (.ok (), d) := by
  by_cases hne : path = ""
  · rw [makeDirectories, if_pos (by simp [hne])]
  · have hthere := isDirectory_of_leads hfault hne h
    have htaken := makeDirectory_there hfault hne h
    rw [makeDirectories, if_neg (by simp [hne])]
    cases pathsAbove path <;> simp [makeTree, htaken, orDirectory, hthere]

theorem read_of_walk_missing {name : String} (hfault : pathFault? (joinPath path name) = none)
    (hname : IsFileName name) (hwalk : d.walk (d.startOf path) (pathNames path ++ [name]) = .error .missing) :
    d.read (joinPath path name) = .error .missing := by
  rw [read, find, locate_joinPath hfault hname, hwalk]
  rfl

theorem read_of_leads {name : String} (hfault : pathFault? (joinPath path name) = none)
    (hname : IsFileName name) (h : Leads d (d.startOf path) (pathNames path) there) :
    d.read (joinPath path name) =
      match d.node? (there ++ [name]) with
      | none => .error .missing
      | some .directory => .error .isDirectory
      | some (.file content) => match content.text? with
        | some text => .ok text
        | none => .error .notText := by
  rw [read, find, locate_joinPath hfault hname, h.walk (List.cons_ne_nil _ _), walk_last hname.1]
  simp only [bind, Except.bind]
  cases d.node? (there ++ [name]) with
  | none => rfl
  | some n => cases n <;> rfl

theorem ne_empty_of_significantNames : ∀ n ∈ significantNames path, n ≠ "" := by
  intro n hn
  rw [significantNames] at hn
  split at hn
  · cases hn
  · simpa using (List.mem_filter.mp hn).2

theorem makeDirectories_new {first : String} {rest : List String} (hnested : d.Nested)
    (hfault : pathFault? path = none) (hnames : pathNames path = base ++ first :: rest)
    (hbase : Leads d (d.startOf path) base there) (hfirst : IsPlain first)
    (hmissing : d.node? (there ++ [first]) = none) (hfresh : Makeable (first :: rest)) :
    ∃ left later, d.makeDirectories path = (.ok (), left) ∧
      Leads left (d.startOf path) (pathNames path) (there ++ first :: later) ∧
      MadeFrom left d (there ++ first :: later) := by
  have hfilter : (first :: rest).filter isStep = first :: rest.filter isStep :=
    List.filter_cons_of_pos hfirst.isStep
  have hplain : ∀ n ∈ first :: rest.filter isStep, IsPlain n := by
    intro n hn
    rw [← hfilter, List.mem_filter] at hn
    obtain ⟨hmem, hstep⟩ := hn
    rcases hfresh.plain n hmem with rfl | rfl | hn
    · cases hstep
    · cases hstep
    · exact hn
  obtain ⟨shorter, helided, hsignificant⟩ := significantNames_append hnames hfirst
  have hspells : Spells path path (shorter ++ first :: rest.filter isStep) := by
    obtain ⟨init, last, count, hsplit, hlast⟩ := exists_last_nonblank ⟨first, List.mem_cons_self, hfirst.1⟩
    have hdot : last ≠ "." := by
      have hfinal := hfresh.last
      rw [hsplit] at hfinal
      simpa [List.filter_append, hlast] using hfinal
    have hlater : first :: rest.filter isStep = init.filter isStep ++ [last] := by
      have hstep : isStep last = true := by simp [isStep, hlast, hdot]
      have hblanks : (List.replicate count "").filter isStep = [] := by simp [isStep]
      rw [← hfilter, hsplit, List.filter_append, List.filter_append, hblanks, List.append_nil]
      simp [hstep]
    rw [hlater, ← List.append_assoc]
    have hcount : pathNames path = base ++ init ++ [last] ++ List.replicate count "" := by
      rw [hnames, hsplit]
      simp only [List.append_assoc]
    have hwhole := spells_of_names hfault rfl hlast hcount
    exact hwhole.elided (helided.append (elided_filter_isStep init))
  have hsublist : (shorter ++ first :: rest.filter isStep).Sublist (pathNames path) := by
    rw [hnames]
    exact helided.sublist.append (List.filter_sublist.cons_cons first)
  have hparents : ∀ names, names <+: shorter ++ first :: rest.filter isStep → names ≠ [] →
      Spells path (pathOfNames (rootNames path ++ names)) names := by
    intro names hbegins hne
    apply spells_pathOfNames hfault (hbegins.sublist.trans hsublist) hne
    intro n hn
    apply @ne_empty_of_significantNames path
    rw [hsignificant]
    exact hbegins.subset hn
  obtain ⟨left, hmade, hleads, hkept⟩ :=
    makeTree_new (helided.leads.mp hbase) hnested hmissing hplain hspells hparents
  refine ⟨left, rest.filter isStep, ?_, ?_, hkept⟩
  · have hne : path ≠ "" := by
      rintro rfl
      rw [pathNames_of_not_mem (by simp)] at hnames
      have hmem : first ∈ [""] := by simp [hnames]
      exact hfirst.1 (List.mem_singleton.mp hmem)
    have habove : pathsAbove path = above (rootNames path) (significantNames path) := rfl
    rw [makeDirectories, if_neg (by simpa using hne), habove, hsignificant]
    exact hmade
  · have hblanks : Elided (first :: rest) (first :: rest.filter isStep) := by
      rw [← hfilter]
      exact elided_filter_isStep _
    rw [hnames]
    exact (hbase.mono fun p => hkept.keeps p .directory).append (hblanks.leads.mpr hleads)

theorem read_of_fault {fault : DiskFault} (h : pathFault? path = some fault) : d.read path = .error fault := by
  rw [read, find, locate, h]
  rfl

theorem makeDirectories_of_opens (hnested : d.Nested) (h : d.Opens path) :
    ∃ left place, d.makeDirectories path = (.ok (), left) ∧
      Leads left (left.startOf path) (pathNames path) place ∧
      (∀ p n, d.node? p = some n → left.node? p = some n) ∧
      ∀ name, IsFileName name → left.read (joinPath path name) = d.read (joinPath path name) := by
  obtain ⟨hfault, base, there, fresh, hnames, hbase, hfresh, hnew⟩ := h
  cases fresh with
  | nil =>
    rw [List.append_nil] at hnames
    rw [← hnames] at hbase
    exact ⟨d, there, makeDirectories_there hfault hbase, hbase, fun p n hn => hn, fun name _ => rfl⟩
  | cons first rest =>
    obtain ⟨hfirst, hmissing⟩ := hnew first rfl
    obtain ⟨left, later, hmade, hleads, hkept⟩ :=
      makeDirectories_new hnested hfault hnames hbase hfirst hmissing hfresh
    rw [← hkept.startOf path] at hleads
    refine ⟨left, _, hmade, hleads, hkept.keeps, ?_⟩
    intro name hname
    cases hjoined : pathFault? (joinPath path name) with
    | some fault => rw [read_of_fault hjoined, read_of_fault hjoined]
    | none =>
      have hbelow : left.node? (there ++ first :: later ++ [name]) = none := by
        have hnone := hnested.below hmissing (later ++ [name])
        rw [hkept.deeper _ (by simp)]
        simpa using hnone
      have hwalk : d.walk (d.startOf path) (pathNames path ++ [name]) = .error .missing := by
        rw [hnames, List.append_assoc, hbase.walk (by simp), List.cons_append, walk_missing hfirst hmissing (by simp)]
      rw [read_of_walk_missing hjoined hname hwalk, read_of_leads hjoined hname hleads, hbelow]

end KindTable.Disk
