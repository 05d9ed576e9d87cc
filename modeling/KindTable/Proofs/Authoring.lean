import KindTable.Registry

namespace KindTable

structure Submission where
  name : String
  mode : Mode

def Submission.entry? (c : Submission) : Option Entry := (Identifier.ofText? c.name).map (⟨·, c.mode⟩)

def submit (c : Submission) : StateM Draft (Except RegistryError Unit) := fun d =>
  match declare c.name c.mode d with
  | .ok _ changed => (.ok (), changed)
  | .error error left => (.error error, left)

def submitAll (cs : List Submission) : StateM Draft (List (Except RegistryError Unit)) := cs.mapM submit

theorem declare_cases (name : String) (mode : Mode) (d : Draft) :
    (∃ i : Identifier, i.text = name ∧ declare name mode d = .ok () ⟨d.entries ++ [⟨i, mode⟩]⟩) ∨
      (isIdentifier name = false ∧ declare name mode d = .error (.invalidIdentifier name) d) := by
  cases h : isIdentifier name with
  | true => exact .inl ⟨⟨name, h⟩, rfl, declare_identifier ⟨name, h⟩ mode d⟩
  | false => exact .inr ⟨rfl, declare_invalid h mode d⟩

theorem declare_eq_error {name : String} {mode : Mode} {before left : Draft} {error : RegistryError}
    (h : declare name mode before = .error error left) :
    left = before ∧ isIdentifier name = false ∧ error = .invalidIdentifier name := by
  rcases declare_cases name mode before with ⟨i, -, hok⟩ | ⟨hinvalid, herror⟩
  · rw [hok] at h
    cases h
  · rw [herror] at h
    cases h
    exact ⟨rfl, hinvalid, rfl⟩

def Submission.answer (c : Submission) : Except RegistryError Unit :=
  if isIdentifier c.name then .ok () else .error (.invalidIdentifier c.name)

theorem submit_eq (c : Submission) (d : Draft) : submit c d = (c.answer, ⟨d.entries ++ c.entry?.toList⟩) := by
  rcases declare_cases c.name c.mode d with ⟨i, hname, hok⟩ | ⟨hinvalid, herror⟩
  · have hvalid : isIdentifier c.name = true := hname ▸ i.valid
    simp [submit, hok, Submission.answer, hvalid, Submission.entry?, Identifier.ofText?_eq_some_iff.mpr hname]
  · simp [submit, herror, Submission.answer, hinvalid, Submission.entry?, Identifier.ofText?_eq_none_iff.mpr hinvalid]

theorem submitAll_eq (cs : List Submission) (d : Draft) :
    submitAll cs d = (cs.map Submission.answer, ⟨d.entries ++ cs.filterMap Submission.entry?⟩) := by
  induction cs generalizing d with
  | nil =>
    rw [List.filterMap_nil, List.append_nil]
    rfl
  | cons c rest ih =>
    have hstep : submitAll (c :: rest) d =
        ((submit c d).1 :: (submitAll rest (submit c d).2).1, (submitAll rest (submit c d).2).2) := by
      rw [submitAll, List.mapM_cons]
      rfl
    rw [hstep, submit_eq, ih, List.map_cons, List.append_assoc]
    cases h : c.entry? <;> simp [h]

theorem entries_of_accepted (cs : List Submission) :
    (cs.filterMap Submission.entry?).map (fun e => (⟨e.name.text, e.mode⟩ : Submission)) =
      ((cs.zip (cs.map Submission.answer)).filter (·.2.isOk)).map Prod.fst := by
  induction cs with
  | nil => rfl
  | cons c rest ih =>
    cases h : isIdentifier c.name with
    | true =>
      have hentry : c.entry? = some ⟨⟨c.name, h⟩, c.mode⟩ := by
        simp [Identifier.ofText?, Submission.entry?, h]
      simp [hentry, Submission.answer, h, ih, Except.isOk, Except.toBool]
    | false =>
      have hentry : c.entry? = none := by
        simp [Identifier.ofText?, Submission.entry?, h]
      simp [hentry, Submission.answer, h, ih, Except.isOk, Except.toBool]

def RepeatsAt (entries : List Entry) (i : Nat) : Prop :=
  ∃ j < i, ∃ earlier e, entries[j]? = some earlier ∧ entries[i]? = some e ∧ earlier.name.text = e.name.text

def LacksGateAt (gates : GateSet) (entries : List Entry) (i : Nat) : Prop :=
  ∃ e g, entries[i]? = some e ∧ e.gateName? = some g ∧ gates.contains g = false

def FaultyAt (gates : GateSet) (entries : List Entry) (i : Nat) : Prop :=
  RepeatsAt entries i ∨ LacksGateAt gates entries i

inductive FirstFault (gates : GateSet) (entries : List Entry) : RegistryError → Prop where
  | duplicate {first i : Nat} {e : Entry} : RepeatsAt entries i → (∀ j < i, ¬FaultyAt gates entries j) →
    entries[i]? = some e → first < i →
    (∀ j < i, (∃ earlier, entries[j]? = some earlier ∧ earlier.name.text = e.name.text) ↔ j = first) →
    FirstFault gates entries (.duplicateEntry e.name.text first i)
  | unresolved {i : Nat} {e : Entry} {g : String} : ¬RepeatsAt entries i → (∀ j < i, ¬FaultyAt gates entries j) →
    entries[i]? = some e → e.gateName? = some g → gates.contains g = false →
    FirstFault gates entries (.unknownGate g e.name.text)

theorem position_unique {entries : List Entry} (hnodup : (entries.map (·.name.text)).Nodup) {j k : Nat} {a b : Entry}
    (ha : entries[j]? = some a) (hb : entries[k]? = some b) (hname : a.name.text = b.name.text) : j = k := by
  have hj : j < (entries.map (·.name.text)).length := by
    rw [List.length_map]
    exact (List.getElem?_eq_some_iff.mp ha).1
  refine (List.getElem?_inj hj hnodup).mp ?_
  rw [List.getElem?_map, List.getElem?_map, ha, hb, Option.map_some, Option.map_some, hname]

theorem not_faultyAt_of_passed {gates : GateSet} {passed : List Entry} (h : firstDefect? gates ∅ 0 passed = none)
    (later : List Entry) : ∀ j < passed.length, ¬FaultyAt gates (passed ++ later) j := by
  obtain ⟨-, hnodup, hresolved⟩ := firstDefect?_eq_none_iff.mp h
  intro j hj
  rintro (⟨k, hk, earlier, e, hearlier, he, hname⟩ | ⟨e, g, he, hgate, hlacks⟩)
  · rw [List.getElem?_append_left (Nat.lt_trans hk hj)] at hearlier
    rw [List.getElem?_append_left hj] at he
    exact Nat.ne_of_lt hk (position_unique hnodup hearlier he hname)
  · rw [List.getElem?_append_left hj] at he
    have hresolves := unresolvedGate?_eq_none_iff.mp (hresolved e (List.mem_of_getElem? he)) g hgate
    rw [hlacks] at hresolves
    cases hresolves

theorem firstFault_of_entryDefect {gates : GateSet} {passed later : List Entry} {e : Entry} {error : RegistryError}
    (hpassed : firstDefect? gates ∅ 0 passed = none) (h : entryDefect? gates passed e = some error) :
    FirstFault gates (passed ++ e :: later) error := by
  have hbefore := not_faultyAt_of_passed hpassed (e :: later)
  have hat : (passed ++ e :: later)[passed.length]? = some e := by simp
  have hnodup := (firstDefect?_eq_none_iff.mp hpassed).2.1
  unfold entryDefect? at h
  split at h
  · rename_i first hfirst
    obtain ⟨hlt, hsame, -⟩ := List.findIdx?_eq_some_iff_getElem.mp hfirst
    have hsame : passed[first].name.text = e.name.text := by simpa using hsame
    have hearlier : (passed ++ e :: later)[first]? = some passed[first] := by
      rw [List.getElem?_append_left hlt, List.getElem?_eq_getElem hlt]
    cases h
    refine .duplicate ⟨first, hlt, _, e, hearlier, hat, hsame⟩ hbefore hat hlt ?_
    intro j hj
    constructor
    · rintro ⟨other, hother, hname⟩
      rw [List.getElem?_append_left hj] at hother
      exact position_unique hnodup hother (List.getElem?_eq_getElem hlt) (hname.trans hsame.symm)
    · rintro rfl
      exact ⟨_, hearlier, hsame⟩
  · rename_i hnew
    obtain ⟨g, hgate, hlacks, rfl⟩ := unresolvedGate?_eq_some_iff.mp h
    refine .unresolved ?_ hbefore hat hgate hlacks
    rintro ⟨j, hj, earlier, other, hearlier, hother, hname⟩
    obtain rfl : e = other := Option.some.inj (hat.symm.trans hother)
    rw [List.getElem?_append_left hj] at hearlier
    have hnot := List.findIdx?_eq_none_iff.mp hnew earlier (List.mem_of_getElem? hearlier)
    simp [hname] at hnot

theorem firstFault_of_freeze {d : Draft} {gates : GateSet} {error : RegistryError} (h : d.freeze gates = .error error) :
    FirstFault gates d.entries error := by
  obtain ⟨passed, e, later, hentries, hpassed, hdefect⟩ :=
    firstDefect?_eq_some seen_empty (Draft.freeze_eq_error_iff.mp h)
  rw [hentries]
  exact firstFault_of_entryDefect hpassed hdefect

theorem exists_freeze_iff {d : Draft} {gates : GateSet} :
    (∃ r, d.freeze gates = .ok r) ↔
      (d.entries.map (·.name.text)).Nodup ∧ ∀ e ∈ d.entries, e.Resolved gates := by
  simp only [Draft.freeze_eq_ok_iff, firstDefect?_eq_none_iff, unresolvedGate?_eq_none_iff]
  constructor
  · rintro ⟨r, ⟨-, hnodup, hresolved⟩, -⟩
    exact ⟨hnodup, hresolved⟩
  · rintro ⟨hnodup, hresolved⟩
    exact ⟨⟨d.entries, hnodup⟩, ⟨by simp, hnodup, hresolved⟩, rfl⟩

structure Authored (cs : List Submission) (answers : List (Except RegistryError Unit)) (d : Draft) (gates : GateSet) :
    Prop where
  refused : ∀ name mode before error left, declare name mode before = .error error left →
    left = before ∧ isIdentifier name = false ∧ error = .invalidIdentifier name
  answered : answers = cs.map Submission.answer
  accepted : d.entries.map (fun e => (⟨e.name.text, e.mode⟩ : Submission)) =
    ((cs.zip answers).filter (·.2.isOk)).map Prod.fst
  freezes : (∃ r, d.freeze gates = .ok r) ↔
    (d.entries.map (·.name.text)).Nodup ∧ ∀ e ∈ d.entries, e.Resolved gates
  frozen : ∀ r, d.freeze gates = .ok r → r.entries = d.entries ∧
    ∀ name i, r.position? name = some i ↔ ∃ e, r.get? i = some e ∧ e.name.text = name
  failed : ∀ error, d.freeze gates = .error error → FirstFault gates d.entries error
  valueless : ∀ others : GateSet, (∀ g, gates.contains g = others.contains g) → d.freeze gates = d.freeze others

theorem authored_of_submissions (cs : List Submission) {answers : List (Except RegistryError Unit)} {d : Draft}
    (h : (submitAll cs).run .empty = (answers, d)) (gates : GateSet) : Authored cs answers d gates := by
  have hrun : (cs.map Submission.answer, (⟨[] ++ cs.filterMap Submission.entry?⟩ : Draft)) = (answers, d) :=
    (submitAll_eq cs .empty).symm.trans h
  cases hrun
  constructor
  case refused => exact fun name mode before error left hd => declare_eq_error hd
  case answered => rfl
  case accepted => exact entries_of_accepted cs
  case freezes => exact exists_freeze_iff
  case frozen =>
    intro r hr
    exact ⟨(Draft.freeze_eq_ok_iff.mp hr).2.symm, fun name i => Registry.position?_eq_some_iff⟩
  case failed => exact fun error herror => firstFault_of_freeze herror
  case valueless => exact fun others hothers => Draft.freeze_congr fun e _ g _ => hothers g

def mixedSubmissions : List Submission :=
  [⟨"Halt", .always⟩, ⟨"9", .always⟩, ⟨"Nop", .gated ⟨⟨"Trace", rfl⟩, .soft⟩⟩, ⟨"Halt", .always⟩]

def mixedDraft : Draft :=
  ⟨[⟨⟨"Halt", rfl⟩, .always⟩, ⟨⟨"Nop", rfl⟩, .gated ⟨⟨"Trace", rfl⟩, .soft⟩⟩, ⟨⟨"Halt", rfl⟩, .always⟩]⟩

theorem authored_of_mixedSubmissions :
    (submitAll mixedSubmissions).run .empty =
        ([.ok (), .error (.invalidIdentifier "9"), .ok (), .ok ()], mixedDraft) ∧
      FirstFault (.ofList [("Trace", false)]) mixedDraft.entries (.duplicateEntry "Halt" 0 2) ∧
      FirstFault (.ofList []) mixedDraft.entries (.unknownGate "Trace" "Nop") := by
  have hrun : (submitAll mixedSubmissions).run .empty =
      ([.ok (), .error (.invalidIdentifier "9"), .ok (), .ok ()], mixedDraft) := submitAll_eq mixedSubmissions .empty
  have hpassed (gates : GateSet) (count : Nat) (hnodup : ((mixedDraft.entries.take count).map (·.name.text)).Nodup)
      (hresolved : ∀ e ∈ mixedDraft.entries.take count, unresolvedGate? gates e = none) :
      firstDefect? gates ∅ 0 (mixedDraft.entries.take count) = none :=
    firstDefect?_eq_none_iff.mpr ⟨by simp, hnodup, hresolved⟩
  have hrepeated : mixedDraft.freeze (.ofList [("Trace", false)]) = .error (.duplicateEntry "Halt" 0 2) :=
    Draft.freeze_eq_error_iff.mpr
      (firstDefect?_of_entryDefect seen_empty (hpassed _ 2 (by decide) (by decide)) (by decide))
  have hunresolved : mixedDraft.freeze (.ofList []) = .error (.unknownGate "Trace" "Nop") :=
    Draft.freeze_eq_error_iff.mpr
      (firstDefect?_of_entryDefect seen_empty (hpassed _ 1 (by decide) (by decide)) (by decide))
  exact ⟨hrun, (authored_of_submissions mixedSubmissions hrun _).failed _ hrepeated,
    (authored_of_submissions mixedSubmissions hrun _).failed _ hunresolved⟩

end KindTable
