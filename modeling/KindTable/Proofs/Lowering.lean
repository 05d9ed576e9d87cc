import Mathlib.Data.List.Forall2
import KindTable.Source.Table

namespace KindTable

def Word.isMalformed (w : Word) : Bool := !isIdentifier w.text

def Word.defect (w : Word) : Defect := .invalidIdentifier w.text w.span

namespace Declaration

def words (d : Declaration) : List Word := (d.mode.map (·.gate)).toList ++ [d.name]

def malformed (d : Declaration) : List Word := d.words.filter Word.isMalformed

def Declares (d : Declaration) (e : Entry) : Prop :=
  e.name.text = d.name.text ∧ match d.mode with
    | none => e.mode = .always
    | some clause => ∃ g : Gate, e.mode = .gated g ∧ g.name.text = clause.gate.text ∧ g.kind = clause.kind

end Declaration

def malformedDefects (declarations : List Declaration) : List Defect :=
  declarations.flatMap fun d => d.malformed.map Word.defect

def firstDefects (declarations : List Declaration) : List Defect :=
  declarations.flatMap fun d => (d.malformed.take 1).map Word.defect

theorem Word.identifier?_of_malformed {w : Word} (h : w.isMalformed = true) : w.identifier? = .error w.defect :=
  Word.identifier?_eq_error_iff.mpr ⟨by simpa [isMalformed] using h, rfl⟩

theorem Word.identifier?_of_wellFormed {w : Word} (h : w.isMalformed = false) : ∃ i, w.identifier? = .ok i := by
  have hvalid : isIdentifier w.text = true := by simpa [isMalformed] using h
  exact ⟨⟨w.text, hvalid⟩, Word.identifier?_eq_ok_iff.mpr rfl⟩

theorem Declaration.entry?_eq_ok_iff_declares {d : Declaration} {e : Entry} : d.entry? = .ok e ↔ d.Declares e := by
  rw [entry?_eq_ok_iff, Declares, mode?]
  cases d.mode with
  | none =>
    simp only [Except.ok.injEq]
    exact and_congr_right fun _ => eq_comm
  | some clause => rw [ModeClause.mode?_eq_ok_iff]

theorem Declaration.mode?_cases (d : Declaration) :
    (∃ mode, d.mode? = .ok mode ∧ d.malformed = [d.name].filter Word.isMalformed) ∨
      ∃ w, d.mode? = .error w.defect ∧ d.malformed = w :: [d.name].filter Word.isMalformed := by
  unfold mode? malformed words
  cases d.mode with
  | none => exact .inl ⟨.always, rfl, rfl⟩
  | some clause =>
    have hwords : (Option.map ModeClause.gate (some clause)).toList ++ [d.name] = [clause.gate, d.name] := rfl
    rw [hwords]
    cases hgate : clause.gate.isMalformed with
    | true =>
      refine .inr ⟨clause.gate, ?_, List.filter_cons_of_pos hgate⟩
      change clause.mode? = _
      rw [ModeClause.mode?, Word.identifier?_of_malformed hgate]
      rfl
    | false =>
      obtain ⟨i, hi⟩ := Word.identifier?_of_wellFormed hgate
      refine .inl ⟨.gated ⟨i, clause.kind⟩, ?_, List.filter_cons_of_neg (by simp [hgate])⟩
      change clause.mode? = _
      rw [ModeClause.mode?, hi]
      rfl

-- The gate stands before the name among the words, and a malformed gate ends the look at the declaration.
theorem Declaration.entry?_cases (d : Declaration) :
    (d.malformed = [] ∧ ∃ e, d.entry? = .ok e) ∨
      ∃ w rest, d.malformed = w :: rest ∧ d.entry? = .error w.defect := by
  rcases d.mode?_cases with ⟨mode, hmode, hmalformed⟩ | ⟨w, hmode, hmalformed⟩
  · unfold entry?
    rw [hmode, hmalformed]
    cases hname : d.name.isMalformed with
    | false =>
      obtain ⟨i, hi⟩ := Word.identifier?_of_wellFormed hname
      exact .inl ⟨by simp [hname], ⟨i, mode⟩, by rw [hi]; rfl⟩
    | true => exact .inr ⟨d.name, [], by simp [hname], by rw [Word.identifier?_of_malformed hname]; rfl⟩
  · exact .inr ⟨w, _, hmalformed, by unfold entry?; rw [hmode]; rfl⟩

theorem errorsOf_entries (declarations : List Declaration) :
    errorsOf (declarations.map Declaration.entry?) = firstDefects declarations := by
  induction declarations with
  | nil => rfl
  | cons d rest ih =>
    rw [List.map_cons, firstDefects, List.flatMap_cons, ← firstDefects, ← ih]
    rcases d.entry?_cases with ⟨hwell, e, hentry⟩ | ⟨w, others, hbad, hentry⟩
    · rw [hentry, hwell]
      rfl
    · rw [hentry, hbad]
      rfl

theorem firstDefects_eq_nil_iff {declarations : List Declaration} :
    firstDefects declarations = [] ↔ ∀ d ∈ declarations, d.malformed = [] := by
  simp [firstDefects, List.flatMap_eq_nil_iff, List.take_eq_nil_iff]

theorem sublist_firstDefects (declarations : List Declaration) :
    (firstDefects declarations).Sublist (malformedDefects declarations) := by
  induction declarations with
  | nil => exact List.Sublist.refl _
  | cons d rest ih => exact ((List.take_sublist 1 d.malformed).map Word.defect).append ih

theorem firstDefects_perm_iff {declarations : List Declaration} :
    (firstDefects declarations).Perm (malformedDefects declarations) ↔
      ∀ d ∈ declarations, d.malformed.length ≤ 1 := by
  constructor
  · intro hperm
    have hlength := hperm.length_eq
    clear hperm
    induction declarations with
    | nil => exact fun d hd => nomatch hd
    | cons d rest ih =>
      have hrest := (sublist_firstDefects rest).length_le
      simp only [firstDefects, malformedDefects, List.flatMap_cons, List.length_append, List.length_map,
        List.length_take] at hlength hrest ih
      rw [List.forall_mem_cons]
      exact ⟨by omega, ih (by omega)⟩
  · intro hsingle
    have heq : firstDefects declarations = malformedDefects declarations := by
      refine List.flatMap_congr fun d hd => ?_
      rw [List.take_of_length_le (hsingle d hd)]
    rw [heq]

structure Lowered (declarations : List Declaration) : Prop where
  fails : (∃ defects, lower declarations = .error defects) ↔ ∃ d ∈ declarations, d.malformed ≠ []
  reported : ∀ defects, lower declarations = .error defects → defects = firstDefects declarations
  complete : ∀ defects, lower declarations = .error defects →
    (defects.Perm (malformedDefects declarations) ↔ ∀ d ∈ declarations, d.malformed.length ≤ 1)
  entered : ∀ draft, lower declarations = .ok draft → List.Forall₂ Declaration.Declares declarations draft.entries

theorem lower_reports_first_malformed (declarations : List Declaration) : Lowered declarations := by
  have hreported {defects : List Defect} (h : lower declarations = .error defects) :
      defects = firstDefects declarations := by
    rw [← errorsOf_entries]
    exact (lower_eq_error_iff.mp h).1.symm
  constructor
  case fails =>
    have hnone : (∃ d ∈ declarations, d.malformed ≠ []) ↔ firstDefects declarations ≠ [] := by
      rw [Ne, firstDefects_eq_nil_iff]
      simp
    simp only [lower_eq_error_iff, errorsOf_entries, hnone]
    constructor
    · rintro ⟨defects, rfl, hne⟩
      exact hne
    · exact fun hne => ⟨_, rfl, hne⟩
  case reported => exact fun defects h => hreported h
  case complete =>
    intro defects h
    rw [hreported h, firstDefects_perm_iff]
  case entered =>
    intro draft h
    have hentries : List.Forall₂ (fun result e => result = .ok e)
        (declarations.map Declaration.entry?) draft.entries := by
      rw [lower_eq_ok_iff.mp h, List.forall₂_map_left_iff, List.forall₂_same]
      exact fun e _ => rfl
    rw [List.forall₂_map_left_iff] at hentries
    exact hentries.imp fun d e he => Declaration.entry?_eq_ok_iff_declares.mp he

def twiceMalformed : Declaration := ⟨⟨"1Bad", ⟨0, 4⟩⟩, some ⟨.hard, ⟨"2x", ⟨8, 10⟩⟩, ⟨5, 11⟩⟩, ⟨0, 11⟩⟩

theorem lower_misses_name_of_twiceMalformed :
    lower [twiceMalformed] = .error [.invalidIdentifier "2x" ⟨8, 10⟩] ∧
      .invalidIdentifier "1Bad" ⟨0, 4⟩ ∈ malformedDefects [twiceMalformed] ∧
      ¬[.invalidIdentifier "2x" ⟨8, 10⟩].Perm (malformedDefects [twiceMalformed]) := by
  refine ⟨by rfl, by decide, ?_⟩
  intro hperm
  have hlength : 1 = 2 := hperm.length_eq
  cases hlength

end KindTable
