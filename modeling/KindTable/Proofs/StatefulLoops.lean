import Mathlib.Data.List.Basic

namespace KindTable

variable {σ ι κ α : Type}

theorem run_mapM_cons (f : ι → StateM σ α) (i : ι) (later : List ι) (start : σ) :
    (((i :: later).mapM f).run start).run =
      (((f i).run start).run.1 :: ((later.mapM f).run ((f i).run start).run.2).run.1,
        ((later.mapM f).run ((f i).run start).run.2).run.2) := by
  rw [List.mapM_cons]
  rfl

theorem length_run_mapM (f : ι → StateM σ α) (is : List ι) (start : σ) :
    ((is.mapM f).run start).run.1.length = is.length := by
  induction is generalizing start with
  | nil => rfl
  | cons i later ih => rw [run_mapM_cons, List.length_cons, List.length_cons, ih]

theorem getElem?_run_mapM (f : ι → StateM σ α) (is : List ι) (start : σ) (n : Nat) :
    ((is.mapM f).run start).run.1[n]? =
      is[n]?.map fun i => ((f i).run (((is.take n).mapM f).run start).run.2).run.1 := by
  induction is generalizing start n with
  | nil => rfl
  | cons i later ih =>
    rw [run_mapM_cons]
    cases n with
    | zero => rfl
    | succ n =>
      rw [List.getElem?_cons_succ, List.getElem?_cons_succ, List.take_succ_cons, run_mapM_cons]
      exact ih ((f i).run start).run.2 n

inductive Yields (next? : κ → Option (ι × κ)) : κ → List ι → Prop where
  | spent {c : κ} : next? c = none → Yields next? c []
  | input {c after : κ} {i : ι} {later : List ι} :
    next? c = some (i, after) → Yields next? after later → Yields next? c (i :: later)

theorem yields_next? (is : List ι) : Yields List.next? is is := by
  induction is with
  | nil => exact .spent rfl
  | cons i later ih => exact .input rfl ih

inductive Loops (next? : κ → Option (ι × κ)) (f : ι → StateM σ α) : κ → σ → List α → σ → Prop where
  | spent {c : κ} {x : σ} : next? c = none → Loops next? f c x [] x
  | call {c after : κ} {i : ι} {x y z : σ} {a : α} {rows : List α} :
    next? c = some (i, after) → ((f i).run x).run = (a, y) → Loops next? f after y rows z →
    Loops next? f c x (a :: rows) z

theorem Yields.loops {next? : κ → Option (ι × κ)} {c : κ} {is : List ι} (h : Yields next? c is) (f : ι → StateM σ α)
    (start : σ) : Loops next? f c start ((is.mapM f).run start).run.1 ((is.mapM f).run start).run.2 := by
  induction h generalizing start with
  | spent hnext => exact .spent hnext
  | @input c after i later hnext hlater ih =>
    rw [run_mapM_cons]
    exact .call hnext rfl (ih ((f i).run start).run.2)

theorem Loops.unique {next? : κ → Option (ι × κ)} {f : ι → StateM σ α} {c : κ} {x y z : σ} {rows others : List α}
    (h : Loops next? f c x rows y) (h' : Loops next? f c x others z) : rows = others ∧ y = z := by
  induction h generalizing others z with
  | spent hnext =>
    cases h' with
    | spent => exact ⟨rfl, rfl⟩
    | call hnext' => simp [hnext] at hnext'
  | call hnext hcall hlater ih =>
    cases h' with
    | spent hnext' => simp [hnext] at hnext'
    | call hnext' hcall' hlater' =>
      rw [hnext] at hnext'
      cases hnext'
      rw [hcall] at hcall'
      cases hcall'
      obtain ⟨rfl, rfl⟩ := ih hlater'
      exact ⟨rfl, rfl⟩

theorem Yields.loops_iff {next? : κ → Option (ι × κ)} {c : κ} {is : List ι} (h : Yields next? c is)
    {f : ι → StateM σ α} {start last : σ} {rows : List α} :
    Loops next? f c start rows last ↔ ((is.mapM f).run start).run = (rows, last) := by
  constructor
  · intro hloops
    obtain ⟨rfl, rfl⟩ := hloops.unique (h.loops f start)
    rfl
  · intro hrun
    have hloops := h.loops f start
    rwa [hrun] at hloops

theorem Yields.loops_iff_of_run {next? : κ → Option (ι × κ)} {c : κ} {is : List ι} (h : Yields next? c is)
    {f : ι → StateM σ α} {start last : σ} {rows : List α} (hrun : ((is.mapM f).run start).run = (rows, last))
    (others : List α) (z : σ) : Loops next? f c start others z ↔ others = rows ∧ z = last := by
  rw [h.loops_iff, hrun, Prod.mk.injEq]
  exact and_congr eq_comm eq_comm

def recorded (f : ι → StateM σ α) (i : ι) : StateM (σ × List ι) α := fun (x, calls) =>
  let (a, y) := ((f i).run x).run
  pure (a, y, calls ++ [i])

theorem run_mapM_recorded (f : ι → StateM σ α) (is calls : List ι) (start : σ) :
    ((is.mapM (recorded f)).run (start, calls)).run =
      (((is.mapM f).run start).run.1, ((is.mapM f).run start).run.2, calls ++ is) := by
  induction is generalizing start calls with
  | nil =>
    rw [List.append_nil]
    rfl
  | cons i later ih =>
    have hcall : ((recorded f i).run (start, calls)).run =
        (((f i).run start).run.1, ((f i).run start).run.2, calls ++ [i]) := rfl
    rw [run_mapM_cons, run_mapM_cons, hcall, ih, List.append_cons calls i later]

end KindTable
