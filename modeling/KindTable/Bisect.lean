namespace KindTable

def bisectIn (xs : Array Nat) (x lo hi : Nat) (hhi : hi ≤ xs.size) : Option Nat :=
  if hlt : lo < hi then
    let mid := lo + (hi - lo) / 2
    have hmid : mid < xs.size := by omega
    if xs[mid] = x then some mid
    else if xs[mid] < x then bisectIn xs x (mid + 1) hi hhi
    else bisectIn xs x lo mid (by omega)
  else none
termination_by hi - lo

def bisect? (xs : Array Nat) (x : Nat) : Option Nat := bisectIn xs x 0 xs.size (Nat.le_refl _)

def Increasing (xs : Array Nat) : Prop := xs.toList.Pairwise (· < ·)

theorem Increasing.getElem_lt_iff {xs : Array Nat} (h : Increasing xs) {i j : Nat} (hi : i < xs.size)
    (hj : j < xs.size) : xs[i] < xs[j] ↔ i < j := by
  have hlt {a b : Nat} (ha : a < xs.size) (hb : b < xs.size) (hab : a < b) : xs[a] < xs[b] := by
    simpa using List.pairwise_iff_getElem.mp h a b ha hb hab
  constructor
  · intro hless
    rcases Nat.lt_trichotomy i j with hij | rfl | hij
    · exact hij
    · exact absurd hless (Nat.lt_irrefl _)
    · exact absurd hless (Nat.lt_asymm (hlt hj hi hij))
  · exact hlt hi hj

theorem getElem?_of_bisectIn {xs : Array Nat} {x lo hi i : Nat} {hhi : hi ≤ xs.size}
    (h : bisectIn xs x lo hi hhi = some i) : xs[i]? = some x := by
  fun_induction bisectIn xs x lo hi hhi with
  | case1 lo hi hhi hlt mid hmid hfound =>
    rw [← Option.some.inj h, Array.getElem?_eq_getElem hmid, hfound]
  | case2 lo hi hhi hlt mid hmid hne hless ih => exact ih h
  | case3 lo hi hhi hlt mid hmid hne hless ih => exact ih h
  | case4 => cases h

-- The index searched for stays between the bounds: the array increases, so it is on the side that is kept.
theorem bisectIn_getElem {xs : Array Nat} (h : Increasing xs) {lo hi i : Nat} {hhi : hi ≤ xs.size}
    (hlo : lo ≤ i) (hi' : i < hi) (hsize : i < xs.size) : bisectIn xs xs[i] lo hi hhi = some i := by
  fun_induction bisectIn xs xs[i] lo hi hhi with
  | case1 lo hi hhi hlt mid hmid hfound =>
    have hnot : ¬ mid < i ∧ ¬ i < mid := by
      rw [← h.getElem_lt_iff hmid hsize, ← h.getElem_lt_iff hsize hmid, hfound]
      exact ⟨Nat.lt_irrefl _, Nat.lt_irrefl _⟩
    rw [Nat.le_antisymm (Nat.not_lt.mp hnot.2) (Nat.not_lt.mp hnot.1)]
  | case2 lo hi hhi hlt mid hmid hne hless ih =>
    have hright : mid < i := (h.getElem_lt_iff hmid hsize).mp hless
    exact ih hright hi'
  | case3 lo hi hhi hlt mid hmid hne hless ih =>
    have hgreater : xs[i] < xs[mid] := Nat.lt_of_le_of_ne (Nat.not_lt.mp hless) (Ne.symm hne)
    have hleft : i < mid := (h.getElem_lt_iff hsize hmid).mp hgreater
    exact ih hlo hleft
  | case4 lo hi hhi hge => exact absurd (Nat.lt_of_le_of_lt hlo hi') hge

theorem bisect?_eq_some_iff {xs : Array Nat} (h : Increasing xs) {x i : Nat} :
    bisect? xs x = some i ↔ xs[i]? = some x := by
  constructor
  · exact getElem?_of_bisectIn
  · intro hget
    obtain ⟨hsize, rfl⟩ := Array.getElem?_eq_some_iff.mp hget
    exact bisectIn_getElem h (Nat.zero_le i) hsize hsize

end KindTable
