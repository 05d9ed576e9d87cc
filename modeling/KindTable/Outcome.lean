namespace KindTable

variable {ε ε' α β : Type}

theorem bind_eq_ok_iff {x : Except ε α} {f : α → Except ε β} {b : β} :
    (x >>= f) = .ok b ↔ ∃ a, x = .ok a ∧ f a = .ok b := by
  cases x <;> simp [bind, Except.bind]

theorem bind_eq_error_iff {x : Except ε α} {f : α → Except ε β} {e : ε} :
    (x >>= f) = .error e ↔ x = .error e ∨ ∃ a, x = .ok a ∧ f a = .error e := by
  cases x <;> simp [bind, Except.bind]

theorem bind_congr_of_ok {x : Except ε α} {f g : α → Except ε β} (h : ∀ a, x = .ok a → f a = g a) :
    (x >>= f) = (x >>= g) := by
  cases x with
  | error e => rfl
  | ok a => exact h a rfl

theorem map_eq_ok_iff {x : Except ε α} {f : α → β} {b : β} : x.map f = .ok b ↔ ∃ a, x = .ok a ∧ f a = b := by
  cases x <;> simp [Except.map]

theorem mapError_eq_ok_iff {x : Except ε α} {f : ε → ε'} {a : α} : x.mapError f = .ok a ↔ x = .ok a := by
  cases x with
  | ok b =>
    change (.ok b : Except ε' α) = .ok a ↔ _
    simp
  | error e =>
    change (.error (f e) : Except ε' α) = .ok a ↔ _
    simp

theorem mapError_eq_error_iff {x : Except ε α} {f : ε → ε'} {e : ε'} :
    x.mapError f = .error e ↔ ∃ fault, x = .error fault ∧ f fault = e := by
  cases x with
  | ok a =>
    change (.ok a : Except ε' α) = .error e ↔ _
    simp
  | error fault =>
    change (.error (f fault) : Except ε' α) = .error e ↔ _
    simp

theorem map_eq_error_iff {x : Except ε α} {f : α → β} {e : ε} : x.map f = .error e ↔ x = .error e := by
  cases x <;> simp [Except.map]

theorem mapM_eq_error {f : α → Except ε β} {xs : List α} {e : ε}
    (hsame : ∀ x ∈ xs, ∀ other, f x = .error other → other = e) (hfails : ∃ x ∈ xs, f x = .error e) :
    xs.mapM f = .error e := by
  induction xs with
  | nil =>
    obtain ⟨x, hx, -⟩ := hfails
    cases hx
  | cons x rest ih =>
    rw [List.mapM_cons]
    cases hx : f x with
    | error other =>
      rw [hsame x List.mem_cons_self other hx]
      rfl
    | ok b =>
      have hrest : rest.mapM f = .error e := by
        apply ih
        · exact fun y hy => hsame y (List.mem_cons_of_mem _ hy)
        · obtain ⟨y, hy, hfail⟩ := hfails
          rcases List.mem_cons.mp hy with rfl | hy
          · rw [hx] at hfail
            cases hfail
          · exact ⟨y, hy, hfail⟩
      rw [hrest]
      rfl

theorem mapM_eq_ok {f : α → Except ε β} {g : α → β} {xs : List α} (h : ∀ x ∈ xs, f x = .ok (g x)) :
    xs.mapM f = .ok (xs.map g) := by
  induction xs with
  | nil => rfl
  | cons x rest ih =>
    obtain ⟨hx, hrest⟩ := List.forall_mem_cons.mp h
    rw [List.mapM_cons, hx, ih hrest]
    rfl

theorem mapM_eq_ok_iff [Inhabited β] {f : α → Except ε β} {xs : List α} {ys : List β} :
    xs.mapM f = .ok ys ↔ ∃ g : α → β, (∀ x ∈ xs, f x = .ok (g x)) ∧ xs.map g = ys := by
  constructor
  · intro h
    refine ⟨fun x => (f x).toOption.getD default, ?_⟩
    induction xs generalizing ys with
    | nil =>
      cases h
      exact ⟨fun x hx => (nomatch hx), rfl⟩
    | cons x rest ih =>
      simp only [List.mapM_cons, bind_eq_ok_iff] at h
      obtain ⟨y, hx, later, hrest, hys⟩ := h
      cases hys
      obtain ⟨hvalues, rfl⟩ := ih hrest
      have hvalue : f x = .ok ((f x).toOption.getD default) := by
        rw [hx]
        rfl
      exact ⟨List.forall_mem_cons.mpr ⟨hvalue, hvalues⟩, by rw [List.map_cons, hx]; rfl⟩
  · rintro ⟨g, hvalues, rfl⟩
    exact mapM_eq_ok hvalues

end KindTable
