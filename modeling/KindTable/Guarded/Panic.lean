import KindTable.Source.Defect

namespace KindTable

inductive Panic where
  | slice (span : Span)
  | index (position size : Nat)
  | underflow (total part : Nat)
  | malformedWord (word : String)
  | endless
  deriving DecidableEq, Repr

abbrev Guarded := Except Panic

namespace Guarded

def subtract (total part : Nat) : Guarded Nat :=
  if part ≤ total then .ok (total - part) else .error (.underflow total part)

def index {α : Type} (xs : List α) (position : Nat) : Guarded α :=
  match xs[position]? with
  | some x => .ok x
  | none => .error (.index position xs.length)

def splitBytes? : (bytes : Nat) → List Char → Option (List Char × List Char)
  | 0, text => some ([], text)
  | _ + 1, [] => none
  | bytes + 1, c :: cs =>
    if c.utf8Size ≤ bytes + 1 then
      (splitBytes? (bytes + 1 - c.utf8Size) cs).map fun (front, back) => (c :: front, back)
    else none

def sliceBytes? (text : List Char) (span : Span) : Option (List Char) :=
  if span.start ≤ span.stop then
    (splitBytes? span.start text).bind fun (_, behind) => (splitBytes? span.length behind).map Prod.fst
  else none

def slice (text : List Char) (span : Span) : Guarded (List Char) :=
  match sliceBytes? text span with
  | some piece => .ok piece
  | none => .error (.slice span)

def measure (defect : Defect) : Guarded Defect := do
  forM defect.labels fun label => discard (subtract label.span.stop label.span.start)
  return defect

def settled {ε α : Type} (result : Except ε α) : ExceptT ε Guarded α := .mk (.ok result)

theorem ok_bind {α β : Type} (a : α) (f : α → Guarded β) : (Except.ok a >>= f) = f a := rfl

theorem subtract_eq {total part : Nat} (h : part ≤ total) : subtract total part = .ok (total - part) := if_pos h

theorem index_eq {α : Type} {xs : List α} {position : Nat} {x : α} (h : xs[position]? = some x) :
    index xs position = .ok x := by
  rw [index, h]

theorem splitBytes?_eq_some_iff {bytes : Nat} {text front back : List Char} :
    splitBytes? bytes text = some (front, back) ↔ text = front ++ back ∧ bytes = utf8Length front := by
  fun_induction splitBytes? bytes text generalizing front with
  | case1 text =>
    cases front with
    | nil => simp [eq_comm]
    | cons a as =>
      have hsize := a.utf8Size_pos
      simp only [Option.some.injEq, Prod.mk.injEq, utf8Length_cons]
      constructor
      · rintro ⟨hfront, -⟩
        cases hfront
      · rintro ⟨-, hbytes⟩
        omega
  | case2 bytes =>
    cases front <;> simp
  | case3 bytes c cs hle ih =>
    cases front with
    | nil => simp
    | cons a as =>
      simp only [Option.map_eq_some_iff, Prod.exists, Prod.mk.injEq, List.cons_append, List.cons.injEq, utf8Length_cons]
      constructor
      · rintro ⟨others, behind, hsplit, ⟨rfl, rfl⟩, rfl⟩
        obtain ⟨rfl, hbytes⟩ := ih.mp hsplit
        exact ⟨⟨rfl, rfl⟩, by omega⟩
      · rintro ⟨⟨rfl, hcs⟩, hbytes⟩
        exact ⟨as, back, ih.mpr ⟨hcs, by omega⟩, ⟨rfl, rfl⟩, rfl⟩
  | case4 bytes c cs hlt =>
    cases front with
    | nil => simp
    | cons a as =>
      simp only [reduceCtorEq, List.cons_append, List.cons.injEq, utf8Length_cons, false_iff]
      rintro ⟨⟨rfl, -⟩, hbytes⟩
      omega

theorem forM_eq {α : Type} {xs : List α} {f : α → Guarded Unit} (h : ∀ x ∈ xs, f x = .ok ()) : forM xs f = .ok () := by
  induction xs with
  | nil => rfl
  | cons x rest ih =>
    obtain ⟨hx, hrest⟩ := List.forall_mem_cons.mp h
    rw [List.forM_cons, hx]
    exact ih hrest

theorem measure_eq {defect : Defect} (h : ∀ label ∈ defect.labels, label.span.start ≤ label.span.stop) :
    measure defect = .ok defect := by
  have hlabels : ∀ label ∈ defect.labels, discard (subtract label.span.stop label.span.start) = .ok () := by
    intro label hlabel
    rw [subtract_eq (h label hlabel)]
    rfl
  rw [measure, forM_eq hlabels]
  rfl

section

variable {ε ε' α β : Type}

theorem settled_bind {x : Except ε α} {f : α → ExceptT ε Guarded β} {g : α → Except ε β}
    (h : ∀ a, x = .ok a → f a = settled (g a)) : (settled x >>= f) = settled (x >>= g) := by
  cases x with
  | error e => rfl
  | ok a => exact h a rfl

theorem settled_ok_bind (a : α) (f : α → ExceptT ε Guarded β) : (settled (.ok a) >>= f) = f a := rfl

theorem settled_map (f : α → β) (x : Except ε α) : f <$> settled x = settled (x.map f) := by
  cases x <;> rfl

theorem adapt_settled (f : ε → ε') (x : Except ε α) : (settled x).adapt f = settled (x.mapError f) := rfl

theorem lift_bind (a : α) (f : α → ExceptT ε Guarded β) : (liftM (Except.ok a : Guarded α) >>= f) = f a := rfl

end

end Guarded

end KindTable
