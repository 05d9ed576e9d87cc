import KindTable.Layout

namespace KindTable

def separate (separator : List Doc) : List (List Doc) → List Doc
  | [] => []
  | [last] => last
  | item :: rest => item ++ separator ++ separate separator rest

def stackLines (items : List (List Doc)) : List Doc := items.flatMap (· ++ [.hard 0])

def block (head : List Doc) (items : List (List Doc)) : List Doc :=
  if items.isEmpty then head ++ [.text "\x7b\x7d"]
  else [.group 4 (head ++ [.text "\x7b", .hard 0] ++ separate [.hard 0] items ++ [.hard (-4)]), .text "\x7d"]

def beforeCloser : Fold := { Fold.nothing with before := ",", shift := -4 }

def bracketed (inner : List Doc) : Doc := .group 4 (.fold .nothing :: inner ++ [.fold beforeCloser])

def arrayOf (elements : List (List Doc)) : List Doc :=
  if elements.isEmpty then [.text "[]"]
  else [.text "[", bracketed (separate [.text ",", .fold .space] elements), .text "]"]

def matchArm (pattern result : List Doc) : List Doc :=
  pattern ++ [.text " => ", .seam,
    .group 4 (.fold { Fold.nothing with before := "\x7b" } :: result ++
      [.fold { Fold.nothing with flat := ",", after := "\x7d", shift := -4 }])]

theorem flatMap_mentions {α : Type} {item : α → List Doc} {mention : α → Mention}
    (h : ∀ a, mentionsOf (item a) = [mention a]) (as : List α) :
    (as.map item).flatMap mentionsOf = as.map mention := by
  rw [List.flatMap_map, List.map_eq_flatMap]
  exact congrArg (List.flatMap · as) (funext h)

theorem mentionsOf_separate {separator : List Doc} (h : mentionsOf separator = []) (items : List (List Doc)) :
    mentionsOf (separate separator items) = items.flatMap mentionsOf := by
  fun_induction separate separator items with
  | case1 => rfl
  | case2 last => simp
  | case3 item rest hne ih => simp [h, ih]

@[simp] theorem mentionsOf_stackLines (items : List (List Doc)) :
    mentionsOf (stackLines items) = items.flatMap mentionsOf := by
  induction items with
  | nil => rfl
  | cons item rest ih =>
    rw [stackLines] at ih
    simp [stackLines, ih, mentionsOf, Doc.mentions]

@[simp] theorem mentionsOf_block (head : List Doc) (items : List (List Doc)) :
    mentionsOf (block head items) = mentionsOf head ++ items.flatMap mentionsOf := by
  unfold block
  split
  · rename_i hnone
    obtain rfl := List.isEmpty_iff.mp hnone
    simp [mentionsOf, Doc.mentions]
  · simp [mentionsOf, Doc.mentions, mentionsOf_separate]

@[simp] theorem mentions_bracketed (inner : List Doc) : (bracketed inner).mentions = mentionsOf inner := by
  simp [bracketed, mentionsOf, Doc.mentions]

@[simp] theorem mentionsOf_arrayOf (elements : List (List Doc)) :
    mentionsOf (arrayOf elements) = elements.flatMap mentionsOf := by
  unfold arrayOf
  split
  · rename_i hnone
    obtain rfl := List.isEmpty_iff.mp hnone
    rfl
  · simp [mentionsOf, Doc.mentions, mentionsOf_separate]

@[simp] theorem mentionsOf_matchArm (pattern result : List Doc) :
    mentionsOf (matchArm pattern result) = mentionsOf pattern ++ mentionsOf result := by
  simp [matchArm, mentionsOf, Doc.mentions]

end KindTable
