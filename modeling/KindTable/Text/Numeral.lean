namespace KindTable

def readNumeral (text : List Char) : Nat × List Char :=
  (Nat.ofDigitChars 10 (text.takeWhile Char.isDigit) 0, text.dropWhile Char.isDigit)

theorem toList_toString (n : Nat) : (toString n).toList = Nat.toDigits 10 n := by
  change n.repr.toList = _
  rw [Nat.repr_eq_ofList_toDigits, String.toList_ofList]

theorem isDigit_of_mem_toString {n : Nat} : ∀ c ∈ (toString n).toList, c.isDigit = true := by
  rw [toList_toString]
  exact fun c hc => Nat.isDigit_of_mem_toDigits (by decide) (by decide) hc

theorem toList_toString_ne_nil (n : Nat) : (toString n).toList ≠ [] := by
  rw [toList_toString]
  exact Nat.toDigits_ne_nil

theorem readNumeral_toString (n : Nat) {rest : List Char} (h : ∀ c ∈ rest.head?, c.isDigit = false) :
    readNumeral ((toString n).toList ++ rest) = (n, rest) := by
  have htake : rest.takeWhile Char.isDigit = [] := by
    cases rest with
    | nil => rfl
    | cons c later => exact List.takeWhile_cons_of_neg (by simpa using h c rfl)
  have hdrop : rest.dropWhile Char.isDigit = rest := by
    cases rest with
    | nil => rfl
    | cons c later => exact List.dropWhile_cons_of_neg (by simpa using h c rfl)
  rw [readNumeral, List.takeWhile_append_of_pos isDigit_of_mem_toString,
    List.dropWhile_append_of_pos isDigit_of_mem_toString, htake, hdrop, List.append_nil, toList_toString,
    Nat.ofDigitChars_ten_toDigits]

end KindTable
