import KindTable.Proofs.ToolkitLaws

namespace KindTable

namespace JsonCursor

theorem readTextFrom_quote (read rest : List Char) (offset : Nat) :
    readTextFrom read ⟨offset, '"' :: rest⟩ = .ok (.ofList read.reverse, ⟨offset + 1, rest⟩) := by
  rw [readTextFrom]
  rfl

theorem readTextFrom_escaped {read rest : List Char} {offset : Nat} {char : Char} {after : JsonCursor}
    (h : readEscape ⟨offset + 1, rest⟩ = .ok (char, after)) :
    readTextFrom read ⟨offset, '\\' :: rest⟩ = readTextFrom (char :: read) after := by
  rw [readTextFrom]
  have hne : '\\' ≠ '"' := by decide
  simp only [head?, List.head?_cons, if_neg hne, if_true]
  split
  · rename_i e he
    cases h.symm.trans he
  · rename_i meant after' he
    cases h.symm.trans he
    rfl

theorem readTextFrom_plain {read rest : List Char} {offset : Nat} {c : Char} (hquote : c ≠ '"') (hslash : c ≠ '\\')
    (hprinted : ¬c.toNat < 0x20) :
    readTextFrom read ⟨offset, c :: rest⟩ = readTextFrom (c :: read) ⟨offset + c.utf8Size, rest⟩ := by
  rw [readTextFrom]
  simp only [head?, List.head?_cons, if_neg hquote, if_neg hslash, if_neg hprinted]
  rfl

end JsonCursor

namespace JsonValue

open JsonCursor

theorem readUnicode_control {n : Nat} (hn : n < 0x20) (rest : List Char) (offset : Nat) :
    readUnicode ⟨offset, '0' :: '0' :: hexDigit (n / 16) :: hexDigit (n % 16) :: rest⟩ =
      .ok (.ofNat n, ⟨offset + 4, rest⟩) := by
  have hread : ∀ n < 0x20, ['0', '0', hexDigit (n / 16), hexDigit (n % 16)].all isHexDigit = true ∧
      hexNumber ['0', '0', hexDigit (n / 16), hexDigit (n % 16)] = n ∧ isLowSurrogate n = false ∧
      isHighSurrogate n = false := by decide
  obtain ⟨hhex, hnumber, hlow, hhigh⟩ := hread n hn
  have hfour : readFourHex ⟨offset, '0' :: '0' :: hexDigit (n / 16) :: hexDigit (n % 16) :: rest⟩ =
      .ok (n, ⟨offset + 4, rest⟩) := by
    simp only [readFourHex, List.take_succ_cons, List.take_zero, List.length_cons, List.length_nil,
      List.drop_succ_cons, List.drop_zero, hhex, hnumber]
    rfl
  simp only [readUnicode, hfour, bind, Except.bind, hlow, hhigh]
  rfl

theorem readEscape_plain {mark c : Char} (h : plainEscape? mark = some c) (rest : List Char) (offset : Nat) :
    readEscape ⟨offset, mark :: rest⟩ = .ok (c, ⟨offset + mark.utf8Size, rest⟩) := by
  unfold readEscape
  split
  · rename_i hmark
    cases hmark
  · rename_i hmark
    cases hmark
    cases h
  · rename_i char hother hmark
    cases hmark
    rw [h]
    rfl

theorem escape_cases (c : Char) :
    (∃ mark, (escape c).toList = ['\\', mark] ∧ plainEscape? mark = some c) ∨
      (c.toNat < 0x20 ∧
        (escape c).toList = ['\\', 'u', '0', '0', hexDigit (c.toNat / 16), hexDigit (c.toNat % 16)]) ∨
      ((escape c).toList = [c] ∧ c ≠ '"' ∧ c ≠ '\\' ∧ ¬c.toNat < 0x20) := by
  unfold escape
  split
  · subst_vars
    exact .inl ⟨'"', rfl, rfl⟩
  split
  · subst_vars
    exact .inl ⟨'\\', rfl, rfl⟩
  split
  · subst_vars
    exact .inl ⟨'n', rfl, rfl⟩
  split
  · subst_vars
    exact .inl ⟨'r', rfl, rfl⟩
  split
  · subst_vars
    exact .inl ⟨'t', rfl, rfl⟩
  split
  · subst_vars
    exact .inl ⟨'b', rfl, rfl⟩
  split
  · subst_vars
    exact .inl ⟨'f', rfl, rfl⟩
  split
  · rename_i hcontrol
    refine .inr (.inl ⟨hcontrol, ?_⟩)
    simp only [String.toList_append, String.toList_ofList]
    rfl
  · rename_i hquote hslash _ _ _ _ _ hprinted
    exact .inr (.inr ⟨String.toList_singleton c, hquote, hslash, hprinted⟩)

theorem readTextFrom_escape (read rest : List Char) (c : Char) (offset : Nat) :
    ∃ later, readTextFrom read ⟨offset, (escape c).toList ++ rest⟩ = readTextFrom (c :: read) ⟨later, rest⟩ := by
  rcases escape_cases c with ⟨mark, hwritten, hmark⟩ | ⟨hcontrol, hwritten⟩ | ⟨hwritten, hquote, hslash, hprinted⟩
  · rw [hwritten]
    exact ⟨_, readTextFrom_escaped (readEscape_plain hmark rest (offset + 1))⟩
  · rw [hwritten]
    have hunicode := readUnicode_control hcontrol rest (offset + 1 + 1)
    rw [Char.ofNat_toNat] at hunicode
    exact ⟨_, readTextFrom_escaped hunicode⟩
  · rw [hwritten]
    exact ⟨_, readTextFrom_plain hquote hslash hprinted⟩

theorem readTextFrom_escaped_text (text read rest : List Char) (offset : Nat) :
    ∃ later, readTextFrom read ⟨offset, text.flatMap (fun c => (escape c).toList) ++ '"' :: rest⟩ =
      .ok (.ofList (read.reverse ++ text), ⟨later, rest⟩) := by
  induction text generalizing read offset with
  | nil => exact ⟨offset + 1, by rw [List.append_nil]; exact readTextFrom_quote read rest offset⟩
  | cons c text ih =>
    rw [List.flatMap_cons, List.append_assoc]
    obtain ⟨passed, hpassed⟩ := readTextFrom_escape read (text.flatMap (fun c => (escape c).toList) ++ '"' :: rest) c offset
    obtain ⟨later, hlater⟩ := ih (c :: read) passed
    refine ⟨later, ?_⟩
    rw [hpassed, hlater, List.reverse_cons, List.append_assoc, List.singleton_append]

theorem toList_quoted (text : String) :
    (quoted text).toList = '"' :: (text.toList.flatMap (fun c => (escape c).toList) ++ ['"']) := by
  rw [quoted, String.toList_append, String.toList_append, String.toList_join, List.flatMap_map]
  rfl

end JsonValue

namespace JsonReader

theorem readString_quoted (text : String) (rest : List Char) :
    ∃ body, (JsonValue.quoted text).toList ++ rest = '"' :: body ∧ readString body = some (text, rest) := by
  obtain ⟨later, hread⟩ := JsonValue.readTextFrom_escaped_text text.toList [] rest 0
  refine ⟨text.toList.flatMap (fun c => (JsonValue.escape c).toList) ++ '"' :: rest, ?_, ?_⟩
  · rw [JsonValue.toList_quoted]
    simp
  · rw [readString, JsonCursor.readText, hread]
    simp [Except.toOption]

theorem skipBlanks_of_head {c : Char} (hc : JsonCursor.isJsonBlank c = false) (rest : List Char) :
    skipBlanks (c :: rest) = c :: rest :=
  List.dropWhile_cons_of_neg (by simpa using hc)

theorem skipBlanks_append {blank : List Char} (h : ∀ c ∈ blank, JsonCursor.isJsonBlank c = true) (rest : List Char) :
    skipBlanks (blank ++ rest) = skipBlanks rest :=
  List.dropWhile_append_of_pos h

theorem isJsonBlank_lineAt (depth : Nat) : ∀ c ∈ (JsonValue.lineAt depth).toList, JsonCursor.isJsonBlank c = true := by
  intro c hc
  rw [JsonValue.lineAt, String.toList_append, List.mem_append] at hc
  rcases hc with hc | hc
  · obtain rfl := List.mem_singleton.mp hc
    rfl
  · rw [blanks, String.toList_ofList] at hc
    rw [List.eq_of_mem_replicate hc]
    rfl

theorem skipBlanks_lineAt (depth : Nat) (rest : List Char) :
    skipBlanks ((JsonValue.lineAt depth).toList ++ rest) = skipBlanks rest :=
  skipBlanks_append (isJsonBlank_lineAt depth) rest

theorem readWord_self (word rest : List Char) : readWord word (word ++ rest) = some rest := by
  have hread (offset : Nat) : ∃ later, (JsonCursor.mk offset (word ++ rest)).readWord word = .ok ⟨later, rest⟩ := by
    induction word generalizing offset with
    | nil => exact ⟨offset, rfl⟩
    | cons c word ih =>
      obtain ⟨later, hlater⟩ := ih (offset + c.utf8Size)
      refine ⟨later, ?_⟩
      rw [JsonCursor.readWord]
      simpa [JsonCursor.head?, JsonCursor.next] using hlater
  obtain ⟨later, hlater⟩ := hread 0
  rw [readWord, hlater]
  rfl

theorem readValue_append {blank : List Char} (h : ∀ c ∈ blank, JsonCursor.isJsonBlank c = true) (fuel : Nat)
    (text : List Char) : readValue fuel (blank ++ text) = readValue fuel text := by
  cases fuel with
  | zero => rfl
  | succ fuel => rw [readValue, readValue, skipBlanks_append h]

theorem readValue_boolean (value : Bool) (fuel : Nat) (rest : List Char) :
    readValue (fuel + 1) ((if value then "true" else "false").toList ++ rest) = some (.boolean value, rest) := by
  cases value with
  | false =>
    have hword := readWord_self ['a', 'l', 's', 'e'] rest
    change readValue (fuel + 1) ('f' :: (['a', 'l', 's', 'e'] ++ rest)) = _
    rw [readValue, skipBlanks_of_head rfl]
    simp only [hword]
    rfl
  | true =>
    have hword := readWord_self ['r', 'u', 'e'] rest
    change readValue (fuel + 1) ('t' :: (['r', 'u', 'e'] ++ rest)) = _
    rw [readValue, skipBlanks_of_head rfl]
    simp only [hword]
    rfl

theorem isDigit_of_isJsonBlank {c : Char} (h : JsonCursor.isJsonBlank c = true) : c.isDigit = false := by
  simp only [JsonCursor.isJsonBlank, Bool.or_eq_true, beq_iff_eq] at h
  rcases h with ((rfl | rfl) | rfl) | rfl <;> rfl

theorem isJsonBlank_of_isDigit {c : Char} (h : c.isDigit = true) : JsonCursor.isJsonBlank c = false :=
  Bool.eq_false_iff.mpr fun hblank => Bool.false_ne_true ((isDigit_of_isJsonBlank hblank).symm.trans h)

theorem readValue_number (value fuel : Nat) {rest : List Char} (hrest : ∀ c ∈ rest.head?, c.isDigit = false) :
    readValue (fuel + 1) ((toString value).toList ++ rest) = some (.number value, rest) := by
  have hread := readNumeral_toString value hrest
  have hdigit := isDigit_of_mem_toString (n := value)
  cases htext : (toString value).toList with
  | nil => exact absurd htext (toList_toString_ne_nil value)
  | cons c digits =>
    rw [htext] at hread hdigit
    have hc := hdigit c List.mem_cons_self
    rw [List.cons_append] at hread ⊢
    rw [readValue, skipBlanks_of_head (isJsonBlank_of_isDigit hc)]
    simp only [hc, if_true, hread]

theorem readValue_text (value : String) (fuel : Nat) (rest : List Char) :
    readValue (fuel + 1) ((JsonValue.quoted value).toList ++ rest) = some (.text value, rest) := by
  obtain ⟨body, hbody, hread⟩ := readString_quoted value rest
  rw [hbody, readValue, skipBlanks_of_head rfl]
  change Option.map _ (readString body) = _
  rw [hread]
  rfl

theorem readValue_array_nil (fuel : Nat) (rest : List Char) :
    readValue (fuel + 1) ('[' :: ']' :: rest) = some (.array [], rest) := by
  rw [readValue, skipBlanks_of_head rfl]
  simp only [skipBlanks_of_head (show JsonCursor.isJsonBlank ']' = false from rfl)]
  rfl

theorem readValue_array {fuel : Nat} {text rest : List Char} {c : Char} {items : List JsonValue}
    (hopened : (skipBlanks text).head? = some c) (hc : c ≠ ']')
    (hitems : readItems fuel (',' :: text) = some (items, rest)) :
    readValue (fuel + 1) ('[' :: text) = some (.array items, rest) := by
  obtain ⟨opened, hopened⟩ := List.head?_eq_some_iff.mp hopened
  rw [readValue, skipBlanks_of_head rfl]
  simp only [hopened, hitems, Char.reduceIsDigit, Bool.false_eq_true, if_false]
  split
  · rename_i heq
    exact absurd (List.cons.inj heq).1 hc
  · rfl

theorem readItems_end {fuel depth : Nat} {rest : List Char} :
    readItems (fuel + 1) ((JsonValue.lineAt depth).toList ++ ']' :: rest) = some ([], rest) := by
  rw [readItems, skipBlanks_lineAt, skipBlanks_of_head rfl]
  rfl

theorem readItems_cons {fuel : Nat} {text middle rest : List Char} {item : JsonValue} {items : List JsonValue}
    (hitem : readValue fuel text = some (item, middle)) (hitems : readItems fuel middle = some (items, rest)) :
    readItems (fuel + 1) (',' :: text) = some (item :: items, rest) := by
  rw [readItems, skipBlanks_of_head rfl]
  simp [hitem, hitems]

theorem readValue_object_nil (fuel : Nat) (rest : List Char) :
    readValue (fuel + 1) ('\x7b' :: '\x7d' :: rest) = some (.object [], rest) := by
  rw [readValue, skipBlanks_of_head rfl]
  simp only [skipBlanks_of_head (show JsonCursor.isJsonBlank '\x7d' = false from rfl)]
  rfl

theorem readValue_object {fuel : Nat} {text rest : List Char} {c : Char} {fields : List (String × JsonValue)}
    (hopened : (skipBlanks text).head? = some c) (hc : c ≠ '\x7d')
    (hfields : readFields fuel (',' :: text) = some (fields, rest)) :
    readValue (fuel + 1) ('\x7b' :: text) = some (.object fields, rest) := by
  obtain ⟨opened, hopened⟩ := List.head?_eq_some_iff.mp hopened
  rw [readValue, skipBlanks_of_head rfl]
  simp only [hopened, hfields, Char.reduceIsDigit, Bool.false_eq_true, if_false]
  split
  · rename_i heq
    exact absurd (List.cons.inj heq).1 hc
  · rfl

theorem readFields_end {fuel depth : Nat} {rest : List Char} :
    readFields (fuel + 1) ((JsonValue.lineAt depth).toList ++ '\x7d' :: rest) = some ([], rest) := by
  rw [readFields, skipBlanks_lineAt, skipBlanks_of_head rfl]
  rfl

theorem readName_quoted (name : String) (depth : Nat) (rest : List Char) :
    readName ((JsonValue.lineAt depth).toList ++ ((JsonValue.quoted name).toList ++ ':' :: rest)) =
      some (name, rest) := by
  obtain ⟨body, hbody, hread⟩ := readString_quoted name (':' :: rest)
  rw [readName, skipBlanks_lineAt, hbody, skipBlanks_of_head rfl]
  simp [hread, readColon, skipBlanks_of_head (show JsonCursor.isJsonBlank ':' = false from rfl)]

theorem readFields_cons {fuel : Nat} {text middle later rest : List Char} {name : String} {value : JsonValue}
    {fields : List (String × JsonValue)} (hname : readName text = some (name, middle))
    (hvalue : readValue fuel middle = some (value, later)) (hfields : readFields fuel later = some (fields, rest)) :
    readFields (fuel + 1) (',' :: text) = some ((name, value) :: fields, rest) := by
  rw [readFields, skipBlanks_of_head rfl]
  simp [hname, hvalue, hfields]

open JsonValue

theorem lineAt_head (depth : Nat) (rest : List Char) : ((lineAt depth).toList ++ rest).head? = some '\n' := by
  rw [lineAt, String.toList_append, List.append_assoc]
  rfl

theorem prettyItems_head (items : List JsonValue) (depth outer : Nat) (rest : List Char) :
    ∀ c ∈ ((prettyItems depth items).toList ++ ((lineAt outer).toList ++ rest)).head?, c.isDigit = false := by
  intro c hc
  cases items with
  | nil =>
    rw [prettyItems] at hc
    obtain rfl := Option.some.inj ((lineAt_head outer rest).symm.trans hc)
    rfl
  | cons item items =>
    simp only [prettyItems, String.toList_append, List.append_assoc] at hc
    obtain rfl := Option.some.inj hc
    rfl

theorem prettyFields_head (fields : List (String × JsonValue)) (depth outer : Nat) (rest : List Char) :
    ∀ c ∈ ((prettyFields depth fields).toList ++ ((lineAt outer).toList ++ rest)).head?, c.isDigit = false := by
  intro c hc
  cases fields with
  | nil =>
    rw [prettyFields] at hc
    obtain rfl := Option.some.inj ((lineAt_head outer rest).symm.trans hc)
    rfl
  | cons field fields =>
    simp only [prettyFields, String.toList_append, List.append_assoc] at hc
    obtain rfl := Option.some.inj hc
    rfl

theorem prettyAt_opens (depth : Nat) (v : JsonValue) :
    ∃ c text, (prettyAt depth v).toList = c :: text ∧ JsonCursor.isJsonBlank c = false ∧ c ≠ ']' := by
  cases v with
  | boolean value =>
    rw [prettyAt]
    cases value with
    | false => exact ⟨'f', _, rfl, rfl, by decide⟩
    | true => exact ⟨'t', _, rfl, rfl, by decide⟩
  | number value =>
    rw [prettyAt]
    cases htext : (toString value).toList with
    | nil => exact absurd htext (toList_toString_ne_nil value)
    | cons c digits =>
      have hc : c.isDigit = true := isDigit_of_mem_toString (n := value) c (htext ▸ List.mem_cons_self)
      refine ⟨c, digits, rfl, isJsonBlank_of_isDigit hc, ?_⟩
      rintro rfl
      cases hc
  | text value =>
    rw [prettyAt, toList_quoted]
    exact ⟨'"', _, rfl, rfl, by decide⟩
  | array items =>
    cases items with
    | nil =>
      rw [prettyAt]
      exact ⟨'[', _, rfl, rfl, by decide⟩
    | cons item items =>
      simp only [prettyAt, String.toList_append, List.append_assoc]
      exact ⟨'[', _, rfl, rfl, by decide⟩
  | object fields =>
    cases fields with
    | nil =>
      rw [prettyAt]
      exact ⟨'\x7b', _, rfl, rfl, by decide⟩
    | cons field fields =>
      simp only [prettyAt, String.toList_append, List.append_assoc]
      exact ⟨'\x7b', _, rfl, rfl, by decide⟩

theorem length_prettyAt_pos (depth : Nat) (v : JsonValue) : 0 < (prettyAt depth v).length := by
  obtain ⟨c, text, htext, -⟩ := prettyAt_opens depth v
  rw [← String.length_toList, htext]
  exact Nat.succ_pos _

theorem length_lineAt_pos (depth : Nat) : 0 < (lineAt depth).length := by
  rw [lineAt, String.length_append]
  exact Nat.add_pos_left Nat.one_pos _

theorem length_prettyItems_cons (depth : Nat) (item : JsonValue) (items : List JsonValue) :
    (prettyItems depth (item :: items)).length =
      1 + (lineAt depth).length + (prettyAt depth item).length + (prettyItems depth items).length := by
  rw [prettyItems, String.length_append, String.length_append, String.length_append]
  rfl

theorem length_prettyFields_cons (depth : Nat) (name : String) (value : JsonValue)
    (fields : List (String × JsonValue)) : (prettyFields depth ((name, value) :: fields)).length =
      1 + (lineAt depth).length + (quoted name).length + 2 + (prettyAt depth value).length +
        (prettyFields depth fields).length := by
  simp only [prettyFields, String.length_append]
  rfl

theorem length_prettyAt_array (depth : Nat) (item : JsonValue) (items : List JsonValue) :
    (prettyAt depth (.array (item :: items))).length =
      (prettyItems (depth + 1) (item :: items)).length + (lineAt depth).length + 1 := by
  rw [length_prettyItems_cons]
  simp only [prettyAt, String.length_append]
  rfl

theorem length_prettyAt_object (depth : Nat) (field : String × JsonValue) (fields : List (String × JsonValue)) :
    (prettyAt depth (.object (field :: fields))).length =
      (prettyFields (depth + 1) (field :: fields)).length + (lineAt depth).length + 1 := by
  obtain ⟨name, value⟩ := field
  rw [length_prettyFields_cons]
  simp only [prettyAt, String.length_append]
  rfl

mutual

theorem readValue_prettyAt (v : JsonValue) (depth fuel : Nat) (rest : List Char)
    (hrest : ∀ c ∈ rest.head?, c.isDigit = false) (hfuel : (prettyAt depth v).length ≤ fuel) :
    readValue fuel ((prettyAt depth v).toList ++ rest) = some (v, rest) := by
  obtain ⟨fuel, rfl⟩ := Nat.exists_eq_add_one.mpr (Nat.lt_of_lt_of_le (length_prettyAt_pos depth v) hfuel)
  cases v with
  | boolean value =>
    rw [prettyAt]
    exact readValue_boolean value fuel rest
  | number value =>
    rw [prettyAt]
    exact readValue_number value fuel hrest
  | text value =>
    rw [prettyAt]
    exact readValue_text value fuel rest
  | array items =>
    cases items with
    | nil =>
      rw [prettyAt]
      exact readValue_array_nil fuel rest
    | cons item items =>
      obtain ⟨c, text, htext, hblank, hc⟩ := prettyAt_opens (depth + 1) item
      rw [length_prettyAt_array] at hfuel
      have hread := readItems_prettyItems (item :: items) (depth + 1) fuel depth rest (by omega)
      simp only [prettyAt, prettyItems, String.toList_append, List.append_assoc] at hread ⊢
      refine readValue_array ?_ hc hread
      change (skipBlanks ((lineAt (depth + 1)).toList ++ _)).head? = _
      rw [skipBlanks_lineAt, htext, List.cons_append, skipBlanks_of_head hblank, List.head?_cons]
  | object fields =>
    cases fields with
    | nil =>
      rw [prettyAt]
      exact readValue_object_nil fuel rest
    | cons field fields =>
      obtain ⟨name, value⟩ := field
      rw [length_prettyAt_object] at hfuel
      have hread := readFields_prettyFields ((name, value) :: fields) (depth + 1) fuel depth rest (by omega)
      simp only [prettyAt, prettyFields, String.toList_append, List.append_assoc] at hread ⊢
      refine readValue_object ?_ (show '"' ≠ '\x7d' by decide) hread
      change (skipBlanks ((lineAt (depth + 1)).toList ++ _)).head? = _
      rw [skipBlanks_lineAt, toList_quoted, List.cons_append, skipBlanks_of_head rfl, List.head?_cons]

theorem readItems_prettyItems (items : List JsonValue) (depth fuel outer : Nat) (rest : List Char)
    (hfuel : (prettyItems depth items).length + (lineAt outer).length ≤ fuel) :
    readItems fuel ((prettyItems depth items).toList ++ ((lineAt outer).toList ++ ']' :: rest)) =
      some (items, rest) := by
  have hline := length_lineAt_pos outer
  obtain ⟨fuel, rfl⟩ : ∃ n, fuel = n + 1 := Nat.exists_eq_add_one.mpr (by omega)
  cases items with
  | nil =>
    rw [prettyItems]
    exact readItems_end
  | cons item items =>
    rw [length_prettyItems_cons] at hfuel
    have hitem := readValue_prettyAt item depth fuel
      ((prettyItems depth items).toList ++ ((lineAt outer).toList ++ ']' :: rest))
      (prettyItems_head items depth outer _) (by omega)
    have hlater := readItems_prettyItems items depth fuel outer rest (by omega)
    simp only [prettyItems, String.toList_append, List.append_assoc]
    exact readItems_cons ((readValue_append (isJsonBlank_lineAt depth) _ _).trans hitem) hlater

theorem readFields_prettyFields (fields : List (String × JsonValue)) (depth fuel outer : Nat) (rest : List Char)
    (hfuel : (prettyFields depth fields).length + (lineAt outer).length ≤ fuel) :
    readFields fuel ((prettyFields depth fields).toList ++ ((lineAt outer).toList ++ '\x7d' :: rest)) =
      some (fields, rest) := by
  have hline := length_lineAt_pos outer
  obtain ⟨fuel, rfl⟩ : ∃ n, fuel = n + 1 := Nat.exists_eq_add_one.mpr (by omega)
  cases fields with
  | nil =>
    rw [prettyFields]
    exact readFields_end
  | cons field fields =>
    obtain ⟨name, value⟩ := field
    rw [length_prettyFields_cons] at hfuel
    have hvalue := readValue_prettyAt value depth fuel
      ((prettyFields depth fields).toList ++ ((lineAt outer).toList ++ '\x7d' :: rest))
      (prettyFields_head fields depth outer _) (by omega)
    have hlater := readFields_prettyFields fields depth fuel outer rest (by omega)
    have hspace : ∀ c ∈ [' '], JsonCursor.isJsonBlank c = true := List.forall_mem_singleton.mpr rfl
    simp only [prettyFields, String.toList_append, List.append_assoc]
    exact readFields_cons (readName_quoted name depth _) ((readValue_append hspace _ _).trans hvalue) hlater

end

end JsonReader

theorem JsonValue.read?_pretty (v : JsonValue) {blank : String}
    (h : ∀ c ∈ blank.toList, JsonCursor.isJsonBlank c = true) : read? (v.pretty ++ blank) = some v := by
  have hhead : ∀ c ∈ blank.toList.head?, c.isDigit = false :=
    fun c hc => JsonReader.isDigit_of_isJsonBlank (h c (List.mem_of_mem_head? hc))
  have hfuel : (prettyAt 0 v).length ≤ (v.pretty ++ blank).length := by
    rw [String.length_append]
    exact Nat.le_add_right _ _
  have hread := JsonReader.readValue_prettyAt v 0 _ blank.toList hhead hfuel
  have hrest : JsonReader.skipBlanks blank.toList = [] := by
    have hskip := JsonReader.skipBlanks_append h []
    rwa [List.append_nil] at hskip
  rw [read?, String.toList_append]
  change (JsonReader.readValue _ ((prettyAt 0 v).toList ++ _) >>= _) = _
  rw [hread]
  simp [hrest]

instance : LawfulSerializer where
  exists_serialized v := ⟨v.pretty, rfl⟩
  read_serialized v text h blank hblank := by
    cases h
    exact v.read?_pretty hblank

end KindTable
