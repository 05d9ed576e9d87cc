import Mathlib.Data.List.DropRight
import KindTable.Proofs.TokenPlaces

namespace KindTable

def currentLine (before : List Char) : List Char := before.rtakeWhile (· != '\n')

theorem currentLine_feed (before : List Char) : currentLine (before ++ ['\n']) = [] :=
  List.rtakeWhile_concat_neg _ _ _ (by decide)

theorem currentLine_append (before : List Char) {passed : List Char} (h : '\n' ∉ passed) :
    currentLine (before ++ passed) = currentLine before ++ passed := by
  induction passed generalizing before with
  | nil => simp
  | cons c cs ih =>
    rw [List.mem_cons, not_or] at h
    obtain ⟨hc, hcs⟩ := h
    rw [List.append_cons, ih _ hcs, currentLine, List.rtakeWhile_concat_pos _ _ _ (by simpa using Ne.symm hc),
      ← List.append_cons]
    rfl

def isMark (c : Char) : Bool := c == '(' || c == ')' || isWordChar c

def isOccupied (before : List Char) : Bool := (lineContent (currentLine before)).any isMark

theorem lineContent_append {line later : List Char} (h : '#' ∉ line) :
    lineContent (line ++ later) = line ++ lineContent later := by
  apply List.takeWhile_append_of_pos
  intro c hc
  simpa using fun e : c = '#' => h (e ▸ hc)

theorem isOccupied_feed (before : List Char) : isOccupied (before ++ ['\n']) = false := by
  rw [isOccupied, currentLine_feed]
  rfl

theorem isOccupied_append {before passed : List Char} (hfree : '#' ∉ currentLine before) (h : '\n' ∉ passed) :
    isOccupied (before ++ passed) = (isOccupied before || (lineContent passed).any isMark) := by
  have hline : lineContent (currentLine before) = currentLine before := by
    have happend : lineContent (currentLine before ++ []) = currentLine before ++ [] := lineContent_append hfree
    rwa [List.append_nil] at happend
  rw [isOccupied, isOccupied, currentLine_append before h, lineContent_append hfree, List.any_append, hline]

def endsInWord (before : List Char) : Bool := before.getLast?.any isWordChar

theorem endsInWord_concat (before : List Char) (c : Char) : endsInWord (before ++ [c]) = isWordChar c := by
  rw [endsInWord, List.getLast?_concat]
  rfl

def IsForeign (c : Char) : Prop := isWordChar c = false ∧ c ∉ ['(', ')', '#', ' ', '\t', '\r', '\n']

theorem isForeign_iff {c : Char} : IsForeign c ↔
    c ≠ '\n' ∧ c ≠ '#' ∧ isLayout c = false ∧ c ≠ '(' ∧ c ≠ ')' ∧ isWordChar c = false := by
  simp only [IsForeign, isLayout, List.mem_cons, List.not_mem_nil, or_false, not_or, Bool.or_eq_false_iff,
    beq_eq_false_iff_ne]
  tauto

def lexemesAt (before : List Char) : List Char → List Lexeme
  | [] => lineEnd (isOccupied before) (utf8Length before) (utf8Length before) ++
    [.token ⟨.endOfFile, ⟨utf8Length before, utf8Length before⟩⟩]
  | c :: cs =>
    if c = '\n' then lineEnd (isOccupied before) (utf8Length before) (utf8Length before + c.utf8Size)
    else if '#' ∈ currentLine before ∨ c = '#' ∨ isLayout c then []
    else if c = '(' then [.token ⟨.openParen, ⟨utf8Length before, utf8Length before + c.utf8Size⟩⟩]
    else if c = ')' then [.token ⟨.closeParen, ⟨utf8Length before, utf8Length before + c.utf8Size⟩⟩]
    else if isWordChar c then
      if endsInWord before then []
      else [.token ⟨.word (.ofList (c :: cs.takeWhile isWordChar)),
        ⟨utf8Length before, utf8Length before + utf8Length (c :: cs.takeWhile isWordChar)⟩⟩]
    else [.stray c ⟨utf8Length before, utf8Length before + c.utf8Size⟩]

section lexemesAt

variable {before cs : List Char} {c : Char}

theorem lexemesAt_feed : lexemesAt before ('\n' :: cs) =
    lineEnd (isOccupied before) (utf8Length before) (utf8Length before + 1) := by
  rw [lexemesAt, if_pos rfl]
  rfl

theorem lexemesAt_skipped (hfeed : c ≠ '\n') (h : '#' ∈ currentLine before ∨ c = '#' ∨ isLayout c = true) :
    lexemesAt before (c :: cs) = [] := by
  rw [lexemesAt, if_neg hfeed, if_pos h]

theorem lexemesAt_open (hfree : '#' ∉ currentLine before) : lexemesAt before ('(' :: cs) =
    [.token ⟨.openParen, ⟨utf8Length before, utf8Length before + 1⟩⟩] := by
  rw [lexemesAt, if_neg (by decide), if_neg (by simp [hfree, isLayout]), if_pos rfl]
  rfl

theorem lexemesAt_close (hfree : '#' ∉ currentLine before) : lexemesAt before (')' :: cs) =
    [.token ⟨.closeParen, ⟨utf8Length before, utf8Length before + 1⟩⟩] := by
  rw [lexemesAt, if_neg (by decide), if_neg (by simp [hfree, isLayout]), if_neg (by decide), if_pos rfl]
  rfl

theorem lexemesAt_word (hfree : '#' ∉ currentLine before) (hword : isWordChar c = true) :
    lexemesAt before (c :: cs) = if endsInWord before then [] else
      [.token ⟨.word (.ofList (c :: cs.takeWhile isWordChar)),
        ⟨utf8Length before, utf8Length before + utf8Length (c :: cs.takeWhile isWordChar)⟩⟩] := by
  have hothers : c ≠ '\n' ∧ c ≠ '(' ∧ c ≠ ')' := by
    refine ⟨?_, ?_, ?_⟩ <;> rintro rfl <;> cases hword
  rw [lexemesAt, if_neg hothers.1,
    if_neg (by simp [hfree, ne_hash_of_isWordChar hword, isLayout_eq_false_of_isWordChar hword]), if_neg hothers.2.1,
    if_neg hothers.2.2, if_pos hword]

theorem lexemesAt_foreign (hfree : '#' ∉ currentLine before) (hc : IsForeign c) : lexemesAt before (c :: cs) =
    [.stray c ⟨utf8Length before, utf8Length before + c.utf8Size⟩] := by
  obtain ⟨hfeed, hhash, hlayout, hopen, hclose, hword⟩ := isForeign_iff.mp hc
  rw [lexemesAt, if_neg hfeed, if_neg (by simp [hfree, hhash, hlayout]), if_neg hopen, if_neg hclose,
    if_neg (by simp [hword])]

end lexemesAt

def lexemesFrom (before : List Char) : List Char → List Lexeme
  | [] => lexemesAt before []
  | c :: cs => lexemesAt before (c :: cs) ++ lexemesFrom (before ++ [c]) cs

theorem lexemesFrom_skip {before passed rest : List Char}
    (h : ∀ earlier c later, passed = earlier ++ c :: later → lexemesAt (before ++ earlier) (c :: later ++ rest) = []) :
    lexemesFrom before (passed ++ rest) = lexemesFrom (before ++ passed) rest := by
  induction passed generalizing before with
  | nil => rw [List.append_nil, List.nil_append]
  | cons c cs ih =>
    have hfirst := h [] c cs rfl
    rw [List.append_nil] at hfirst
    rw [List.cons_append, lexemesFrom, ← List.cons_append, hfirst, List.nil_append, ih, ← List.append_cons]
    intro earlier a later hcs
    rw [← List.append_cons]
    exact h (c :: earlier) a later (by rw [hcs, List.cons_append])

structure ScansAt (before : List Char) (offset : Nat) (occupied : Bool) (rest : List Char) : Prop where
  offset : offset = utf8Length before
  occupied : occupied = isOccupied before
  free : ∀ c, rest.head? = some c → c ≠ '\n' → '#' ∉ currentLine before
  edge : ∀ c, rest.head? = some c → isWordChar c = true → endsInWord before = false

namespace ScansAt

variable {before cs : List Char} {c : Char} {offset : Nat} {occupied : Bool}

theorem comment (h : ScansAt before offset occupied ('#' :: cs)) :
    ScansAt (before ++ '#' :: cs.takeWhile (· != '\n')) (offset + '#'.utf8Size + utf8Length (cs.takeWhile (· != '\n')))
      occupied (cs.dropWhile (· != '\n')) := by
  have hfree := h.free '#' rfl (by decide)
  have hfeed : '\n' ∉ '#' :: cs.takeWhile (· != '\n') := by
    refine List.not_mem_cons_of_ne_of_not_mem (by decide) fun hmem => ?_
    simpa using List.mem_takeWhile_imp hmem
  have hhead : ∀ c, (cs.dropWhile (· != '\n')).head? = some c → c = '\n' :=
    fun c hc => by simpa using head?_dropWhile hc
  constructor
  case offset => simp [h.offset, Nat.add_assoc]
  case occupied =>
    rw [isOccupied_append hfree hfeed, h.occupied]
    simp [lineContent]
  case free => exact fun c hc hne => absurd (hhead c hc) hne
  case edge =>
    intro c hc hword
    rw [hhead c hc] at hword
    cases hword

theorem feed (h : ScansAt before offset occupied ('\n' :: cs)) :
    ScansAt (before ++ ['\n']) (offset + '\n'.utf8Size) false cs := by
  constructor
  case offset => simp [h.offset]
  case occupied => rw [isOccupied_feed]
  case free => simp [currentLine_feed]
  case edge =>
    intro c _ _
    rw [endsInWord_concat]
    rfl

theorem char (h : ScansAt before offset occupied (c :: cs)) (hhash : c ≠ '#') (hfeed : c ≠ '\n')
    (hword : isWordChar c = false) :
    ScansAt (before ++ [c]) (offset + c.utf8Size) (occupied || isMark c) cs := by
  have hfree := h.free c rfl hfeed
  have hline : '\n' ∉ [c] := by simpa using Ne.symm hfeed
  constructor
  case offset => simp [h.offset]
  case occupied =>
    rw [isOccupied_append hfree hline, h.occupied, lineContent_cons hhash]
    simp [lineContent]
  case free =>
    intro a _ _
    rw [currentLine_append before hline]
    simp [hfree, Ne.symm hhash]
  case edge =>
    intro a _ _
    rw [endsInWord_concat, hword]

theorem word (h : ScansAt before offset occupied (c :: cs)) (hfeed : c ≠ '\n') (hword : isWordChar c = true) :
    ScansAt (before ++ c :: cs.takeWhile isWordChar) (offset + utf8Length (c :: cs.takeWhile isWordChar)) true
      (cs.dropWhile isWordChar) := by
  have hfree := h.free c rfl hfeed
  have hchars : ∀ a ∈ c :: cs.takeWhile isWordChar, isWordChar a = true := forall_mem_run hword cs
  have hline : '\n' ∉ c :: cs.takeWhile isWordChar := fun hmem => absurd (hchars _ hmem) (by decide)
  have hhash : '#' ∉ c :: cs.takeWhile isWordChar := fun hmem => absurd (hchars _ hmem) (by decide)
  constructor
  case offset => simp [h.offset]
  case occupied =>
    rw [isOccupied_append hfree hline, lineContent_cons (ne_hash_of_isWordChar hword)]
    simp [isMark, hword]
  case free =>
    intro a _ _
    rw [currentLine_append before hline, List.mem_append, not_or]
    exact ⟨hfree, hhash⟩
  case edge =>
    intro a ha haword
    rw [head?_dropWhile ha] at haword
    cases haword

end ScansAt

theorem lexemesFrom_comment {before comment rest : List Char} (h : '#' ∈ currentLine before) (hfeed : '\n' ∉ comment) :
    lexemesFrom before (comment ++ rest) = lexemesFrom (before ++ comment) rest := by
  apply lexemesFrom_skip
  rintro earlier c later rfl
  rw [List.mem_append, List.mem_cons, not_or, not_or] at hfeed
  refine lexemesAt_skipped (Ne.symm hfeed.2.1) (.inl ?_)
  rw [currentLine_append before hfeed.1]
  exact List.mem_append_left _ h

theorem lexemesFrom_word {before word rest : List Char} (h : endsInWord before = true)
    (hword : ∀ c ∈ word, isWordChar c = true) :
    lexemesFrom before (word ++ rest) = lexemesFrom (before ++ word) rest := by
  apply lexemesFrom_skip
  rintro earlier c later rfl
  have hc : isWordChar c = true := hword c (by simp)
  have hends : endsInWord (before ++ earlier) = true := by
    rcases List.eq_nil_or_concat earlier with rfl | ⟨beginning, last, rfl⟩
    · rwa [List.append_nil]
    · rw [List.concat_eq_append, ← List.append_assoc, endsInWord_concat]
      exact hword last (by simp)
  by_cases hcomment : '#' ∈ currentLine (before ++ earlier)
  · have hfeed : c ≠ '\n' := by
      rintro rfl
      cases hc
    exact lexemesAt_skipped hfeed (.inl hcomment)
  · rw [List.cons_append, lexemesAt_word hcomment hc, if_pos hends]

-- Each step of the scanner is one place, with the places behind it that a comment or a word covers.
theorem lexFrom_eq_lexemesFrom {before rest : List Char} {offset : Nat} {occupied : Bool}
    (h : ScansAt before offset occupied rest) : lexFrom offset occupied rest = lexemesFrom before rest := by
  fun_induction lexFrom offset occupied rest generalizing before with
  | case1 offset occupied => rw [lexemesFrom, lexemesAt, h.offset, h.occupied]
  | case2 offset occupied cs ih =>
    have hline : '\n' ∉ ['#'] := by decide
    have hcommented : '#' ∈ currentLine (before ++ ['#']) := by
      rw [currentLine_append before hline]
      simp
    have hfeed : '\n' ∉ cs.takeWhile (· != '\n') := fun hmem => by simpa using List.mem_takeWhile_imp hmem
    have hskip := @lexemesFrom_comment _ _ (cs.dropWhile (· != '\n')) hcommented hfeed
    rw [List.takeWhile_append_dropWhile, ← List.append_cons] at hskip
    rw [lexemesFrom, lexemesAt_skipped (by decide) (.inr (.inl rfl)), List.nil_append, hskip, ih h.comment]
  | case3 offset occupied cs hc ih =>
    rw [lexemesFrom, lexemesAt_feed, ih h.feed, h.offset, h.occupied]
    rfl
  | case4 offset occupied c cs hc hfeed hlayout ih =>
    have hword : isWordChar c = false := by
      by_contra hword
      simp [isLayout_eq_false_of_isWordChar (by simpa using hword)] at hlayout
    have hmark : isMark c = false := by
      simp only [isLayout, Bool.or_eq_true, beq_iff_eq] at hlayout
      rcases hlayout with (rfl | rfl) | rfl <;> rfl
    have hnext := h.char hc hfeed hword
    rw [hmark, Bool.or_false] at hnext
    rw [lexemesFrom, lexemesAt_skipped hfeed (.inr (.inr hlayout)), List.nil_append, ih hnext]
  | case5 offset occupied cs hc hfeed hlayout ih =>
    have hnext := h.char hc hfeed rfl
    rw [show isMark '(' = true from rfl, Bool.or_true] at hnext
    rw [lexemesFrom, lexemesAt_open (h.free '(' rfl hfeed), ih hnext, h.offset]
    rfl
  | case6 offset occupied cs hc hfeed hlayout hopen ih =>
    have hnext := h.char hc hfeed rfl
    rw [show isMark ')' = true from rfl, Bool.or_true] at hnext
    rw [lexemesFrom, lexemesAt_close (h.free ')' rfl hfeed), ih hnext, h.offset]
    rfl
  | case7 offset occupied c cs hc hfeed hlayout hopen hclose hword ih =>
    have hends : endsInWord (before ++ [c]) = true := by rw [endsInWord_concat, hword]
    have hchars : ∀ a ∈ cs.takeWhile isWordChar, isWordChar a = true := fun a ha => List.mem_takeWhile_imp ha
    have hskip := @lexemesFrom_word _ _ (cs.dropWhile isWordChar) hends hchars
    rw [List.takeWhile_append_dropWhile, ← List.append_cons] at hskip
    have hedge : ¬endsInWord before = true := by simp [h.edge c rfl hword]
    rw [lexemesFrom, lexemesAt_word (h.free c rfl hfeed) hword, if_neg hedge, ih (h.word hfeed hword), hskip, h.offset]
    rfl
  | case8 offset occupied c cs hc hfeed hlayout hopen hclose hword ih =>
    have hmark : isMark c = false := by simp [isMark, hopen, hclose, hword]
    have hforeign : IsForeign c :=
      isForeign_iff.mpr ⟨hfeed, hc, by simpa using hlayout, hopen, hclose, by simpa using hword⟩
    have hnext := h.char hc hfeed (by simpa using hword)
    rw [hmark, Bool.or_false] at hnext
    rw [lexemesFrom, lexemesAt_foreign (h.free c rfl hfeed) hforeign, ih hnext, h.offset]
    rfl

theorem lexFrom_eq_everywhere (text : List Char) : lexFrom 0 false text = lexemesFrom [] text := by
  refine lexFrom_eq_lexemesFrom ⟨rfl, rfl, ?_, fun _ _ _ => rfl⟩
  simp [currentLine]

theorem mem_lexemesFrom_iff {before rest : List Char} {l : Lexeme} :
    l ∈ lexemesFrom before rest ↔ ∃ passed left, rest = passed ++ left ∧ l ∈ lexemesAt (before ++ passed) left := by
  induction rest generalizing before with
  | nil => simp [lexemesFrom]
  | cons c cs ih =>
    rw [lexemesFrom, List.mem_append, ih]
    constructor
    · rintro (hl | ⟨passed, left, rfl, hl⟩)
      · exact ⟨[], c :: cs, rfl, by rwa [List.append_nil]⟩
      · exact ⟨c :: passed, left, rfl, by rwa [List.append_cons]⟩
    · rintro ⟨passed, left, hcs, hl⟩
      cases passed with
      | nil =>
        rw [List.nil_append] at hcs
        rw [List.append_nil] at hl
        exact .inl (hcs ▸ hl)
      | cons a passed =>
        rw [List.cons_append, List.cons.injEq] at hcs
        obtain ⟨rfl, rfl⟩ := hcs
        exact .inr ⟨passed, left, rfl, by rwa [List.append_cons] at hl⟩

inductive StandsAt (before : List Char) : List Char → Lexeme → Prop where
  | word {word after : List Char} : word ≠ [] → (∀ c ∈ word, isWordChar c = true) → endsInWord before = false →
    (∀ c, after.head? = some c → isWordChar c = false) → '#' ∉ currentLine before →
    StandsAt before (word ++ after)
      (.token ⟨.word (.ofList word), ⟨utf8Length before, utf8Length before + utf8Length word⟩⟩)
  | openParen {after : List Char} : '#' ∉ currentLine before →
    StandsAt before ('(' :: after) (.token ⟨.openParen, ⟨utf8Length before, utf8Length before + 1⟩⟩)
  | closeParen {after : List Char} : '#' ∉ currentLine before →
    StandsAt before (')' :: after) (.token ⟨.closeParen, ⟨utf8Length before, utf8Length before + 1⟩⟩)
  | newline {after : List Char} : isOccupied before = true →
    StandsAt before ('\n' :: after) (.token ⟨.newline, ⟨utf8Length before, utf8Length before + 1⟩⟩)
  | cutShort : isOccupied before = true →
    StandsAt before [] (.token ⟨.newline, ⟨utf8Length before, utf8Length before⟩⟩)
  | endOfFile : StandsAt before [] (.token ⟨.endOfFile, ⟨utf8Length before, utf8Length before⟩⟩)
  | stray {after : List Char} {c : Char} : '#' ∉ currentLine before → IsForeign c →
    StandsAt before (c :: after) (.stray c ⟨utf8Length before, utf8Length before + c.utf8Size⟩)

theorem mem_lineEnd_iff {occupied : Bool} {start stop : Nat} {l : Lexeme} :
    l ∈ lineEnd occupied start stop ↔ occupied = true ∧ l = .token ⟨.newline, ⟨start, stop⟩⟩ := by
  cases occupied <;> simp [lineEnd]

theorem standsAt_of_mem {before after : List Char} {l : Lexeme} (h : l ∈ lexemesAt before after) :
    StandsAt before after l := by
  cases after with
  | nil =>
    rcases List.mem_append.mp h with hl | hl
    · obtain ⟨hoccupied, rfl⟩ := mem_lineEnd_iff.mp hl
      exact .cutShort hoccupied
    · obtain rfl := List.mem_singleton.mp hl
      exact .endOfFile
  | cons c cs =>
    by_cases hfeed : c = '\n'
    · subst hfeed
      rw [lexemesAt_feed] at h
      obtain ⟨hoccupied, rfl⟩ := mem_lineEnd_iff.mp h
      exact .newline hoccupied
    by_cases hskipped : '#' ∈ currentLine before ∨ c = '#' ∨ isLayout c = true
    · rw [lexemesAt_skipped hfeed hskipped] at h
      cases h
    simp only [not_or] at hskipped
    obtain ⟨hfree, hhash, hlayout⟩ := hskipped
    by_cases hopen : c = '('
    · subst hopen
      rw [lexemesAt_open hfree] at h
      obtain rfl := List.mem_singleton.mp h
      exact .openParen hfree
    by_cases hclose : c = ')'
    · subst hclose
      rw [lexemesAt_close hfree] at h
      obtain rfl := List.mem_singleton.mp h
      exact .closeParen hfree
    cases hword : isWordChar c with
    | true =>
      rw [lexemesAt_word hfree hword] at h
      cases hedge : endsInWord before with
      | true =>
        rw [hedge, if_pos rfl] at h
        cases h
      | false =>
        rw [hedge, if_neg Bool.false_ne_true] at h
        obtain rfl := List.mem_singleton.mp h
        nth_rewrite 1 [← run_append_dropWhile isWordChar c cs]
        exact .word (List.cons_ne_nil _ _) (forall_mem_run hword cs) hedge (fun a ha => head?_dropWhile ha) hfree
    | false =>
      have hforeign : IsForeign c := isForeign_iff.mpr ⟨hfeed, hhash, by simpa using hlayout, hopen, hclose, hword⟩
      rw [lexemesAt_foreign hfree hforeign] at h
      obtain rfl := List.mem_singleton.mp h
      exact .stray hfree hforeign

theorem mem_of_standsAt {before after : List Char} {l : Lexeme} (h : StandsAt before after l) :
    l ∈ lexemesAt before after := by
  cases h with
  | @word word after hne hword hedge hend hfree =>
    obtain ⟨c, cs, rfl⟩ := List.exists_cons_of_ne_nil hne
    obtain ⟨hc, hcs⟩ := List.forall_mem_cons.mp hword
    have htake : (cs ++ after).takeWhile isWordChar = cs := by
      rw [takeWhile_append_stop hend, List.takeWhile_eq_self_iff]
      exact hcs
    rw [List.cons_append, lexemesAt_word hfree hc, if_neg (by simp [hedge]), htake]
    exact List.mem_singleton_self _
  | openParen hfree =>
    rw [lexemesAt_open hfree]
    exact List.mem_singleton_self _
  | closeParen hfree =>
    rw [lexemesAt_close hfree]
    exact List.mem_singleton_self _
  | newline hoccupied =>
    rw [lexemesAt_feed]
    exact mem_lineEnd_iff.mpr ⟨hoccupied, rfl⟩
  | cutShort hoccupied => exact List.mem_append_left _ (mem_lineEnd_iff.mpr ⟨hoccupied, rfl⟩)
  | endOfFile => exact List.mem_append_right _ (List.mem_singleton_self _)
  | stray hfree hc =>
    rw [lexemesAt_foreign hfree hc]
    exact List.mem_singleton_self _

theorem mem_lexFrom_iff {text : List Char} {l : Lexeme} :
    l ∈ lexFrom 0 false text ↔ ∃ before after, text = before ++ after ∧ StandsAt before after l := by
  rw [lexFrom_eq_everywhere, mem_lexemesFrom_iff]
  constructor
  · rintro ⟨before, after, htext, hl⟩
    exact ⟨before, after, htext, standsAt_of_mem hl⟩
  · rintro ⟨before, after, htext, hl⟩
    exact ⟨before, after, htext, mem_of_standsAt hl⟩

end KindTable
