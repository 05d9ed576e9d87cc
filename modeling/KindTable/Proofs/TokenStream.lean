import Mathlib.Data.List.Chain
import Mathlib.Data.List.Induction
import Mathlib.Data.List.Nodup
import KindTable.Proofs.LexemePlaces
import KindTable.Text.Split

namespace KindTable

theorem utf8Length_eq_utf8ByteSize (text : List Char) : utf8Length text = (String.ofList text).utf8ByteSize := by
  induction text with
  | nil => rw [String.ofList_nil, String.utf8ByteSize_empty, utf8Length_nil]
  | cons c cs ih =>
    rw [utf8Length_cons, ih, String.ofList_cons, String.utf8ByteSize_append, String.utf8ByteSize_singleton]

theorem utf8Length_toList (s : String) : utf8Length s.toList = s.utf8ByteSize := by
  rw [utf8Length_eq_utf8ByteSize, String.ofList_toList]

theorem utf8Length_eq_zero_iff {text : List Char} : utf8Length text = 0 ↔ text = [] := by
  constructor
  · intro h
    by_contra hne
    exact Nat.ne_of_gt (utf8Length_pos hne) h
  · rintro rfl
    rfl

theorem exists_between {first rest front back : List Char} (h : first ++ rest = front ++ back)
    (hlength : utf8Length first ≤ utf8Length front) : ∃ between, front = first ++ between ∧ rest = between ++ back := by
  rcases List.append_eq_append_iff.mp h with ⟨between, hfront, hrest⟩ | ⟨between, rfl, rfl⟩
  · exact ⟨between, hfront, hrest⟩
  · rw [utf8Length_append] at hlength
    obtain rfl := utf8Length_eq_zero_iff.mp (by omega : utf8Length between = 0)
    exact ⟨[], by simp, rfl⟩

theorem append_inj_of_utf8Length {first rest front back : List Char} (h : first ++ rest = front ++ back)
    (hlength : utf8Length first = utf8Length front) : first = front ∧ rest = back := by
  obtain ⟨between, rfl, rfl⟩ := exists_between h (Nat.le_of_eq hlength)
  rw [utf8Length_append] at hlength
  obtain rfl := utf8Length_eq_zero_iff.mp (by omega : utf8Length between = 0)
  simp

theorem exists_char_at {text : List Char} {byte : Nat} (h : byte < utf8Length text) :
    ∃ before c after, text = before ++ c :: after ∧ utf8Length before ≤ byte ∧
      byte < utf8Length before + c.utf8Size := by
  induction text generalizing byte with
  | nil => cases h
  | cons a text ih =>
    by_cases hfirst : byte < a.utf8Size
    · exact ⟨[], a, text, rfl, Nat.zero_le _, by simpa using hfirst⟩
    · rw [utf8Length_cons] at h
      obtain ⟨before, c, after, rfl, hle, hlt⟩ := ih (by omega : byte - a.utf8Size < utf8Length text)
      exact ⟨a :: before, c, after, rfl, by rw [utf8Length_cons]; omega, by rw [utf8Length_cons]; omega⟩

theorem StandsAt.start_eq {before after : List Char} {l : Lexeme} (h : StandsAt before after l) :
    l.span.start = utf8Length before := by
  cases h <;> rfl

theorem StandsAt.begins {before after : List Char} {t : Token} (h : StandsAt before after (.token t))
    (ht : t.kind.closesLine = false) : '#' ∉ currentLine before ∧ ∃ c rest, after = c :: rest ∧ isMark c = true := by
  cases h with
  | @word word after hne hword hedge hend hfree =>
    obtain ⟨c, cs, rfl⟩ := List.exists_cons_of_ne_nil hne
    exact ⟨hfree, c, cs ++ after, rfl, by simp [isMark, hword c List.mem_cons_self]⟩
  | openParen hfree => exact ⟨hfree, '(', _, rfl, rfl⟩
  | closeParen hfree => exact ⟨hfree, ')', _, rfl, rfl⟩
  | newline hoccupied => cases ht
  | cutShort hoccupied => cases ht
  | endOfFile => cases ht

theorem nodup_lexemesAt (before after : List Char) : (lexemesAt before after).Nodup := by
  cases after with
  | nil => cases h : isOccupied before <;> simp [lexemesAt, lineEnd, h]
  | cons c cs =>
    rw [lexemesAt]
    split_ifs
    case pos => cases isOccupied before <;> simp [lineEnd]
    all_goals simp

theorem nodup_lexemesFrom (before rest : List Char) : (lexemesFrom before rest).Nodup := by
  induction rest generalizing before with
  | nil => exact nodup_lexemesAt before []
  | cons c cs ih =>
    refine List.nodup_append.mpr ⟨nodup_lexemesAt before (c :: cs), ih (before ++ [c]), ?_⟩
    rintro l hl m hm rfl
    obtain ⟨passed, left, -, hlater⟩ := mem_lexemesFrom_iff.mp hm
    have hstart := (standsAt_of_mem hl).start_eq
    have hpast := (standsAt_of_mem hlater).start_eq
    have hc := c.utf8Size_pos
    simp only [utf8Length_append, utf8Length_cons, utf8Length_nil] at hpast
    omega

theorem exists_run_before (p : Char → Bool) (text : List Char) : ∃ earlier run, text = earlier ++ run ∧
    (∀ a ∈ run, p a = true) ∧ ∀ a, earlier.getLast? = some a → p a = false := by
  induction text using List.reverseRecOn with
  | nil => exact ⟨[], [], rfl, by simp, by simp⟩
  | append_singleton text c ih =>
    cases hc : p c with
    | true =>
      obtain ⟨earlier, run, rfl, hrun, hearlier⟩ := ih
      refine ⟨earlier, run ++ [c], List.append_assoc _ _ _, ?_, hearlier⟩
      intro a ha
      rcases List.mem_append.mp ha with ha | ha
      · exact hrun a ha
      · rwa [List.mem_singleton.mp ha]
    | false => exact ⟨text ++ [c], [], (List.append_nil _).symm, by simp, by simp [hc]⟩

theorem exists_lineStart (before : List Char) :
    ∃ earlier, before = earlier ++ currentLine before ∧ currentLine earlier = [] ∧ '\n' ∉ currentLine before := by
  obtain ⟨earlier, run, rfl, hrun, hearlier⟩ := exists_run_before (· != '\n') before
  have hfeed : '\n' ∉ run := fun hmem => by simpa using hrun _ hmem
  have hline : currentLine earlier = [] := by
    rcases List.eq_nil_or_concat earlier with rfl | ⟨beginning, c, rfl⟩
    · rfl
    · rw [List.concat_eq_append] at hearlier ⊢
      exact List.rtakeWhile_concat_neg _ _ _ (by simp [hearlier c List.getLast?_concat])
  refine ⟨earlier, ?_, hline, ?_⟩
  · rw [currentLine_append earlier hfeed, hline, List.nil_append]
  · rwa [currentLine_append earlier hfeed, hline, List.nil_append]

theorem isOccupied_iff {before : List Char} : isOccupied before = true ↔
    ∃ earlier c later, before = earlier ++ c :: later ∧ '\n' ∉ c :: later ∧ '#' ∉ currentLine earlier ∧
      isMark c = true := by
  constructor
  · intro h
    obtain ⟨beginning, hbefore, hbeginning, hfeed⟩ := exists_lineStart before
    obtain ⟨c, hc, hmark⟩ := List.any_eq_true.mp h
    obtain ⟨front, back, hcontent⟩ := List.append_of_mem hc
    have hline : currentLine before = front ++ c :: (back ++ (currentLine before).dropWhile (· != '#')) := by
      rw [← List.cons_append, ← List.append_assoc, ← hcontent, lineContent, List.takeWhile_append_dropWhile]
    rw [hline, List.mem_append, not_or] at hfeed
    refine ⟨beginning ++ front, c, back ++ (currentLine before).dropWhile (· != '#'), ?_, hfeed.2, ?_, hmark⟩
    · rw [List.append_assoc, ← hline, ← hbefore]
    · rw [currentLine_append beginning hfeed.1, hbeginning, List.nil_append]
      intro hmem
      have hcomment : '#' ∈ lineContent (currentLine before) := hcontent ▸ List.mem_append_left _ hmem
      simpa using List.mem_takeWhile_imp hcomment
  · rintro ⟨earlier, c, later, rfl, hfeed, hfree, hmark⟩
    have hc : c ≠ '#' := by
      rintro rfl
      cases hmark
    rw [isOccupied_append hfree hfeed, lineContent_cons hc]
    simp [hmark]

def HasBegun (tokens : List Token) (before : List Char) : Prop :=
  ∃ t ∈ tokens, t.kind.closesLine = false ∧
    ∃ earlier line, before = earlier ++ line ∧ line ≠ [] ∧ '\n' ∉ line ∧ t.span.start = utf8Length earlier

inductive LeftOut (tokens : List Token) (before : List Char) : Char → Prop where
  | layout {c : Char} : isLayout c = true → LeftOut tokens before c
  | comment {c : Char} : '#' ∈ currentLine (before ++ [c]) → LeftOut tokens before c
  | blankLine : ¬HasBegun tokens before → LeftOut tokens before '\n'

section tokens

variable {source : String} {tokens : List Token}

theorem mem_tokens_iff (h : lex source = .ok tokens) {t : Token} :
    t ∈ tokens ↔ ∃ before after, source.toList = before ++ after ∧ StandsAt before after (.token t) := by
  rw [← mem_lexFrom_iff, lexFrom_of_lex h, List.mem_map_of_injective fun _ _ => Lexeme.token.inj]

theorem nodup_of_lex (h : lex source = .ok tokens) : tokens.Nodup := by
  have hnodup := nodup_lexemesFrom [] source.toList
  rw [← lexFrom_eq_everywhere, lexFrom_of_lex h] at hnodup
  exact List.Nodup.of_map _ hnodup

-- A mark in the middle of a word lies under the token of the whole word, so the run is followed back to its beginning.
theorem exists_token_over (h : lex source = .ok tokens) {before after : List Char} {c : Char}
    (htext : source.toList = before ++ c :: after) (hfree : '#' ∉ currentLine before) (hmark : isMark c = true) :
    ∃ t ∈ tokens, t.kind.closesLine = false ∧ utf8Length before + c.utf8Size ≤ t.span.stop ∧
      ∃ earlier front, before = earlier ++ front ∧ '\n' ∉ front ∧ t.span.start = utf8Length earlier := by
  simp only [isMark, Bool.or_eq_true, beq_iff_eq] at hmark
  rcases hmark with (rfl | rfl) | hword
  · exact ⟨_, (mem_tokens_iff h).mpr ⟨before, _, htext, .openParen hfree⟩, rfl, Nat.le_refl _, before, [], by simp⟩
  · exact ⟨_, (mem_tokens_iff h).mpr ⟨before, _, htext, .closeParen hfree⟩, rfl, Nat.le_refl _, before, [], by simp⟩
  obtain ⟨earlier, front, rfl, hfront, hlast⟩ := exists_run_before isWordChar before
  have hfeed : '\n' ∉ front := fun hmem => absurd (hfront _ hmem) (by decide)
  have hedge : endsInWord earlier = false := by
    rw [endsInWord, Option.any_eq_false]
    intro a ha
    exact hlast a ha
  have hsplit : source.toList =
      earlier ++ (front ++ c :: after.takeWhile isWordChar ++ after.dropWhile isWordChar) := by
    rw [htext, List.append_assoc front, run_append_dropWhile, List.append_assoc]
  have hchars : ∀ a ∈ front ++ c :: after.takeWhile isWordChar, isWordChar a = true :=
    List.forall_mem_append.mpr ⟨hfront, forall_mem_run hword after⟩
  rw [currentLine_append earlier hfeed, List.mem_append, not_or] at hfree
  have hstop : ∀ a, (after.dropWhile isWordChar).head? = some a → isWordChar a = false :=
    fun a ha => head?_dropWhile ha
  have hstands := StandsAt.word (by simp) hchars hedge hstop hfree.1
  refine ⟨_, (mem_tokens_iff h).mpr ⟨earlier, _, hsplit, hstands⟩, rfl, ?_, earlier, front, rfl, hfeed, rfl⟩
  simp only [utf8Length_append, utf8Length_cons]
  omega

theorem isOccupied_iff_hasBegun (h : lex source = .ok tokens) {before after : List Char}
    (htext : source.toList = before ++ after) : isOccupied before = true ↔ HasBegun tokens before := by
  rw [isOccupied_iff]
  constructor
  · rintro ⟨earlier, c, later, rfl, hfeed, hfree, hmark⟩
    rw [List.append_assoc, List.cons_append] at htext
    obtain ⟨t, ht, hopen, -, beginning, front, rfl, hfront, hstart⟩ := exists_token_over h htext hfree hmark
    refine ⟨t, ht, hopen, beginning, front ++ c :: later, List.append_assoc _ _ _, by simp, ?_, hstart⟩
    rw [List.mem_append, not_or]
    exact ⟨hfront, hfeed⟩
  · rintro ⟨t, ht, hopen, earlier, line, rfl, hne, hfeed, hstart⟩
    obtain ⟨place, behind, hplace, hstands⟩ := (mem_tokens_iff h).mp ht
    obtain ⟨hfree, c, rest, rfl, hmark⟩ := hstands.begins hopen
    rw [List.append_assoc, hplace] at htext
    obtain ⟨rfl, hbehind⟩ := append_inj_of_utf8Length htext (hstands.start_eq.symm.trans hstart)
    obtain ⟨a, later, rfl⟩ := List.exists_cons_of_ne_nil hne
    rw [List.cons_append, List.cons.injEq] at hbehind
    obtain ⟨rfl, -⟩ := hbehind
    exact ⟨place, c, later, rfl, hfeed, hfree, hmark⟩

theorem covered_or_leftOut (h : lex source = .ok tokens) {before after : List Char} {c : Char}
    (htext : source.toList = before ++ c :: after) :
    (∃ t ∈ tokens, t.span.start ≤ utf8Length before ∧ utf8Length before + c.utf8Size ≤ t.span.stop) ∨
      LeftOut tokens before c := by
  by_cases hfeed : c = '\n'
  · subst hfeed
    cases hoccupied : isOccupied before with
    | true =>
      exact .inl ⟨_, (mem_tokens_iff h).mpr ⟨before, _, htext, .newline hoccupied⟩, Nat.le_refl _, Nat.le_refl _⟩
    | false =>
      refine .inr (.blankLine fun hbegun => ?_)
      rw [(isOccupied_iff_hasBegun h htext).mpr hbegun] at hoccupied
      cases hoccupied
  have hline : '\n' ∉ [c] := by simpa using Ne.symm hfeed
  by_cases hcomment : '#' ∈ currentLine (before ++ [c])
  · exact .inr (.comment hcomment)
  rw [currentLine_append before hline, List.mem_append, not_or, List.mem_singleton] at hcomment
  obtain ⟨hfree, hhash⟩ := hcomment
  cases hlayout : isLayout c with
  | true => exact .inr (.layout hlayout)
  | false =>
    cases hmark : isMark c with
    | true =>
      obtain ⟨t, ht, -, hstop, earlier, front, rfl, -, hstart⟩ := exists_token_over h htext hfree hmark
      exact .inl ⟨t, ht, by rw [hstart, utf8Length_append]; exact Nat.le_add_right _ _, hstop⟩
    | false =>
      simp only [isMark, Bool.or_eq_false_iff, beq_eq_false_iff_ne] at hmark
      have hforeign := isForeign_iff.mpr ⟨hfeed, Ne.symm hhash, hlayout, hmark.1.1, hmark.1.2, hmark.2⟩
      have hstray := mem_lexFrom_iff.mpr ⟨before, c :: after, htext, .stray hfree hforeign⟩
      rw [lexFrom_of_lex h] at hstray
      simp at hstray

end tokens

inductive LineStream (start stop next : Nat) : List Token → Prop where
  | blank : LineStream start stop next []
  | closed {body : List Token} : body ≠ [] → (∀ t ∈ body, t.kind.closesLine = false) →
    (∀ t ∈ body, start ≤ t.span.start ∧ t.span.stop ≤ stop) →
    LineStream start stop next (body ++ [⟨.newline, ⟨stop, next⟩⟩])

inductive LinesStream : Nat → List (List Char) → List (List Token) → Prop where
  | last {offset : Nat} {line : List Char} {tokens : List Token} :
    LineStream offset (offset + utf8Length line) (offset + utf8Length line) tokens →
    LinesStream offset [line] [tokens]
  | cons {offset : Nat} {line : List Char} {tokens : List Token} {rest : List (List Char)}
    {later : List (List Token)} :
    LineStream offset (offset + utf8Length line) (offset + utf8Length line + 1) tokens →
    LinesStream (offset + utf8Length line + 1) rest later → LinesStream offset (line :: rest) (tokens :: later)

theorem lineLexemes_inside {line : List Char} (offset : Nat) (h : '\n' ∉ line) :
    ∀ l ∈ lineLexemes offset line, offset ≤ l.span.start ∧ l.span.stop ≤ offset + utf8Length line := by
  have hwhole := @lexFrom_line line [] offset false h (by simp)
  have horder := inOrder_lexFrom offset false (line ++ [])
  rw [hwhole, lexFrom] at horder
  intro l hl
  have hbehind := (List.pairwise_append.mp horder.pairwise).2.2 l hl (.token ⟨.endOfFile, _⟩)
    (List.mem_append_right _ (List.mem_singleton_self _))
  exact ⟨horder.start_le l (List.mem_append_left _ hl), hbehind⟩

theorem lineStream_of_lexemes {offset next : Nat} {line : List Char} {tokens : List Token} (hfeed : '\n' ∉ line)
    (h : lineLexemes offset line ++ lineEnd ((lineLexemes offset line).any Lexeme.isToken)
      (offset + utf8Length line) next = tokens.map .token) :
    LineStream offset (offset + utf8Length line) next tokens := by
  obtain ⟨body, ends, rfl, hbody, hends⟩ := List.map_eq_append_iff.mp h.symm
  rw [← hbody, any_isToken_map] at hends
  cases body with
  | nil =>
    obtain rfl := List.map_eq_nil_iff.mp hends
    exact .blank
  | cons t rest =>
    obtain ⟨last, rfl, hlast⟩ := List.map_eq_singleton_iff.mp hends
    rw [Lexeme.token.inj hlast]
    refine .closed (List.cons_ne_nil t rest) ?_ ?_
    · intro u hu
      exact (spelled_of_lineLexemes hbody.symm).open_of_mem u.kind (List.mem_map_of_mem hu)
    · intro u hu
      have hmem : .token u ∈ lineLexemes offset line := hbody ▸ List.mem_map_of_mem hu
      exact lineLexemes_inside offset hfeed _ hmem

theorem linesStream_of_lexemes {offset : Nat} {pieces : List (List Char)} {lines : List (List Token)}
    (hne : pieces ≠ []) (hfeed : ∀ piece ∈ pieces, '\n' ∉ piece)
    (h : linesLexemes offset pieces = lines.map (·.map Lexeme.token)) :
    LinesStream offset pieces lines := by
  induction pieces generalizing offset lines with
  | nil => exact absurd rfl hne
  | cons line rest ih =>
    cases rest with
    | nil =>
      obtain ⟨tokens, rfl, htokens⟩ := List.map_eq_singleton_iff.mp h.symm
      exact .last (lineStream_of_lexemes (hfeed line List.mem_cons_self) htokens.symm)
    | cons following rest =>
      rw [linesLexemes_cons (List.cons_ne_nil following rest)] at h
      obtain ⟨tokens, later, rfl, htokens, hlater⟩ := List.map_eq_cons_iff.mp h.symm
      obtain ⟨hline, hrest⟩ := List.forall_mem_cons.mp hfeed
      exact .cons (lineStream_of_lexemes hline htokens.symm) (ih (List.cons_ne_nil following rest) hrest hlater.symm)

structure Apart (tokens : List Token) : Prop where
  first : ∀ t, tokens.head? = some t → t.kind ≠ .newline
  chain : tokens.IsChain fun t u => u.kind = .newline → t.kind.closesLine = false

theorem apart_singleton {t : Token} (h : t.kind ≠ .newline) : Apart [t] :=
  ⟨by simpa using h, .singleton t⟩

theorem LineStream.apart_append {start stop next : Nat} {line rest : List Token} (h : LineStream start stop next line)
    (hrest : Apart rest) : Apart (line ++ rest) := by
  cases h with
  | blank => exact hrest
  | @closed body hne hopen hinside =>
    obtain ⟨t, later, rfl⟩ := List.exists_cons_of_ne_nil hne
    have hpairs : (t :: later).Pairwise fun a b => b.kind = .newline → a.kind.closesLine = false :=
      List.pairwise_of_forall_mem_list fun a ha _ _ _ => hopen a ha
    have hclose : (⟨.newline, ⟨stop, next⟩⟩ :: rest).IsChain fun a b => b.kind = .newline → a.kind.closesLine = false :=
      List.isChain_cons.mpr ⟨fun b hb hnewline => absurd hnewline (hrest.first b hb), hrest.chain⟩
    rw [List.append_assoc, List.singleton_append]
    constructor
    case first =>
      intro a ha hnewline
      obtain rfl : t = a := by simpa using ha
      have hnot := hopen t List.mem_cons_self
      rw [hnewline] at hnot
      cases hnot
    case chain => exact hpairs.isChain.append hclose fun a ha _ _ _ => hopen a (List.mem_of_getLast? ha)

theorem LinesStream.apart_append {offset : Nat} {pieces : List (List Char)} {lines : List (List Token)}
    {rest : List Token} (h : LinesStream offset pieces lines) (hrest : Apart rest) : Apart (lines.flatten ++ rest) := by
  induction h with
  | last hline =>
    rw [List.flatten_singleton]
    exact hline.apart_append hrest
  | cons hline hlater ih =>
    rw [List.flatten_cons, List.append_assoc]
    exact hline.apart_append ih

theorem LineStream.whole {start stop next : Nat} {line : List Token} (h : LineStream start stop next line)
    (hne : line ≠ []) : WholeLine line := by
  cases h with
  | blank => exact absurd rfl hne
  | closed hbody hopen hinside => exact ⟨_, _, rfl, rfl, hopen⟩

theorem LinesStream.whole {offset : Nat} {pieces : List (List Char)} {lines : List (List Token)}
    (h : LinesStream offset pieces lines) : ∀ line ∈ lines, line ≠ [] → WholeLine line := by
  induction h with
  | last hline => exact List.forall_mem_cons.mpr ⟨hline.whole, by simp⟩
  | cons hline hlater ih => exact List.forall_mem_cons.mpr ⟨hline.whole, ih⟩

theorem LinesStream.ne_endOfFile {offset : Nat} {pieces : List (List Char)} {lines : List (List Token)}
    (h : LinesStream offset pieces lines) : ∀ t ∈ lines.flatten, t.kind ≠ .endOfFile := by
  intro t ht
  obtain ⟨line, hline, ht⟩ := List.mem_flatten.mp ht
  exact (h.whole line hline (List.ne_nil_of_mem ht)).ne_endOfFile t ht

theorem exists_linesStream_of_lex {source : String} {tokens : List Token} (h : lex source = .ok tokens) :
    ∃ lines, LinesStream 0 (source.toList.splitOn '\n') lines ∧
      tokens = lines.flatten ++ [⟨.endOfFile, ⟨source.utf8ByteSize, source.utf8ByteSize⟩⟩] := by
  obtain ⟨lines, hlines, rfl⟩ := lex_eq_ok_iff.mp h
  rw [utf8Length_toList]
  exact ⟨lines, linesStream_of_lexemes (List.splitOn_ne_nil _ _) not_mem_of_mem_splitOn hlines, rfl⟩

structure Faithful (source : String) (tokens : List Token) : Prop where
  reads : ∀ t ∈ tokens, TokenReads source.toList t
  ordered : tokens.Pairwise fun t u => t.span.stop ≤ u.span.start
  standing : ∀ t, t ∈ tokens ↔ ∃ before after, source.toList = before ++ after ∧ StandsAt before after (.token t)
  once : tokens.Nodup
  begun : ∀ before after, source.toList = before ++ after → (isOccupied before = true ↔ HasBegun tokens before)
  covered : ∀ byte < source.utf8ByteSize, (∃ t ∈ tokens, t.span.start ≤ byte ∧ byte < t.span.stop) ∨
    ∃ before c after, source.toList = before ++ c :: after ∧ utf8Length before ≤ byte ∧
      byte < utf8Length before + c.utf8Size ∧ LeftOut tokens before c
  lines : ∃ lines, LinesStream 0 (source.toList.splitOn '\n') lines ∧
    tokens = lines.flatten ++ [⟨.endOfFile, ⟨source.utf8ByteSize, source.utf8ByteSize⟩⟩]
  apart : Apart tokens
  ends : ∃ body, tokens = body ++ [⟨.endOfFile, ⟨source.utf8ByteSize, source.utf8ByteSize⟩⟩] ∧
    ∀ t ∈ body, t.kind ≠ .endOfFile

theorem tokens_faithful {source : String} {tokens : List Token} (h : lex source = .ok tokens) :
    Faithful source tokens := by
  obtain ⟨lines, hlines, htokens⟩ := exists_linesStream_of_lex h
  constructor
  case reads => exact tokenReads_of_lex h
  case ordered => exact pairwise_of_lex h
  case standing => exact fun t => mem_tokens_iff h
  case once => exact nodup_of_lex h
  case begun => exact fun before after htext => isOccupied_iff_hasBegun h htext
  case covered =>
    intro byte hbyte
    rw [← utf8Length_toList] at hbyte
    obtain ⟨before, c, after, htext, hle, hlt⟩ := exists_char_at hbyte
    rcases covered_or_leftOut h htext with ⟨t, ht, hstart, hstop⟩ | hleft
    · exact .inl ⟨t, ht, Nat.le_trans hstart hle, Nat.lt_of_lt_of_le hlt hstop⟩
    · exact .inr ⟨before, c, after, htext, hle, hlt, hleft⟩
  case lines => exact ⟨lines, hlines, htokens⟩
  case apart => exact htokens ▸ hlines.apart_append (apart_singleton fun h => nomatch h)
  case ends => exact ⟨lines.flatten, htokens, hlines.ne_endOfFile⟩

theorem tokens_faithful_splitWords :
    lex "# é\nA\rB # ü\n\n(if)# end" = .ok [⟨.word "A", ⟨5, 6⟩⟩, ⟨.word "B", ⟨7, 8⟩⟩, ⟨.newline, ⟨13, 14⟩⟩,
        ⟨.openParen, ⟨15, 16⟩⟩, ⟨.word "if", ⟨16, 18⟩⟩, ⟨.closeParen, ⟨18, 19⟩⟩, ⟨.newline, ⟨24, 24⟩⟩,
        ⟨.endOfFile, ⟨24, 24⟩⟩] ∧
      Faithful "# é\nA\rB # ü\n\n(if)# end" [⟨.word "A", ⟨5, 6⟩⟩, ⟨.word "B", ⟨7, 8⟩⟩, ⟨.newline, ⟨13, 14⟩⟩,
        ⟨.openParen, ⟨15, 16⟩⟩, ⟨.word "if", ⟨16, 18⟩⟩, ⟨.closeParen, ⟨18, 19⟩⟩, ⟨.newline, ⟨24, 24⟩⟩,
        ⟨.endOfFile, ⟨24, 24⟩⟩] := by
  have hlex : lex "# é\nA\rB # ü\n\n(if)# end" = .ok [⟨.word "A", ⟨5, 6⟩⟩, ⟨.word "B", ⟨7, 8⟩⟩,
      ⟨.newline, ⟨13, 14⟩⟩, ⟨.openParen, ⟨15, 16⟩⟩, ⟨.word "if", ⟨16, 18⟩⟩, ⟨.closeParen, ⟨18, 19⟩⟩,
      ⟨.newline, ⟨24, 24⟩⟩, ⟨.endOfFile, ⟨24, 24⟩⟩] := by decide +kernel
  exact ⟨hlex, tokens_faithful hlex⟩

end KindTable
