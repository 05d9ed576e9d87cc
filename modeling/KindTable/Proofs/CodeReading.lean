import Mathlib.Data.List.Basic
import KindTable.Code.Reader
import KindTable.Proofs.ToolkitLaws

namespace KindTable

namespace CodeScan

theorem run_word {text : List Char} (h : ∀ c ∈ text, isWordChar c = true) (read : List Char) :
    (word read).run text = ([], word (text.reverse ++ read)) := by
  induction text generalizing read with
  | nil => rfl
  | cons c text ih =>
    obtain ⟨hc, htext⟩ := List.forall_mem_cons.mp h
    rw [run_cons, step, if_pos hc, ih htext, List.reverse_cons, List.append_assoc]
    rfl

theorem run_clear_word {text : List Char} (h : ∀ c ∈ text, isWordChar c = true) (hne : text ≠ []) :
    clear.run text = ([], word text.reverse) := by
  cases text with
  | nil => exact absurd rfl hne
  | cons c text =>
    obtain ⟨hc, htext⟩ := List.forall_mem_cons.mp h
    rw [run_cons, step, opens, if_pos hc, run_word htext, List.reverse_cons]
    rfl

end CodeScan

theorem readTokens_word {text : String} (h : ∀ c ∈ text.toList, isWordChar c = true) (hne : text.toList ≠ []) :
    readTokens text = [.word text] := by
  rw [readTokens, tokensOfChars, CodeScan.run_clear_word h hne]
  simp [CodeScan.finish]

theorem readTokens_append {before : String} (h : (CodeScan.clear.run before.toList).2 = .clear) (after : String) :
    readTokens (before ++ after) = readTokens before ++ readTokens after := by
  simp [readTokens, tokensOfChars, String.toList_append, CodeScan.run_append, h,
    show CodeScan.clear.finish = [] from rfl]

theorem readTokens_word_append {word after : String} (h : ∀ c ∈ word.toList, isWordChar c = true)
    (hne : word.toList ≠ []) (hafter : after.toList.head?.any isWordChar = false) :
    readTokens (word ++ after) = .word word :: readTokens after := by
  have hfinish : (CodeScan.word word.toList.reverse).finish = [.word word] := by simp [CodeScan.finish]
  rw [readTokens, readTokens, tokensOfChars, tokensOfChars, String.toList_append, CodeScan.run_append,
    CodeScan.run_clear_word h hne]
  cases htext : after.toList with
  | nil => exact hfinish
  | cons c rest =>
    rw [htext] at hafter
    rw [CodeScan.run_word_of_opens hafter, hfinish]
    rfl

theorem readTokens_numeral (before : String) (n : Nat) {after : String}
    (hbefore : (CodeScan.clear.run before.toList).2 = .clear)
    (hafter : after.toList.head?.any isWordChar = false) :
    readTokens (before ++ toString n ++ after) = readTokens before ++ .word (toString n) :: readTokens after := by
  rw [String.append_assoc, readTokens_append hbefore,
    readTokens_word_append isWordChar_of_mem_toString (toList_toString_ne_nil n) hafter]

theorem mem_of_mem_dropTrailingBlanks {line : List Char} {c : Char} (h : c ∈ dropTrailingBlanks line) : c ∈ line := by
  rw [dropTrailingBlanks, List.mem_reverse] at h
  exact List.mem_reverse.mp ((List.dropWhile_suffix _).subset h)

theorem CodeScan.run_comment {text : List Char} (h : '\n' ∉ text) : comment.run text = ([], comment) := by
  induction text with
  | nil => rfl
  | cons c text ih =>
    obtain ⟨hc, htext⟩ := not_or.mp (mt List.mem_cons.mpr h)
    rw [run_cons, step, if_neg (Ne.symm hc), ih htext]
    rfl

theorem run_docComment {doc : String} (h : '\n' ∉ doc.toList) (hslash : doc.toList.head? ≠ some '/') :
    CodeScan.clear.run (docComment doc).toList = ([], .comment) := by
  have hline : docComment doc = "///" ++ .ofList (dropTrailingBlanks doc.toList) := by simp [docComment, h, hslash]
  have hrest : '\n' ∉ dropTrailingBlanks doc.toList := fun hmem => h (mem_of_mem_dropTrailingBlanks hmem)
  have hopened : CodeScan.clear.run "///".toList = ([], .comment) := by decide
  simp only [hline, String.toList_append, String.toList_ofList, CodeScan.run_append, hopened,
    CodeScan.run_comment hrest]
  rfl

theorem run_docCommentOf {before name after : String} (h : IsWord name) (hbefore : before.toList.head? = some ' ')
    (hline : '\n' ∉ before.toList ∧ '\n' ∉ after.toList) :
    CodeScan.clear.run (docComment (before ++ name ++ after)).toList = ([], .comment) := by
  have hname : '\n' ∉ name.toList := fun hmem => absurd (h.isWordChar _ hmem) (by decide)
  have hdoc : '\n' ∉ (before ++ name ++ after).toList := by simp [hline, hname]
  have hslash : (before ++ name ++ after).toList.head? ≠ some '/' := by
    simp [String.toList_append, List.head?_append, hbefore]
  exact run_docComment hdoc hslash

theorem tokens_docComment {doc : String} (h : CodeScan.clear.run (docComment doc).toList = ([], .comment)) :
    readTokens (docComment doc) = [] := by
  rw [readTokens, tokensOfChars, h]
  rfl

theorem run_comment {text : List Char} (h : '\n' ∉ text) (hslash : text.head? ≠ some '/') :
    CodeScan.clear.run (docComment (.ofList text)).toList = ([], .comment) :=
  run_docComment (by rwa [String.toList_ofList]) (by rwa [String.toList_ofList])

theorem escapeChar_of_isWordChar {c : Char} (h : isWordChar c = true) : escapeChar c = c.toString :=
  @wordChar_forall (fun c => escapeChar c = c.toString) (by decide +kernel) c h

theorem escapeLiteral_of_word {text : List Char} (h : ∀ c ∈ text, isWordChar c = true) :
    escapeLiteral text = .ofList text := by
  fun_induction escapeLiteral text with
  | case1 => rfl
  | case2 => exact absurd (h '\x00' List.mem_cons_self) (by decide)
  | case3 next rest => exact absurd (h '\x00' List.mem_cons_self) (by decide)
  | case4 c rest _ _ ih =>
    obtain ⟨hc, hrest⟩ := List.forall_mem_cons.mp h
    rw [escapeChar_of_isWordChar hc, ih hrest, ← String.toList_inj]
    simp

theorem CodeScan.run_literal {text : List Char} (h : ∀ c ∈ text, isWordChar c = true) (read : List Char) :
    (literal read).run text = ([], literal (text.reverse ++ read)) := by
  induction text generalizing read with
  | nil => rfl
  | cons c text ih =>
    obtain ⟨hc, htext⟩ := List.forall_mem_cons.mp h
    have hquote : c ≠ '"' := by
      rintro rfl
      cases hc
    have hslash : c ≠ '\\' := by
      rintro rfl
      cases hc
    rw [run_cons, step, if_neg hquote, if_neg hslash, ih htext, List.reverse_cons, List.append_assoc]
    rfl

theorem run_stringLiteral {text : String} (h : ∀ c ∈ text.toList, isWordChar c = true) :
    CodeScan.clear.run (stringLiteral text).toList = ([.literal text], .clear) := by
  have hopened : CodeScan.clear.run "\"".toList = ([], .literal []) := by decide
  have hclosed : (CodeScan.literal text.toList.reverse).run "\"".toList = ([.literal text], .clear) := by
    simp [CodeScan.step, CodeScan.run]
  simp only [stringLiteral, escapeLiteral_of_word h, String.toList_append, String.toList_ofList, CodeScan.run_append,
    hopened, CodeScan.run_literal h, List.append_nil, hclosed]
  rfl

-- The library has these by `rfl`, for which the kernel would evaluate the tokens that follow.
section

variable {α β : Type}

theorem nothing_append (as : List α) : [] ++ as = as := by rw [List.nil_append]

theorem some_bind (a : α) (f : α → Option β) : (some a).bind f = f a := by rw [Option.bind_some]

end

theorem tokensOf_separate {separator : List Doc} (h : tokensOf separator = []) (items : List (List Doc)) :
    tokensOf (separate separator items) = items.flatMap tokensOf := by
  fun_induction separate separator items with
  | case1 => rfl
  | case2 last => simp
  | case3 item rest hne ih => simp [h, ih]

@[simp] theorem tokensOf_stackLines (items : List (List Doc)) :
    tokensOf (stackLines items) = items.flatMap tokensOf := by
  induction items with
  | nil => rfl
  | cons item rest ih =>
    rw [stackLines] at ih
    simp [stackLines, ih]

@[simp] theorem tokensOf_block (head : List Doc) (items : List (List Doc)) :
    tokensOf (block head items) = tokensOf head ++ items.flatMap tokensOf := by
  have hbrace : ∀ text ∈ ["\x7b", "\x7d", "\x7b\x7d"], readTokens text = [] := by decide
  simp only [List.forall_mem_cons] at hbrace
  unfold block
  split
  · rename_i hnone
    obtain rfl := List.isEmpty_iff.mp hnone
    simp [hbrace]
  · simp [hbrace, tokensOf_separate]

@[simp] theorem tokens_bracketed (inner : List Doc) : (bracketed inner).tokens = tokensOf inner := by
  simp [bracketed]

@[simp] theorem tokensOf_arrayOf (elements : List (List Doc)) :
    tokensOf (arrayOf elements) = readTokens "[" ++ elements.flatMap tokensOf ++ readTokens "]" := by
  have hcomma : readTokens "," = [] := by decide
  unfold arrayOf
  split
  · rename_i hnone
    obtain rfl := List.isEmpty_iff.mp hnone
    rfl
  · simp [tokensOf_separate, hcomma]

@[simp] theorem tokensOf_matchArm (pattern result : List Doc) :
    tokensOf (matchArm pattern result) = tokensOf pattern ++ readTokens " => " ++ tokensOf result := by
  simp [matchArm]

namespace CodeReader

@[simp] theorem dropTokens_self (expected rest : List CodeToken) :
    dropTokens expected (expected ++ rest) = some rest := by
  induction expected with
  | nil => rfl
  | cons t expected ih => rw [List.cons_append, dropTokens, if_pos rfl, ih]

theorem dropTokens_append (first second ts : List CodeToken) :
    dropTokens (first ++ second) ts = (dropTokens first ts).bind (dropTokens second) := by
  induction first generalizing ts with
  | nil => rfl
  | cons t first ih =>
    cases ts with
    | nil => rfl
    | cons u ts =>
      rw [List.cons_append, dropTokens, dropTokens]
      split
      · exact ih ts
      · rfl

@[simp] theorem expect_nil (ts : List CodeToken) : expect [] ts = some ts := by
  rw [expect, List.flatMap_nil, dropTokens]

@[simp] theorem expect_cons_self (text : String) (texts : List String) (rest : List CodeToken) :
    expect (text :: texts) (readTokens text ++ rest) = expect texts rest := by
  rw [expect, List.flatMap_cons, dropTokens_append, dropTokens_self]
  rfl

theorem expect_self (text : String) (texts : List String) :
    expect (text :: texts) (readTokens text) = expect texts [] := by
  have hself := expect_cons_self text texts []
  rwa [List.append_nil] at hself

theorem expect_of_head {text : String} {t u : CodeToken} {expected : List CodeToken}
    (h : readTokens text = t :: expected) (hne : t ≠ u) (texts : List String) (rest : List CodeToken) :
    expect (text :: texts) (u :: rest) = none := by
  rw [expect, List.flatMap_cons, h, List.cons_append, dropTokens, if_neg hne]

section

variable {α : Type} {item : List CodeToken → Option (α × List CodeToken)} {write : α → List CodeToken} {as : List α}

theorem readUpTo_append {rest : List CodeToken} (hread : ∀ a ∈ as, ∀ later, item (write a ++ later) = some (a, later))
    (hstop : item rest = none) {bound : Nat} (hbound : (as.flatMap write).length ≤ bound) :
    readUpTo item bound (as.flatMap write ++ rest) = (as, rest) := by
  induction as generalizing bound with
  | nil =>
    cases bound with
    | zero => rfl
    | succ bound => simp [readUpTo, hstop]
  | cons a as ih =>
    obtain ⟨ha, has⟩ := List.forall_mem_cons.mp hread
    -- An item written with nothing would be read where the reading stops.
    have hwritten : write a ≠ [] := by
      intro hnone
      have hread := ha rest
      rw [hnone, List.nil_append, hstop] at hread
      cases hread
    have hlength := List.length_pos_iff.mpr hwritten
    rw [List.flatMap_cons, List.length_append] at hbound
    obtain ⟨bound, rfl⟩ : ∃ n, bound = n + 1 := Nat.exists_eq_add_one.mpr (by omega)
    rw [List.flatMap_cons, List.append_assoc, readUpTo, ha]
    simp only [ih has (show (as.flatMap write).length ≤ bound by omega)]

theorem readMany_append {rest : List CodeToken} (hread : ∀ a ∈ as, ∀ later, item (write a ++ later) = some (a, later))
    (hstop : item rest = none) : readMany item (as.flatMap write ++ rest) = (as, rest) := by
  apply readUpTo_append hread hstop
  rw [List.length_append]
  exact Nat.le_add_right _ _

theorem readMany_all (hread : ∀ a ∈ as, ∀ later, item (write a ++ later) = some (a, later)) (hstop : item [] = none) :
    readMany item (as.flatMap write) = (as, []) := by
  have hall := readMany_append hread hstop
  rwa [List.append_nil] at hall

end

theorem readNumber_repr (n : Nat) (rest : List CodeToken) : readNumber (.word n.repr :: rest) = some (n, rest) := by
  have hread : readNumeral (toString n).toList = (n, []) := by
    have hread := @readNumeral_toString n [] (by simp)
    rwa [List.append_nil] at hread
  change (if (readNumeral (toString n).toList).2.isEmpty then some ((readNumeral (toString n).toList).1, rest)
    else none) = _
  rw [hread]
  rfl

theorem readId_toString (id : UInt32) (rest : List CodeToken) :
    readId (.word (toString id) :: rest) = some (id, rest) := by
  have hnumber := readNumber_repr id.toNat rest
  change readNumber (.word (toString id) :: rest) = _ at hnumber
  simp [readId, hnumber, id.toNat_lt]

@[simp] theorem tokensOf_opcodePath (variant : String) :
    tokensOf (OpcodeCode.opcodePath variant) = readTokens "Opcode::" ++ [.word variant] := by
  simp [OpcodeCode.opcodePath]

@[simp] theorem readPath_append (variant : String) (rest : List CodeToken) :
    readPath (readTokens "Opcode::" ++ .word variant :: rest) = some (variant, rest) := by
  simp [readPath, readWord]

theorem tokens_attribute : readTokens "#[doc(hidden)]" = .sign '#' :: readTokens "[doc(hidden)]" := by
  rw [readTokens_ofList, readTokens_ofList]
  decide

theorem readVariant_append (v : Variant) (rest : List CodeToken) :
    readVariant (tokensOf (OpcodeCode.variantItem v) ++ rest) = some (v, rest) := by
  have hid : readTokens (" = " ++ toString v.id ++ ",") = readTokens " = " ++ .word (toString v.id) :: readTokens "," :=
    readTokens_numeral " = " v.id.toNat (by decide) (by decide)
  have hplain (later : List CodeToken) : expect ["#[doc(hidden)]"] (.word v.name :: later) = none :=
    expect_of_head tokens_attribute (by simp) [] later
  obtain ⟨name, id, isHidden⟩ := v
  cases isHidden with
  | true => simp [OpcodeCode.variantItem, hid, readVariant, skip, readWord, readId_toString]
  | false =>
    simp [OpcodeCode.variantItem, hid, hplain, readVariant, skip, readWord, readId_toString]

theorem readFromArm_append (a : FromArm) (rest : List CodeToken) :
    readFromArm (tokensOf (OpcodeCode.fromArmItem a) ++ rest) = some (a, rest) := by
  have hid : readTokens (toString a.id) = [.word (toString a.id)] :=
    readTokens_word isWordChar_of_mem_toString (toList_toString_ne_nil _)
  simp [OpcodeCode.fromArmItem, readFromArm, readId_toString, hid]

theorem tokens_stringLiteral {text : String} (h : IsWord text) :
    readTokens (stringLiteral text) = [.literal text] := by
  simp [readTokens, tokensOfChars, run_stringLiteral h.isWordChar, CodeScan.finish]

theorem readNameArm_append {a : NameArm} (h : IsWord a.name) (rest : List CodeToken) :
    readNameArm (tokensOf (OpcodeCode.nameArmItem a) ++ rest) = some (a, rest) := by
  simp [OpcodeCode.nameArmItem, tokens_stringLiteral h, readNameArm, readLiteral]

def structTokens (name : String) : List CodeToken :=
  readTokens "#[derive(Debug)]" ++ (readTokens "#[allow(non_camel_case_types)]" ++ (readTokens "pub struct " ++
    .word name :: (readTokens " " ++ readTokens "_private: (),")))

theorem tokens_lines {item : StubItem} (h : IsWord item.node) :
    (StubCode.lines item).flatMap tokensOf = structTokens item.typeName := by
  have hcomment : readTokens (docComment (" IR node class for the `" ++ item.node ++ "` node kind.")) = [] :=
    tokens_docComment (run_docCommentOf h rfl (by decide))
  simp [StubCode.lines, hcomment, structTokens, -List.nil_append, nothing_append]

theorem readStruct_append (name : String) (rest : List CodeToken) :
    readStruct (structTokens name ++ rest) = some (name, rest) := by
  simp [structTokens, readStruct, readWord]

theorem readMethod_append {m : VisitMethod} (h : IsWord m.variant) (rest : List CodeToken) :
    readMethod ((VisitorCode.methodLines m).flatMap tokensOf ++ rest) = some (m, rest) := by
  have hcomment : readTokens (docComment (" Visit a `" ++ m.variant ++ "` node.")) = [] :=
    tokens_docComment (run_docCommentOf h rfl (by decide))
  simp [VisitorCode.methodLines, hcomment, readMethod, readWord, -List.nil_append, nothing_append, -Option.bind_some,
    some_bind]

theorem readVisitArm_append (a : VisitArm) (rest : List CodeToken) :
    readVisitArm (tokensOf (VisitorCode.armItem a) ++ rest) = some (a, rest) := by
  obtain ⟨variant, method⟩ := a
  cases method with
  | none => simp [VisitorCode.armItem, VisitorCode.visitCall, readVisitArm, -Option.bind_some, some_bind]
  | some method =>
    have hcalled : expect [fallbackMethod, "(", "opcode", ")"]
        (.word method :: (readTokens "(" ++ (readTokens ")" ++ rest))) = none := by
      have hfallback : readTokens fallbackMethod = [.word fallbackMethod] := by decide
      have hword : readTokens "opcode" = [.word "opcode"] := by decide
      have hclose : readTokens ")" = [.sign ')'] := by decide
      simp [expect, dropTokens_append, hfallback, hword, hclose, dropTokens]
    simp [VisitorCode.armItem, VisitorCode.visitCall, readVisitArm, readWord, hcalled, -Option.bind_some, some_bind]

theorem tokens_count : readTokens "pub const OPCODE_COUNT: usize = " =
    .word "pub" :: .word "const" :: readTokens "OPCODE_COUNT: usize = " := by
  rw [readTokens_ofList, readTokens_ofList]
  decide

theorem readVariant_stops (rest : List CodeToken) :
    readVariant (readTokens "pub const OPCODE_COUNT: usize = " ++ rest) = none := by
  have hequals : readTokens " = " = [.sign '='] := by decide
  have hplain (later : List CodeToken) : expect ["#[doc(hidden)]"] (.word "pub" :: later) = none :=
    expect_of_head tokens_attribute (by simp) [] later
  have hname (later : List CodeToken) : expect [" = "] (.word "const" :: later) = none :=
    expect_of_head hequals (by simp) [] later
  simp [tokens_count, readVariant, skip, hplain, readWord, hname, -Option.bind_some, some_bind]

theorem readEnumeration_append (c : OpcodeCode) (rest : List CodeToken) :
    readEnumeration (c.enumeration.flatMap tokensOf ++ (readTokens "pub const OPCODE_COUNT: usize = " ++ rest)) =
      some (c.variants, readTokens "pub const OPCODE_COUNT: usize = " ++ rest) := by
  have hdoc : readTokens (docComment " IR node-kind opcodes, numbered in declaration order.") = [] :=
    tokens_docComment (run_comment (by decide) (by decide))
  have hsized : readTokens "#[repr(u32)]" = .sign '#' :: readTokens "[repr(u32)]" := by
    rw [readTokens_ofList, readTokens_ofList]
    decide
  have hopened : readTokens "pub enum Opcode " = .word "pub" :: readTokens "enum Opcode " := by
    rw [readTokens_ofList, readTokens_ofList]
    decide
  have hunsized (later : List CodeToken) :
      expect ["#[repr(u32)]"] (readTokens "pub enum Opcode " ++ later) = none := by
    rw [hopened]
    exact expect_of_head hsized (by simp) [] _
  have hvariants := readMany_append (fun v (_ : v ∈ c.variants) => readVariant_append v) (readVariant_stops rest)
  unfold OpcodeCode.enumeration
  cases c.variants.isEmpty with
  | true =>
    simp [hdoc, List.flatMap_map, readEnumeration, skip, hunsized, hvariants, -List.nil_append, nothing_append,
      -Option.bind_some, some_bind]
  | false =>
    simp [hdoc, List.flatMap_map, readEnumeration, skip, hvariants, -List.nil_append, nothing_append,
      -Option.bind_some, some_bind]

theorem readListing_append (all : List String) (rest : List CodeToken) :
    readListing (readTokens ("pub const " ++ OpcodeCode.listingItem ++ ": [Opcode; OPCODE_COUNT] = ") ++
      (readTokens "[" ++ (all.flatMap (fun v => readTokens "Opcode::" ++ [.word v]) ++
        (readTokens "]" ++ (readTokens ";" ++ rest))))) = some (all, rest) := by
  have hstop : readPath (readTokens "]" ++ (readTokens ";" ++ rest)) = none := by
    have hpath : readTokens "Opcode::" = .word "Opcode" :: readTokens "::" := by
      rw [readTokens_ofList, readTokens_ofList]
      decide
    have hclose : readTokens "]" = [.sign ']'] := by decide
    rw [hclose, readPath]
    exact congrArg (Option.bind · _) (expect_of_head hpath (by simp) [] _)
  have hread : ∀ v ∈ all, ∀ later, readPath ((readTokens "Opcode::" ++ [.word v]) ++ later) = some (v, later) := by simp
  have hpaths := readMany_append hread hstop
  simp [readListing, hpaths]

theorem readConversion_append (arms : List FromArm) (rest : List CodeToken) :
    readConversion (readTokens ("pub const fn " ++ OpcodeCode.conversionItem ++ "(value: u32) -> Option<Opcode> ") ++
      (readTokens "match value " ++ (arms.flatMap (fun a => tokensOf (OpcodeCode.fromArmItem a)) ++
        (readTokens "_" ++ (readTokens " => " ++ (readTokens "None" ++ rest)))))) = some (arms, rest) := by
  have hstop : readFromArm (readTokens "_" ++ (readTokens " => " ++ (readTokens "None" ++ rest))) = none := by
    have hlast : readTokens "_" = [.word "_"] := by decide
    rw [hlast]
    rfl
  have harms := readMany_append (fun a (_ : a ∈ arms) => readFromArm_append a) hstop
  simp [readConversion, harms]

theorem readNaming_append {arms : List NameArm} (h : ∀ a ∈ arms, IsWord a.name) :
    readNaming (readTokens ("pub const fn " ++ OpcodeCode.namingItem ++ "(self) -> &'static str ") ++
      (readTokens "match self " ++ arms.flatMap fun a => tokensOf (OpcodeCode.nameArmItem a))) = some (arms, []) := by
  have harms := readMany_all (fun a ha => readNameArm_append (h a ha)) rfl
  simp [readNaming, harms]

theorem readOpcodes_file {c : OpcodeCode} (h : ∀ a ∈ c.nameArms, IsWord a.name) :
    readOpcodes (tokensOf c.file.body) = some c := by
  have hcounted : readTokens (docComment " Number of opcodes (one past the largest id).") = [] :=
    tokens_docComment (run_comment (by decide) (by decide))
  have hlisted : readTokens (docComment " Every opcode, in id order.") = [] :=
    tokens_docComment (run_comment (by decide) (by decide))
  have hnamed : readTokens (docComment " Node-class name of this opcode.") = [] :=
    tokens_docComment (run_comment (by decide) (by decide))
  have hcount : readTokens ("pub const OPCODE_COUNT: usize = " ++ toString c.count ++ ";") =
      readTokens "pub const OPCODE_COUNT: usize = " ++ .word (toString c.count) :: readTokens ";" :=
    readTokens_numeral "pub const OPCODE_COUNT: usize = " c.count (by rw [String.toList_ofList]; decide) (by decide)
  simp only [OpcodeCode.file, OpcodeCode.implementation, tokensOf_stackLines, tokensOf_block, tokensOf_append,
    tokensOf_arrayOf, tokensOf_matchArm, List.flatMap_append, List.flatMap_cons, List.flatMap_nil, List.flatMap_map,
    tokensOf_cons, tokensOf_nil, Doc.tokens_text, Doc.tokens_seam, hcounted, hlisted, hnamed, hcount, List.append_nil,
    nothing_append, List.append_assoc, List.cons_append]
  simp [readOpcodes, readEnumeration_append, readNumber_repr, readListing_append, readConversion_append,
    readNaming_append h, -Option.bind_some, some_bind]

theorem readNames_file {c : NameCode} (h : ∀ name ∈ c.names, IsWord name) :
    readNames (tokensOf c.file.body) = some c := by
  have hdoc : readTokens (docComment " Node-class names, indexed by opcode.") = [] :=
    tokens_docComment (run_comment (by decide) (by decide))
  have hcount : readTokens ("pub static NODE_CLASS_NAMES: [&str; " ++ toString c.count ++ "] = ") =
      readTokens "pub static NODE_CLASS_NAMES: [&str; " ++ .word (toString c.count) :: readTokens "] = " :=
    readTokens_numeral "pub static NODE_CLASS_NAMES: [&str; " c.count (by rw [String.toList_ofList]; decide) (by decide)
  have hread : ∀ name ∈ c.names, ∀ later,
      readLiteral (readTokens (stringLiteral name) ++ later) = some (name, later) := by
    intro name hname later
    rw [tokens_stringLiteral (h name hname)]
    rfl
  have hstop (rest : List CodeToken) : readLiteral (readTokens "]" ++ rest) = none := by
    have hclose : readTokens "]" = [.sign ']'] := by decide
    rw [hclose]
    rfl
  have hnames := readMany_append hread (hstop (readTokens ";"))
  simp only [NameCode.file, tokensOf_stackLines, tokensOf_append, tokensOf_arrayOf, List.flatMap_cons,
    List.flatMap_nil, List.flatMap_map, tokensOf_cons, tokensOf_nil,
    Doc.tokens_text, Doc.tokens_seam, hdoc, hcount, List.append_nil, nothing_append,
    List.append_assoc, List.cons_append]
  simp [readNames, readNumber_repr, hnames, expect_self]

theorem readStructs_file {c : StubCode} (h : ∀ item ∈ c.items, IsWord item.node) :
    readStructs (tokensOf c.file.body) = some (c.items.map (·.typeName)) := by
  have hlines : (c.items.flatMap StubCode.lines).flatMap tokensOf =
      (c.items.map (·.typeName)).flatMap structTokens := by
    rw [List.flatMap_assoc, List.flatMap_map]
    exact List.flatMap_congr fun item hitem => tokens_lines (h item hitem)
  have hread := @readMany_all _ readStruct structTokens (c.items.map (·.typeName))
    (fun name _ => readStruct_append name) rfl
  rw [StubCode.file, tokensOf_stackLines, hlines, readStructs, hread]
  rfl

theorem tokens_dispatch :
    readTokens "pub fn dispatch<V: NodeVisitor + ?Sized>(visitor: &mut V, opcode: Opcode) -> V::Output " =
      .word "pub" :: readTokens "fn dispatch<V: NodeVisitor + ?Sized>(visitor: &mut V, opcode: Opcode) -> V::Output " := by
  rw [readTokens_ofList, readTokens_ofList]
  decide

theorem readVisitor_file {c : VisitorCode} (h : ∀ m ∈ c.methods, IsWord m.variant) :
    readVisitor (tokensOf c.file.body) = some c := by
  have hinterface : readTokens (docComment
      " One method per node kind. Unimplemented methods fall back to `visit_default`.") = [] :=
    tokens_docComment (run_comment (by decide) (by decide))
  have hdispatch : readTokens (docComment " Call the `visitor` method that handles `opcode`.") = [] :=
    tokens_docComment (run_comment (by decide) (by decide))
  have hstop (rest : List CodeToken) : readMethod (readTokens
      "pub fn dispatch<V: NodeVisitor + ?Sized>(visitor: &mut V, opcode: Opcode) -> V::Output " ++ rest) = none := by
    have hfn : readTokens "fn " = [.word "fn"] := by decide
    have hnone (later : List CodeToken) : expect ["fn "] (.word "pub" :: later) = none :=
      expect_of_head hfn (by simp) [] later
    rw [tokens_dispatch, List.cons_append, readMethod, hnone]
    rfl
  have hmethods (rest : List CodeToken) := readMany_append (fun m hm => readMethod_append (h m hm)) (hstop rest)
  have harms := readMany_all (fun a (_ : a ∈ c.arms) => readVisitArm_append a) rfl
  simp only [VisitorCode.file, VisitorCode.interface, VisitorCode.dispatch, tokensOf_stackLines, tokensOf_block,
    List.flatMap_cons, List.flatMap_assoc, List.flatMap_nil, List.flatMap_map, tokensOf_cons, tokensOf_nil,
    Doc.tokens_text, hinterface,
    hdispatch, List.append_nil, nothing_append, List.append_assoc, List.cons_append]
  simp [readVisitor, hmethods, harms, -Option.bind_some, some_bind]

end CodeReader

end KindTable
