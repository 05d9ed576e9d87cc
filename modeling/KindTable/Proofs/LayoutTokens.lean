import KindTable.Proofs.CodeReading
import KindTable.Proofs.LegalNames
import KindTable.Proofs.StandardNaming

namespace KindTable

inductive Edge where
  | clear
  | word
  | line
  deriving DecidableEq, Repr

namespace Edge

def Fits : Edge → CodeScan → Prop
  | clear, s => s = .clear
  | word, s => s = .clear ∨ ∃ read, s = .word read
  | line, s => s = .clear ∨ (∃ read, s = .word read) ∨ s = .comment

theorem Fits.of_clear {s : CodeScan} (h : clear.Fits s) (e : Edge) : e.Fits s := by
  cases e with
  | clear => exact h
  | word | line => exact .inl h

theorem Fits.to_line {s : CodeScan} {e : Edge} (h : e.Fits s) : line.Fits s := by
  cases e with
  | clear => exact h.of_clear _
  | word => exact h.imp_right .inl
  | line => exact h

def meets : Edge → List Char → Bool
  | clear, _ => true
  | word, text => text.head?.any (!isWordChar ·)
  | line, _ => false

def ofScan? : CodeScan → Option Edge
  | .clear => some clear
  | .word _ => some word
  | .comment => some line
  | _ => none

def after? (e : Edge) (content : List Char) : Option Edge :=
  if e.meets content then ofScan? (CodeScan.clear.run content).2 else none

theorem fits_of_ofScan? {s : CodeScan} {e : Edge} (h : ofScan? s = some e) : e.Fits s := by
  cases s with
  | clear => cases h; rfl
  | word read => cases h; exact .inr ⟨read, rfl⟩
  | comment => cases h; exact .inr (.inr rfl)
  | literal _ => cases h
  | escape _ => cases h

theorem Fits.run {e : Edge} {s : CodeScan} {content : List Char} (h : e.Fits s) (hmeets : e.meets content = true) :
    s.run content = (s.finish ++ (CodeScan.clear.run content).1, (CodeScan.clear.run content).2) := by
  cases e with
  | clear => cases h; rfl
  | line => cases hmeets
  | word =>
    rcases h with rfl | ⟨read, rfl⟩
    · rfl
    · cases content with
      | nil => cases hmeets
      | cons c rest => exact CodeScan.run_word_of_opens (by simpa [meets] using hmeets)

theorem meets_append {e : Edge} {first : List Char} (h : e.meets first = true) (second : List Char) :
    e.meets (first ++ second) = true := by
  cases e with
  | clear => rfl
  | line => cases h
  | word =>
    cases first with
    | nil => cases h
    | cons c rest => exact h

theorem after?_eq_some_iff {e e' : Edge} {content : List Char} : e.after? content = some e' ↔
    e.meets content = true ∧ ofScan? (CodeScan.clear.run content).2 = some e' := by
  rw [after?, Option.ite_none_right_eq_some]

theorem after?_append {e e' e'' : Edge} {first second : List Char} (hfirst : e.after? first = some e')
    (hsecond : e'.after? second = some e'') : e.after? (first ++ second) = some e'' := by
  obtain ⟨hmeets, hscan⟩ := after?_eq_some_iff.mp hfirst
  obtain ⟨hjoin, hend⟩ := after?_eq_some_iff.mp hsecond
  refine after?_eq_some_iff.mpr ⟨meets_append hmeets second, ?_⟩
  rw [CodeScan.run_append, (fits_of_ofScan? hscan).run hjoin]
  exact hend

theorem after?_word {text : List Char} (h : ∀ c ∈ text, isWordChar c = true) (hne : text ≠ []) :
    clear.after? text = some word := by
  rw [after?, CodeScan.run_clear_word h hne]
  rfl

end Edge

theorem opens_of_isGap {c : Char} (h : isGap c = true) : CodeScan.opens c = ([], .clear) := by
  simp only [isGap, Bool.or_eq_true, beq_iff_eq, or_assoc] at h
  rcases h with rfl | rfl | rfl | rfl | rfl <;> rfl

theorem isWordChar_of_isGap {c : Char} (h : isGap c = true) : isWordChar c = false := by
  simp only [isGap, Bool.or_eq_true, beq_iff_eq, or_assoc] at h
  rcases h with rfl | rfl | rfl | rfl | rfl <;> rfl

namespace CodeScan

theorem run_gaps {text : List Char} (h : text.all isGap = true) : clear.run text = ([], clear) := by
  induction text with
  | nil => rfl
  | cons c text ih =>
    obtain ⟨hc, htext⟩ := Bool.and_eq_true_iff.mp h
    rw [run_cons, step, opens_of_isGap hc, ih htext]
    rfl

theorem run_word_gaps {read text : List Char} (h : text.all isGap = true) (hne : text ≠ []) :
    (word read).run text = ((word read).finish, clear) := by
  cases text with
  | nil => exact absurd rfl hne
  | cons c rest =>
    rw [run_word_of_opens (isWordChar_of_isGap (Bool.and_eq_true_iff.mp h).1), run_gaps h, List.append_nil]

end CodeScan

structure ReadsTo (text : String) (ts : List CodeToken) (e : Edge) : Prop where
  tokens : readTokens text = ts
  edge : e.Fits (CodeScan.clear.run text.toList).2

namespace ReadsTo

variable {text content : String} {ts : List CodeToken} {e e' : Edge}

theorem append (h : ReadsTo text ts e) (hmeets : e.meets content.toList = true)
    (hedge : e'.Fits (CodeScan.clear.run content.toList).2) :
    ReadsTo (text ++ content) (ts ++ readTokens content) e' := by
  have hrun := h.edge.run hmeets
  constructor
  case tokens =>
    rw [← h.tokens]
    simp [readTokens, tokensOfChars, String.toList_append, CodeScan.run_append, hrun]
  case edge =>
    rw [String.toList_append, CodeScan.run_append, hrun]
    exact hedge

theorem append_silent {s s' : CodeScan} (h : ReadsTo text ts e) (hs : (CodeScan.clear.run text.toList).2 = s)
    (hrun : s.run content.toList = (s.finish, s')) (hfinish : s'.finish = []) (hedge : e'.Fits s') :
    ReadsTo (text ++ content) ts e' := by
  constructor
  case tokens =>
    rw [← h.tokens]
    simp [readTokens, tokensOfChars, String.toList_append, CodeScan.run_append, hs, hrun, hfinish]
  case edge =>
    rw [String.toList_append, CodeScan.run_append, hs, hrun]
    exact hedge

theorem of_clear (h : ReadsTo text ts .clear) (e : Edge) : ReadsTo text ts e := ⟨h.tokens, h.edge.of_clear e⟩

theorem to_line (h : ReadsTo text ts e) : ReadsTo text ts .line := ⟨h.tokens, h.edge.to_line⟩

theorem word_or_comment (h : ReadsTo text ts e) :
    ReadsTo text ts .word ∨ (CodeScan.clear.run text.toList).2 = .comment := by
  rcases h.edge.to_line with hs | hs | hs
  · exact .inl ⟨h.tokens, .inl hs⟩
  · exact .inl ⟨h.tokens, .inr hs⟩
  · exact .inr hs

theorem clear_of_gap (h : ReadsTo text ts .word) (hgap : content.toList.all isGap = true)
    (hne : content.toList ≠ []) : ReadsTo (text ++ content) ts .clear := by
  rcases h.edge with hs | ⟨read, hs⟩
  · exact h.append_silent hs (CodeScan.run_gaps hgap) rfl rfl
  · exact h.append_silent hs (CodeScan.run_word_gaps hgap hne) rfl rfl

theorem gap (h : ReadsTo text ts e) (hopen : e ≠ .line) (hgap : content.toList.all isGap = true) :
    ReadsTo (text ++ content) ts e := by
  by_cases hnone : content.toList = []
  · rwa [String.toList_eq_nil_iff.mp hnone, String.append_empty]
  · cases e with
    | clear => exact (h.of_clear .word).clear_of_gap hgap hnone
    | word => exact (h.clear_of_gap hgap hnone).of_clear _
    | line => exact absurd rfl hopen

theorem blanks (h : ReadsTo text ts e) (n : Nat) : ReadsTo (text ++ KindTable.blanks n) ts e := by
  have hblank : ∀ c ∈ (KindTable.blanks n).toList, c = ' ' := by
    intro c hc
    rw [KindTable.blanks, String.toList_ofList] at hc
    exact List.eq_of_mem_replicate hc
  have hgap : (KindTable.blanks n).toList.all isGap = true := by
    rw [List.all_eq_true]
    intro c hc
    rw [hblank c hc]
    rfl
  by_cases hopen : e = .line
  · subst hopen
    rcases h.word_or_comment with hword | hs
    · exact (hword.gap (by decide) hgap).to_line
    · have hrun := CodeScan.run_comment fun hline => absurd (hblank _ hline) (by decide)
      exact h.append_silent hs hrun rfl (.inr (.inr rfl))
  · exact h.gap hopen hgap

theorem newline (h : ReadsTo text ts e) : ReadsTo (text ++ "\n") ts .clear := by
  rcases h.word_or_comment with hword | hs
  · exact hword.clear_of_gap (by decide) (by decide)
  · exact h.append_silent hs (by decide) rfl rfl

end ReadsTo

namespace Layout

theorem reach_append (beyond : Nat) (first second : List Doc) :
    reach beyond (first ++ second) = reach (reach beyond second) first := by
  induction first with
  | nil => rfl
  | cons d rest ih => cases d <;> simp [reach, ih]

theorem writeAll_append (beyond : Nat) (indent : Int) (isBroken : Bool) (p : Page) (first second : List Doc) :
    writeAll beyond indent isBroken p (first ++ second) =
      writeAll beyond indent isBroken (writeAll (reach beyond second) indent isBroken p first) second := by
  induction first generalizing p with
  | nil => rfl
  | cons d rest ih => rw [List.cons_append, writeAll, writeAll, ih, reach_append]

namespace Page

variable {p : Page} {ts : List CodeToken} {e e' : Edge}

theorem reads_put {content : String} (h : ReadsTo p.written ts e) (hafter : e.after? content.toList = some e') :
    ReadsTo (p.put content).written (ts ++ readTokens content) e' := by
  obtain ⟨hmeets, hscan⟩ := Edge.after?_eq_some_iff.mp hafter
  exact (h.blanks p.pending).append hmeets (Edge.fits_of_ofScan? hscan)

theorem reads_putUnlessEmpty (p : Page) {content : String} (h : ReadsTo p.written ts e) (hopen : e ≠ .line)
    (hgap : content.toList.all isGap = true) : ReadsTo (p.putUnlessEmpty content).written ts e := by
  rw [putUnlessEmpty]
  split
  · exact h
  · exact (h.blanks p.pending).gap hopen hgap

theorem reads_fold {f : Fold} (h : ReadsTo p.written ts e) (hopen : e ≠ .line)
    (hgap : ([f.flat, f.before, f.after].all fun text => text.toList.all isGap) = true) (indent : Int)
    (isBroken : Bool) : ReadsTo (p.fold f indent isBroken).written ts e := by
  simp only [List.all_cons, List.all_nil, Bool.and_true, Bool.and_eq_true] at hgap
  obtain ⟨hflat, hbefore, hafter⟩ := hgap
  rw [fold]
  split
  · have hline := (reads_putUnlessEmpty p h hopen hbefore).newline
    exact (reads_putUnlessEmpty _ hline (by decide) hafter).of_clear e
  · exact reads_putUnlessEmpty (p.skip f.blank) h hopen hflat

end Page

end Layout

def Lays (e : Edge) (docs : List Doc) (e' : Edge) : Prop :=
  ∀ beyond indent isBroken (p : Layout.Page) ts, ReadsTo p.written ts e →
    ReadsTo (Layout.writeAll beyond indent isBroken p docs).written (ts ++ tokensOf docs) e'

theorem Lays.readTokens_render {docs : List Doc} {e : Edge} (h : Lays .clear docs e) :
    readTokens (Layout.render docs) = tokensOf docs := by
  have hstart : ReadsTo Layout.Page.start.written [] .clear := ⟨rfl, rfl⟩
  exact (h 0 0 true .start [] hstart).tokens

namespace Lays

variable {e e' e'' : Edge} {first second docs : List Doc}

theorem of_clear (h : Lays e docs .clear) (e' : Edge) : Lays e docs e' :=
  fun beyond indent isBroken p ts hread => (h beyond indent isBroken p ts hread).of_clear e'

theorem to_line (h : Lays e docs e') : Lays e docs .line :=
  fun beyond indent isBroken p ts hread => (h beyond indent isBroken p ts hread).to_line

theorem nil (e : Edge) : Lays e [] e := by
  intro beyond indent isBroken p ts hread
  rwa [tokensOf, List.append_nil]

theorem append (hfirst : Lays e first e') (hsecond : Lays e' second e'') : Lays e (first ++ second) e'' := by
  intro beyond indent isBroken p ts hread
  rw [Layout.writeAll_append, tokensOf_append, ← List.append_assoc]
  exact hsecond _ _ _ _ _ (hfirst _ _ _ _ _ hread)

theorem cons {d : Doc} (hd : Lays e [d] e') (hdocs : Lays e' docs e'') : Lays e (d :: docs) e'' := hd.append hdocs

theorem string {content : String} (h : e.after? content.toList = some e') : Lays e [.text content] e' := by
  intro beyond indent isBroken p ts hread
  have hput := Layout.Page.reads_put hread h
  simpa [Layout.writeAll, Layout.write] using hput

theorem text {content : List Char} (h : e.after? content = some e') : Lays e [.text (.ofList content)] e' :=
  string (by rwa [String.toList_ofList])

theorem name (m : Mention) (h : IsWord m.word) : Lays .clear [.name m] .word := by
  intro beyond indent isBroken p ts hread
  have hput := Layout.Page.reads_put hread (Edge.after?_word h.isWordChar h.toList_ne_nil)
  rw [readTokens_word h.isWordChar h.toList_ne_nil] at hput
  simpa [Layout.writeAll, Layout.write] using hput

theorem seam : Lays e [.seam] e := by
  intro beyond indent isBroken p ts hread
  simpa [Layout.writeAll, Layout.write] using hread

theorem fold {f : Fold} (hopen : e ≠ .line)
    (hgap : ([f.flat, f.before, f.after].all fun text => text.toList.all isGap) = true) : Lays e [.fold f] e := by
  intro beyond indent isBroken p ts hread
  have hfold := Layout.Page.reads_fold hread hopen hgap indent isBroken
  simpa [Layout.writeAll, Layout.write] using hfold

theorem hard (shift : Int) : Lays e [.hard shift] .clear := by
  intro beyond indent isBroken p ts hread
  simpa [Layout.writeAll, Layout.write, Layout.Page.nextLine] using hread.newline

theorem group (extra : Int) (h : Lays e docs e') : Lays e [.group extra docs] e' := by
  intro beyond indent isBroken p ts hread
  simp only [Layout.writeAll, Layout.write, tokensOf_cons, tokensOf_nil, Doc.tokens_group, List.append_nil]
  split
  · exact h _ _ _ _ _ hread
  · exact h _ _ _ _ _ hread

theorem separate {separator : List Doc} (hseparator : Lays e separator .clear) {items : List (List Doc)}
    (h : ∀ item ∈ items, Lays .clear item e) : Lays .clear (separate separator items) e := by
  fun_induction KindTable.separate separator items with
  | case1 => exact (nil .clear).of_clear e
  | case2 last => exact h last List.mem_cons_self
  | case3 item rest hne ih =>
    obtain ⟨hitem, hrest⟩ := List.forall_mem_cons.mp h
    exact (hitem.append hseparator).append (ih hrest)

theorem stackLines {items : List (List Doc)} (h : ∀ item ∈ items, Lays .clear item .line) :
    Lays .clear (stackLines items) .clear := by
  induction items with
  | nil => exact nil .clear
  | cons item rest ih =>
    obtain ⟨hitem, hrest⟩ := List.forall_mem_cons.mp h
    exact (hitem.append (hard 0)).append (ih hrest)

theorem block {head : List Doc} (hhead : Lays e head .word) {items : List (List Doc)}
    (h : ∀ item ∈ items, Lays .clear item .line) : Lays e (block head items) .clear := by
  have hopening : Lays .word [.text "\x7b"] .clear := text (by decide)
  have hclosing : Lays .clear [.text "\x7d"] .clear := text (by decide)
  unfold KindTable.block
  split
  · exact hhead.append (text (by decide))
  · have hitems := separate (hard 0) h
    exact cons (group 4 ((hhead.append (hopening.cons (hard 0))).append hitems |>.append (hard (-4)))) hclosing

theorem bracketed {inner : List Doc} (hopen : e' ≠ .line) (h : Lays .clear inner e') :
    Lays .clear [bracketed inner] e' :=
  group 4 (cons (fold (by decide) (by decide)) (h.append (fold hopen (by decide))))

theorem arrayOf {elements : List (List Doc)} (h : ∀ element ∈ elements, Lays .clear element .word) :
    Lays .clear (arrayOf elements) .clear := by
  have hcomma : Lays .word [.text ","] .clear := text (by decide)
  unfold KindTable.arrayOf
  split
  · exact text (by decide)
  · have hspace : Lays .clear [.fold .space] .clear := fold (by decide) (by decide)
    have helements := separate (hcomma.cons hspace) h
    have hopening : Lays .clear [.text "["] .clear := text (by decide)
    exact hopening.cons ((bracketed (by decide) helements).cons (text (by decide)))

theorem matchArm {pattern result : List Doc} (hpattern : Lays .clear pattern .word)
    (hresult : Lays .clear result .word) : Lays .clear (matchArm pattern result) .word := by
  have harrow : Lays .word [.text " => "] .clear := text (by decide)
  have hopening : Lays .clear [.fold { Fold.nothing with before := "\x7b" }] .clear := fold (by decide) (by decide)
  have hclosing : Lays .word [.fold { Fold.nothing with flat := ",", after := "\x7d", shift := -4 }] .word :=
    fold (by decide) (by decide)
  exact hpattern.append (harrow.cons (seam.cons (group 4 ((hopening.cons hresult).append hclosing))))

theorem docComment {doc : String} (h : CodeScan.clear.run (docComment doc).toList = ([], .comment)) :
    Lays .clear [.text (docComment doc)] .line := by
  apply string
  rw [Edge.after?, h]
  rfl

theorem comment {doc : List Char} (hline : '\n' ∉ doc) (hslash : doc.head? ≠ some '/') :
    Lays .clear [.text (KindTable.docComment (.ofList doc))] .line := docComment (run_comment hline hslash)

theorem stringLiteral {word : String} (h : IsWord word) : Lays .clear [.text (stringLiteral word)] .clear := by
  apply string
  rw [Edge.after?, run_stringLiteral h.isWordChar]
  rfl

theorem numeral (n : Nat) : Lays .clear [.text (toString n)] .word :=
  string (Edge.after?_word isWordChar_of_mem_toString (toList_toString_ne_nil n))

theorem between {before after : List Char} {middle : String} (hmiddle : Edge.clear.after? middle.toList = some .word)
    (hbefore : e.after? before = some .clear) (hafter : Edge.word.after? after = some e') :
    Lays e [.text (.ofList before ++ middle ++ .ofList after)] e' := by
  apply string
  rw [String.toList_append, String.toList_append, String.toList_ofList, String.toList_ofList]
  exact Edge.after?_append (Edge.after?_append hbefore hmiddle) hafter

theorem numeralBetween {before : List Char} (n : Nat) {after : List Char} (hbefore : e.after? before = some .clear)
    (hafter : Edge.word.after? after = some e') :
    Lays e [.text (.ofList before ++ toString n ++ .ofList after)] e' :=
  between (Edge.after?_word isWordChar_of_mem_toString (toList_toString_ne_nil n)) hbefore hafter

theorem openParen : Lays .word [.text "("] .clear := text (by decide)

theorem closeParen : Lays .word [.text ")"] .clear := text (by decide)

theorem blank : Lays .word [.text " "] .word := (text (by decide)).of_clear _

theorem opcodePath {variant : String} (h : IsWord variant) : Lays .clear (OpcodeCode.opcodePath variant) .word := by
  have hopening : Lays .clear [.text "Opcode::"] .clear := text (by decide)
  exact hopening.cons (name _ h)

theorem variantItem {v : Variant} (h : IsWord v.name) : Lays .clear (OpcodeCode.variantItem v) .clear := by
  have hhidden : Lays .clear [.text "#[doc(hidden)]"] .clear := text (by decide)
  have hid : Lays .word [.text (" = " ++ toString v.id ++ ",")] .clear :=
    numeralBetween v.id.toNat (by decide) (by decide)
  have hname : Lays .clear [.name ⟨.variant, v.name⟩] .word := name _ h
  unfold OpcodeCode.variantItem
  split
  · exact (hhidden.cons (hard 0)).append (hname.cons hid)
  · exact hname.cons hid

theorem fromArmItem {a : FromArm} (h : IsWord a.variant) : Lays .clear (OpcodeCode.fromArmItem a) .word := by
  have hsome : Lays .clear [.text "Some("] .clear := text (by decide)
  exact matchArm (numeral a.id.toNat) ((hsome.cons ((bracketed (by decide) (opcodePath h)).cons closeParen)).of_clear _)

theorem nameArmItem {a : NameArm} (hvariant : IsWord a.variant) (hname : IsWord a.name) :
    Lays .clear (OpcodeCode.nameArmItem a) .word :=
  matchArm (opcodePath hvariant) ((stringLiteral hname).of_clear _)

theorem stubLines {item : StubItem} (hnode : IsWord item.node) (htype : IsWord item.typeName) :
    ∀ line ∈ StubCode.lines item, Lays .clear line .line := by
  have hderived : Lays .clear [.text "#[derive(Debug)]"] .clear := text (by decide)
  have hallowed : Lays .clear [.text "#[allow(non_camel_case_types)]"] .clear := text (by decide)
  have hstruct : Lays .clear [.text "pub struct "] .clear := text (by decide)
  have hfield : Lays .clear [.text "_private: (),"] .clear := text (by decide)
  have hitem := block (hstruct.cons ((name ⟨.item, item.typeName⟩ htype).cons blank))
    (List.forall_mem_singleton.mpr hfield.to_line)
  simp only [StubCode.lines, List.forall_mem_cons, List.not_mem_nil, false_imp_iff, implies_true, and_true]
  exact ⟨docComment (run_docCommentOf hnode rfl (by decide)), hderived.to_line, hallowed.to_line, hitem.to_line⟩

theorem methodLines {m : VisitMethod} (hname : IsWord m.name) (hvariant : IsWord m.variant) :
    ∀ line ∈ VisitorCode.methodLines m, Lays .clear line .line := by
  have hfn : Lays .clear [.text "fn "] .clear := text (by decide)
  have hself : Lays .clear [.fold .nothing, .text "&mut self", .fold beforeCloser] .word := by
    have hreceiver : Lays .clear [.text "&mut self"] .word := text (by decide)
    exact cons (fold (by decide) (by decide)) (hreceiver.cons (fold (by decide) (by decide)))
  have houtput : Lays .clear [.text " -> Self::Output"] .word := text (by decide)
  have hhead := hfn.cons ((name ⟨.item, m.name⟩ hname).cons (openParen.cons (seam.cons
    ((group 0 hself).cons (closeParen.cons ((group (-4) houtput).cons blank))))))
  have hfallback : Lays .clear [.text ("self." ++ fallbackMethod)] .word := string (by decide)
  have hcall := hfallback.cons (group (-4)
    (openParen.cons ((bracketed (by decide) (opcodePath hvariant)).cons closeParen)))
  have hitem := block hhead (List.forall_mem_singleton.mpr (group 0 (group 4 hcall)).to_line)
  simp only [VisitorCode.methodLines, List.forall_mem_cons, List.not_mem_nil, false_imp_iff, implies_true, and_true]
  exact ⟨docComment (run_docCommentOf hvariant rfl (by decide)), hitem.to_line⟩

theorem visitCall {method : Doc} {arguments : List Doc} (hmethod : Lays .clear [method] .word)
    (harguments : Lays .clear arguments .word) : Lays .clear [VisitorCode.visitCall method arguments] .word := by
  have hvisitor : Lays .clear [.text "visitor"] .word := text (by decide)
  have hfold : Lays .word [.fold .nothing] .word := fold (by decide) (by decide)
  have hdot : Lays .word [.text "."] .clear := text (by decide)
  have hcall := group 0 ((openParen.append harguments).append closeParen)
  exact (group 4 (hvisitor.cons (hfold.cons (hdot.cons (hmethod.cons hcall))))).of_clear _

theorem armItem {a : VisitArm} (hvariant : IsWord a.variant) (hmethod : ∀ m, a.method = some m → IsWord m) :
    Lays .clear (VisitorCode.armItem a) .word := by
  obtain ⟨variant, method⟩ := a
  have hopcode : Lays .clear [.text "opcode"] .word := text (by decide)
  have hfallback : Lays .clear [.text fallbackMethod] .word := string (by decide)
  cases method with
  | some method =>
    exact matchArm (opcodePath hvariant) (visitCall (name ⟨.item, method⟩ (hmethod method rfl))
      ((nil .clear).of_clear _))
  | none => exact matchArm (opcodePath hvariant) (visitCall hfallback (bracketed (by decide) hopcode))

theorem enumeration {c : OpcodeCode} (h : ∀ v ∈ c.variants, IsWord v.name) :
    ∀ line ∈ c.enumeration, Lays .clear line .line := by
  have hderived : Lays .clear [.text "#[derive(Debug, Clone, Copy, PartialEq, Eq, PartialOrd, Ord, Hash)]"] .clear :=
    text (by decide)
  have hallowed : Lays .clear [.text "#[allow(non_camel_case_types)]"] .clear := text (by decide)
  have hsized : Lays .clear [.text "#[repr(u32)]"] .clear := text (by decide)
  have henum : Lays .clear [.text "pub enum Opcode "] .clear := text (by decide)
  have hitem := block (henum.of_clear .word)
    (List.forall_mem_map.mpr fun v hv => (variantItem (h v hv)).to_line)
  unfold OpcodeCode.enumeration
  cases c.variants.isEmpty <;>
    simp only [Bool.false_eq_true, if_true, if_false, List.append_nil, List.cons_append, List.nil_append,
      List.forall_mem_cons, List.not_mem_nil, false_imp_iff, implies_true, and_true]
  · exact ⟨comment (by decide) (by decide), hderived.to_line, hallowed.to_line, hsized.to_line, hitem.to_line⟩
  · exact ⟨comment (by decide) (by decide), hderived.to_line, hallowed.to_line, hitem.to_line⟩

theorem implementation {c : OpcodeCode} (hall : ∀ v ∈ c.all, IsWord v) (hfrom : ∀ a ∈ c.fromArms, IsWord a.variant)
    (hname : ∀ a ∈ c.nameArms, IsWord a.variant ∧ IsWord a.name) : Lays .clear c.implementation .clear := by
  have himpl : Lays .clear [.text "impl Opcode "] .clear := text (by decide)
  have hconst : Lays .clear [.text ("pub const " ++ OpcodeCode.listingItem ++ ": [Opcode; OPCODE_COUNT] = ")] .clear :=
    between (by decide) (by decide) (by decide)
  have hend : Lays .clear [.text ";"] .clear := text (by decide)
  have hlisting := (hconst.cons seam).append (arrayOf (List.forall_mem_map.mpr fun v hv => opcodePath (hall v hv)))
  have hmatch : Lays .clear [.text "match value "] .clear := text (by decide)
  have hconversion : Lays .clear
      [.text ("pub const fn " ++ OpcodeCode.conversionItem ++ "(value: u32) -> Option<Opcode> ")] .clear :=
    between (by decide) (by decide) (by decide)
  have hrest : Lays .clear (KindTable.matchArm [.text "_"] [.text "None"]) .word :=
    matchArm (text (by decide)) (text (by decide))
  have harms : ∀ arm ∈ c.fromArms.map OpcodeCode.fromArmItem ++ [KindTable.matchArm [.text "_"] [.text "None"]],
      Lays .clear arm .line := by
    refine List.forall_mem_append.mpr ⟨?_, List.forall_mem_singleton.mpr hrest.to_line⟩
    exact List.forall_mem_map.mpr fun a ha => (fromArmItem (hfrom a ha)).to_line
  have hread := block (hconversion.of_clear .word)
    (List.forall_mem_singleton.mpr (block (hmatch.of_clear .word) harms).to_line)
  have hself : Lays .clear [.text "match self "] .clear := text (by decide)
  have hnaming : Lays .clear
      [.text ("pub const fn " ++ OpcodeCode.namingItem ++ "(self) -> &'static str ")] .clear :=
    between (by decide) (by decide) (by decide)
  have hnamed : ∀ arm ∈ c.nameArms.map OpcodeCode.nameArmItem, Lays .clear arm .line :=
    List.forall_mem_map.mpr fun a ha => (nameArmItem (hname a ha).1 (hname a ha).2).to_line
  have hwrite := block (hnaming.of_clear .word)
    (List.forall_mem_singleton.mpr (block (hself.of_clear .word) hnamed).to_line)
  apply block (himpl.of_clear .word)
  simp only [List.forall_mem_cons, List.not_mem_nil, false_imp_iff, implies_true, and_true]
  exact ⟨comment (by decide) (by decide), (hlisting.append hend).to_line, hread.to_line,
    comment (by decide) (by decide), hwrite.to_line⟩

end Lays

section

variable [Toolkit] (slots : List Slot)

theorem lays_opcodes : Lays .clear (CodeSet.ofSlots slots).opcodes.file.body .clear := by
  have hword (slot : Slot) : IsWord slot.name := slot.entry.name.isWord
  have hcount : Lays .clear [.text ("pub const OPCODE_COUNT: usize = " ++ toString slots.length ++ ";")] .clear :=
    .numeralBetween slots.length (by decide) (by decide)
  apply Lays.stackLines
  refine List.forall_mem_append.mpr ⟨Lays.enumeration (List.forall_mem_map.mpr fun slot _ => hword slot), ?_⟩
  simp only [List.forall_mem_cons, List.not_mem_nil, false_imp_iff, implies_true, and_true]
  refine ⟨.comment (by decide) (by decide), hcount.to_line, (Lays.implementation ?_ ?_ ?_).to_line⟩
  · exact List.forall_mem_map.mpr fun slot _ => hword slot
  · exact List.forall_mem_map.mpr fun slot _ => hword slot
  · exact List.forall_mem_map.mpr fun slot _ => ⟨hword slot, hword slot⟩

theorem lays_names : Lays .clear (CodeSet.ofSlots slots).names.file.body .clear := by
  have hopening : Lays .clear
      [.text ("pub static NODE_CLASS_NAMES: [&str; " ++ toString slots.length ++ "] = ")] .clear :=
    .numeralBetween slots.length (by decide) (by decide)
  have hend : Lays .clear [.text ";"] .clear := .text (by decide)
  have hnames : ∀ element ∈ (slots.map Slot.name).map fun name => [Doc.text (stringLiteral name)],
      Lays .clear element .word := by
    simp only [List.forall_mem_map]
    exact fun slot _ => (Lays.stringLiteral slot.entry.name.isWord).of_clear _
  apply Lays.stackLines
  simp only [List.forall_mem_cons, List.not_mem_nil, false_imp_iff, implies_true, and_true]
  exact ⟨.comment (by decide) (by decide), (((hopening.cons .seam).append (.arrayOf hnames)).append hend).to_line⟩

theorem lays_stubs : Lays .clear (CodeSet.ofSlots slots).stubs.file.body .clear := by
  apply Lays.stackLines
  intro line hline
  obtain ⟨item, hitem, hline⟩ := List.mem_flatMap.mp hline
  obtain ⟨slot, -, hslot⟩ := List.mem_filterMap.mp hitem
  split at hslot
  · cases hslot
  · cases hslot
    exact Lays.stubLines slot.entry.name.isWord (isWord_typeName slot.entry.name) line hline

theorem lays_visitor [LawfulNaming] : Lays .clear (CodeSet.ofSlots slots).visitor.file.body .clear := by
  have huse : Lays .clear [.text "use super::opcodes::Opcode;"] .clear := .text (by decide)
  have htrait : Lays .clear [.text "pub trait NodeVisitor "] .clear := .text (by decide)
  have htype : Lays .clear [.text "type Output;"] .clear := .text (by decide)
  have hfallback : Lays .clear
      [.text ("fn " ++ fallbackMethod ++ "(&mut self, opcode: Opcode) -> Self::Output;")] .clear :=
    .between (by decide) (by decide) (by decide)
  have hmethods : ∀ line ∈ (CodeSet.ofSlots slots).visitor.methods.flatMap VisitorCode.methodLines,
      Lays .clear line .line := by
    intro line hline
    obtain ⟨m, hm, hline⟩ := List.mem_flatMap.mp hline
    obtain ⟨slot, -, hslot⟩ := List.mem_filterMap.mp hm
    obtain ⟨method, hmethod, rfl⟩ := Option.map_eq_some_iff.mp hslot
    exact Lays.methodLines ((isLegal_method hmethod).isWord) slot.entry.name.isWord line hline
  have hinterface := Lays.block (htrait.of_clear .word)
    (List.forall_mem_cons.mpr ⟨htype.to_line, List.forall_mem_cons.mpr ⟨hfallback.to_line, hmethods⟩⟩)
  have hdispatch : Lays .clear
      [.text "pub fn dispatch<V: NodeVisitor + ?Sized>(visitor: &mut V, opcode: Opcode) -> V::Output "] .clear :=
    .text (by decide)
  have hmatch : Lays .clear [.text "match opcode "] .clear := .text (by decide)
  have harms : ∀ arm ∈ (CodeSet.ofSlots slots).visitor.arms.map VisitorCode.armItem, Lays .clear arm .line := by
    refine List.forall_mem_map.mpr (List.forall_mem_map.mpr fun slot _ => (Lays.armItem ?_ ?_).to_line)
    · exact slot.entry.name.isWord
    · exact fun method hmethod => (isLegal_method hmethod).isWord
  have hcall := Lays.block (hdispatch.of_clear .word)
    (List.forall_mem_singleton.mpr (Lays.block (hmatch.of_clear .word) harms).to_line)
  apply Lays.stackLines
  simp only [List.forall_mem_cons, List.not_mem_nil, false_imp_iff, implies_true, and_true]
  exact ⟨huse.to_line, .comment (by decide) (by decide), hinterface.to_line, .comment (by decide) (by decide),
    hcall.to_line⟩

end

instance : LawfulLayout where
  layout_file slots f hf := by
    simp only [CodeSet.files, List.mem_cons, List.not_mem_nil, or_false] at hf
    rcases hf with rfl | rfl | rfl | rfl
    · exact (lays_opcodes slots).readTokens_render
    · exact (lays_names slots).readTokens_render
    · exact (lays_stubs slots).readTokens_render
    · exact (lays_visitor slots).readTokens_render

end KindTable
