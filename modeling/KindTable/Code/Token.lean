import KindTable.Identifier
import KindTable.Layout

namespace KindTable

inductive CodeToken where
  | word (text : String)
  | literal (written : String)
  | sign (char : Char)
  deriving DecidableEq, Repr

-- Commas and braces are left to the layout: a broken list ends with a comma, a broken arm stands between braces.
def isGap (c : Char) : Bool := c == ' ' || c == '\n' || c == ',' || c == '\x7b' || c == '\x7d'

inductive CodeScan where
  | clear
  | word (read : List Char)
  | literal (read : List Char)
  | escape (read : List Char)
  | comment
  deriving DecidableEq, Repr

namespace CodeScan

def opens (c : Char) : List CodeToken × CodeScan :=
  if isWordChar c then ([], .word [c])
  else if c = '"' then ([], .literal [])
  else if c = '/' then ([], .comment)
  else if isGap c then ([], .clear)
  else ([.sign c], .clear)

def finish : CodeScan → List CodeToken
  | word read => [.word (.ofList read.reverse)]
  | _ => []

def step (s : CodeScan) (c : Char) : List CodeToken × CodeScan :=
  match s with
  | clear => opens c
  | word read => if isWordChar c then ([], .word (c :: read)) else (s.finish ++ (opens c).1, (opens c).2)
  | literal read =>
    if c = '"' then ([.literal (.ofList read.reverse)], .clear)
    else ([], if c = '\\' then .escape (c :: read) else .literal (c :: read))
  | escape read => ([], .literal (c :: read))
  | comment => ([], if c = '\n' then .clear else .comment)

def run (s : CodeScan) : List Char → List CodeToken × CodeScan
  | [] => ([], s)
  | c :: text =>
    let (first, s) := s.step c
    let (rest, s) := s.run text
    (first ++ rest, s)

theorem run_cons (s : CodeScan) (c : Char) (text : List Char) :
    s.run (c :: text) = ((s.step c).1 ++ ((s.step c).2.run text).1, ((s.step c).2.run text).2) := rfl

theorem run_append (s : CodeScan) (first second : List Char) : s.run (first ++ second) =
    ((s.run first).1 ++ ((s.run first).2.run second).1, ((s.run first).2.run second).2) := by
  induction first generalizing s with
  | nil => rfl
  | cons c first ih => rw [List.cons_append, run_cons, run_cons, ih, List.append_assoc]

theorem run_word_of_opens {read text : List Char} {c : Char} (hc : isWordChar c = false) :
    (word read).run (c :: text) = ((word read).finish ++ (clear.run (c :: text)).1, (clear.run (c :: text)).2) := by
  simp [run_cons, step, hc]

end CodeScan

def tokensOfChars (text : List Char) : List CodeToken :=
  let (tokens, s) := CodeScan.clear.run text
  tokens ++ s.finish

def readTokens (text : String) : List CodeToken := tokensOfChars text.toList

theorem readTokens_ofList (text : List Char) : readTokens (.ofList text) = tokensOfChars text := by
  rw [readTokens, String.toList_ofList]

mutual

def Doc.tokens : Doc → List CodeToken
  | .text content => readTokens content
  | .name m => [.word m.word]
  | .group _ body => tokensOf body
  | _ => []

def tokensOf : List Doc → List CodeToken
  | [] => []
  | d :: rest => d.tokens ++ tokensOf rest

end

-- Rewriting by these leaves the kernel nothing to evaluate, as unfolding the definitions would.
section

@[simp] theorem Doc.tokens_text (content : String) : (Doc.text content).tokens = readTokens content := by rw [tokens]

@[simp] theorem Doc.tokens_name (m : Mention) : (Doc.name m).tokens = [.word m.word] := by rw [tokens]

@[simp] theorem Doc.tokens_seam : Doc.seam.tokens = [] := by simp [tokens]

@[simp] theorem Doc.tokens_fold (f : Fold) : (Doc.fold f).tokens = [] := by simp [tokens]

@[simp] theorem Doc.tokens_hard (shift : Int) : (Doc.hard shift).tokens = [] := by simp [tokens]

@[simp] theorem Doc.tokens_group (indent : Int) (body : List Doc) : (Doc.group indent body).tokens = tokensOf body := by
  rw [tokens]

@[simp] theorem tokensOf_nil : tokensOf [] = [] := by rw [tokensOf]

@[simp] theorem tokensOf_cons (d : Doc) (rest : List Doc) : tokensOf (d :: rest) = d.tokens ++ tokensOf rest := by
  rw [tokensOf]

end

@[simp] theorem tokensOf_append (first second : List Doc) :
    tokensOf (first ++ second) = tokensOf first ++ tokensOf second := by
  induction first with
  | nil => rfl
  | cons d rest ih => rw [List.cons_append, tokensOf_cons, tokensOf_cons, ih, List.append_assoc]

end KindTable
