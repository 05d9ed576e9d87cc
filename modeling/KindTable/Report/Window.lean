import KindTable.Source.Span

namespace KindTable

structure LineBreak where
  first : Nat
  last : Nat
  deriving DecidableEq, Repr

def lineBreaks (offset : Nat) : List Char → List LineBreak
  | [] => []
  | '\r' :: '\n' :: rest => ⟨offset, offset + 1⟩ :: lineBreaks (offset + 2) rest
  | c :: rest =>
    if c = '\r' || c = '\n' then ⟨offset, offset⟩ :: lineBreaks (offset + 1) rest
    else lineBreaks (offset + c.utf8Size) rest

structure SourceText where
  chars : List Char
  breaks : List LineBreak
  length : Nat

def SourceText.ofString (source : String) : SourceText :=
  let chars := source.toList
  ⟨chars, lineBreaks 0 chars, utf8Length chars⟩

structure Window where
  start : Nat
  stop : Nat
  line : Nat
  breaks : Nat
  deriving DecidableEq, Repr

namespace Window

def breaksBefore (breaks : List LineBreak) (s : Span) : List LineBreak := breaks.filter (·.last < s.start)

def breaksAfter (breaks : List LineBreak) (s : Span) : List LineBreak := breaks.filter (max s.stop 1 ≤ ·.first)

def around (source : SourceText) (s : Span) : Window :=
  let before := breaksBefore source.breaks s
  let stop := match (breaksAfter source.breaks s)[1]? with
    | some b => b.last + 1
    | none => source.length
  { start := match before.reverse[1]? with
      | some b => b.last + 1
      | none => 0
    stop
    line := before.length - 1
    breaks := (source.breaks.filter (·.first < stop)).length }

def meets (w v : Window) : Bool := v.line ≤ w.line + w.breaks

end Window

def placeOf (breaks : List LineBreak) (s : Span) : Nat × Nat :=
  let before := Window.breaksBefore breaks s
  let lineStart := match before.getLast? with
    | some b => b.last + 1
    | none => 0
  let crossed := breaks.any fun b => lineStart ≤ b.first && b.first < s.start
  (before.length + 1, s.start - lineStart - (if crossed then 1 else 0) + 1)

def dropBytes (count : Nat) : List Char → List Char
  | [] => []
  | c :: rest => if count = 0 then c :: rest else dropBytes (count - c.utf8Size) rest

def takeBytes (count : Nat) : List Char → List Char
  | [] => []
  | c :: rest => if count = 0 then [] else c :: takeBytes (count - c.utf8Size) rest

def Window.textOf (w : Window) (text : List Char) : List Char := takeBytes (w.stop - w.start) (dropBytes w.start text)

end KindTable
