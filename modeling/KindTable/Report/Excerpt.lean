import KindTable.Report.Window
import KindTable.Source.Defect
import KindTable.Text.Pad
import KindTable.Unicode.Width

namespace KindTable

structure ExcerptLine where
  number : Nat
  offset : Nat
  length : Nat
  text : List Char
  deriving DecidableEq, Repr

def excerptLines (number offset : Nat) (held : List Char) : List Char → List ExcerptLine
  | [] =>
    if held.isEmpty then []
    else [⟨if held.head? = some '\r' then number else number + 1, offset, utf8Length held, held.reverse⟩]
  | '\r' :: '\n' :: rest =>
    let length := utf8Length held + 2
    ⟨number + 1, offset, length, held.reverse⟩ :: excerptLines (number + 1) (offset + length) [] rest
  | c :: rest =>
    if c = '\n' then
      let length := utf8Length held + 1
      ⟨number + 1, offset, length, held.reverse⟩ :: excerptLines (number + 1) (offset + length) [] rest
    else excerptLines number offset (c :: held) rest

def tabWidth : Nat := 4

def columnWidths (column : Nat) (inEscape : Bool) : List Char → List Nat
  | [] => []
  | c :: rest =>
    if inEscape then 0 :: columnWidths column (c != 'm') rest
    else if c = '\x1b' then 0 :: columnWidths column true rest
    else
      let width := if c = '\t' then tabWidth - column % tabWidth else Unicode.width c
      width :: columnWidths (column + width) false rest

def columnsOf (text : List Char) : Nat := (columnWidths 0 false text).foldr (· + ·) 0

def expandTabs (text : List Char) : String :=
  .join ((text.zip (columnWidths 0 false text)).map fun (c, width) => if c = '\t' then blanks width else c.toString)

namespace ExcerptLine

def holds (l : ExcerptLine) (s : Span) : Bool := l.offset ≤ s.start && s.start < l.offset + l.length

def columnOf (l : ExcerptLine) (place : Nat) : Nat :=
  let bytes := place - l.offset
  columnsOf (takeBytes bytes l.text) + (if utf8Length l.text < bytes then 1 else 0)

end ExcerptLine

structure Underline where
  start : Nat
  middle : Nat
  stop : Nat
  deriving DecidableEq, Repr

namespace Underline

def ofSpan (l : ExcerptLine) (s : Span) : Underline :=
  let start := l.columnOf s.start
  let stop := max (l.columnOf s.stop) (start + 1)
  ⟨start, (start + stop) / 2, stop⟩

def rule (count : Nat) : String := .ofList (List.replicate count '─')

def marks (u : Underline) : String :=
  blanks u.start ++ rule (u.middle - u.start) ++ "┬" ++ rule (u.stop - u.middle - 1)

def pointer (u : Underline) (text : String) : String := blanks u.middle ++ "╰── " ++ text

end Underline

structure Excerpt where
  place : Nat × Nat
  lines : List ExcerptLine
  labels : List Label

namespace Excerpt

def gutterWidth (e : Excerpt) : Nat :=
  match e.lines.getLast? with
  | some l => (toString l.number).length
  | none => 1

def numberGutter (width number : Nat) : String := " " ++ padLeft width (toString number) ++ " │ "

def blankGutter (width : Nat) : String := blanks (width + 2) ++ "· "

def labelText (width : Nat) (l : ExcerptLine) (label : Label) : List String :=
  let underline := Underline.ofSpan l label.span
  [blankGutter width ++ underline.marks, blankGutter width ++ underline.pointer label.text]

def lineText (e : Excerpt) (l : ExcerptLine) : List String :=
  (numberGutter e.gutterWidth l.number ++ expandTabs l.text) ::
    (e.labels.filter (l.holds ·.span)).flatMap (labelText e.gutterWidth l)

def text (e : Excerpt) (origin : String) : List String :=
  [blanks (e.gutterWidth + 2) ++ "╭─[" ++ origin ++ ":" ++ toString e.place.1 ++ ":" ++ toString e.place.2 ++ "]"] ++
    e.lines.flatMap e.lineText ++ [blanks (e.gutterWidth + 2) ++ "╰────"]

end Excerpt

structure Scene where
  span : Span
  window : Window
  deriving DecidableEq, Repr

def mergeScenes (around : Span → Window) : List Scene → List Scene
  | [] => []
  | [last] => [last]
  | first :: second :: rest =>
    if first.window.meets second.window then
      let span : Span := ⟨first.span.start, max first.span.stop second.span.stop⟩
      mergeScenes around (⟨span, around span⟩ :: rest)
    else first :: mergeScenes around (second :: rest)
termination_by scenes => scenes.length

def sortLabels (labels : List Label) : List Label := labels.mergeSort fun a b => a.span.start ≤ b.span.start

namespace Scene

def covers (s : Scene) (l : Label) : Bool := s.span.start ≤ l.span.start && l.span.stop ≤ s.span.stop

def leading? (s : Scene) (labels : List Label) : Option Label :=
  let covered := labels.filter s.covers
  match covered.find? (·.isPrimary) with
  | some l => some l
  | none => covered.head?

def excerpt (source : SourceText) (labels : List Label) (s : Scene) : Excerpt where
  place := placeOf source.breaks (match s.leading? labels with
    | some l => l.span
    | none => s.span)
  lines := excerptLines s.window.line s.window.start [] (s.window.textOf source.chars)
  labels := labels

end Scene

def excerptsOf (source : SourceText) (labels : List Label) : List Excerpt :=
  let around := Window.around source
  let labels := sortLabels labels
  (mergeScenes around (labels.map fun l => ⟨l.span, around l.span⟩)).map (Scene.excerpt source labels)

end KindTable
