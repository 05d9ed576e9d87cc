import KindTable.Text.Glyph
import KindTable.Text.LineBreak
import KindTable.Text.Split
import KindTable.Unicode.Width
import KindTable.Unicode.Word

namespace KindTable

def Glyph.width : Glyph → Nat
  | plain c => Unicode.laterWidth c
  | control _ => 0

def textWidth (text : List Char) : Nat := (Glyph.ofText text).foldr (fun g width => g.width + width) 0

def cutPieces (cuts : List Bool) (piece : List Char) : List Glyph → List (List Char)
  | [] => [piece.reverse]
  | g :: rest =>
    let cutsLeft := match g with
      | .plain _ => cuts.tail
      | .control _ => false :: cuts.tail
    if cuts.head? = some true then piece.reverse :: cutPieces cutsLeft g.text.reverse rest
    else cutPieces cutsLeft (g.text.reverse ++ piece) rest

def linePieces (line : List Char) : List (List Char) := cutPieces (lineCuts (shown line)) [] (Glyph.ofText line)

structure Fragment where
  text : List Char
  blank : Nat
  deriving DecidableEq, Repr

namespace Fragment

def width (f : Fragment) : Nat := textWidth f.text

def ofPiece (piece : List Char) : Fragment :=
  let text := (piece.reverse.dropWhile (· = ' ')).reverse
  ⟨text, piece.length - text.length⟩

def ofLine (line : List Char) : List Fragment := (linePieces line).map ofPiece

def cutHyphens (piece : List Char) : List Char → List (List Char)
  | [] => [piece.reverse]
  | [c] => [(c :: piece).reverse]
  | c :: next :: rest =>
    if c = '-' && piece.head?.any Unicode.isAlphanumeric && Unicode.isAlphanumeric next then
      (c :: piece).reverse :: cutHyphens [] (next :: rest)
    else cutHyphens (c :: piece) (next :: rest)

def cutWide (room used : Nat) (piece : List Char) : List Glyph → List (List Char)
  | [] => [piece.reverse]
  | g :: rest =>
    if 0 < used && room < used + g.width then piece.reverse :: cutWide room g.width g.text.reverse rest
    else cutWide room (used + g.width) (g.text.reverse ++ piece) rest

def withBlank (blank : Nat) : List (List Char) → List Fragment
  | [] => []
  | [last] => [⟨last, blank⟩]
  | piece :: rest => ⟨piece, 0⟩ :: withBlank blank rest

def splitHyphens (f : Fragment) : List Fragment := withBlank f.blank (cutHyphens [] f.text)

def splitWide (room : Nat) (f : Fragment) : List Fragment :=
  if room < f.width then withBlank f.blank (cutWide room 0 [] (Glyph.ofText f.text)) else [f]

def fill (room used : Nat) (line : List Fragment) : List Fragment → List (List Fragment)
  | [] => [line]
  | f :: rest =>
    if room < used + f.width && !line.isEmpty then line :: fill room (f.width + f.blank) [f] rest
    else fill room (used + f.width + f.blank) (line ++ [f]) rest

def lineText : List Fragment → List Char
  | [] => []
  | [last] => last.text
  | f :: rest => f.text ++ List.replicate f.blank ' ' ++ lineText rest

end Fragment

def wrapLine (room : Nat) (line : List Char) : List String :=
  let fragments := (Fragment.ofLine line).flatMap Fragment.splitHyphens
  (Fragment.fill room 0 [] (fragments.flatMap (·.splitWide room))).map (.ofList ∘ Fragment.lineText)

def wrapText (width : Nat) (firstLead otherLead text : String) : List String :=
  let room := width - textWidth otherLead.toList
  match (splitAt '\n' text.toList).flatMap (wrapLine room) with
  | [] => []
  | first :: rest => (firstLead ++ first) :: rest.map (otherLead ++ ·)

end KindTable
