import KindTable.Code.Spelling
import KindTable.Text.Pad

namespace KindTable

structure Fold where
  blank : Nat
  flat : String
  before : String
  after : String
  shift : Int
  deriving DecidableEq, Repr

namespace Fold

def nothing : Fold := ⟨0, "", "", "", 0⟩

def space : Fold := { nothing with blank := 1 }

end Fold

inductive Doc where
  | text (content : String)
  | name (mention : Mention)
  | seam
  | fold (fold : Fold)
  | hard (shift : Int)
  | group (indent : Int) (body : List Doc)

mutual

def Doc.mentions : Doc → List Mention
  | .name m => [m]
  | .group _ body => mentionsOf body
  | _ => []

def mentionsOf : List Doc → List Mention
  | [] => []
  | d :: rest => d.mentions ++ mentionsOf rest

end

@[simp] theorem mentionsOf_append (first second : List Doc) :
    mentionsOf (first ++ second) = mentionsOf first ++ mentionsOf second := by
  induction first with
  | nil => rfl
  | cons d rest ih => rw [List.cons_append, mentionsOf, mentionsOf, ih, List.append_assoc]

namespace Layout

def margin : Int := 89

def leastRoom : Int := 60

def unbounded : Nat := 65535

mutual

def flatWidth : Doc → Nat
  | .text content => content.utf8ByteSize
  | .name m => m.word.utf8ByteSize
  | .seam => 0
  | .fold f => f.blank
  | .hard _ => unbounded
  | .group _ body => flatWidths body

def flatWidths : List Doc → Nat
  | [] => 0
  | d :: rest => flatWidth d + flatWidths rest

end

def reach (beyond : Nat) : List Doc → Nat
  | [] => beyond
  | .text content :: rest => content.utf8ByteSize + reach beyond rest
  | .name m :: rest => m.word.utf8ByteSize + reach beyond rest
  | .group _ body :: rest => flatWidths body + reach beyond rest
  | _ :: _ => 0

structure Page where
  written : String
  pending : Nat
  room : Int

namespace Page

def start : Page := ⟨"", 0, margin⟩

def put (p : Page) (content : String) : Page :=
  ⟨p.written ++ blanks p.pending ++ content, 0, p.room - content.utf8ByteSize⟩

def skip (p : Page) (blank : Nat) : Page := ⟨p.written, p.pending + blank, p.room - blank⟩

def nextLine (p : Page) (indent : Int) : Page := ⟨p.written ++ "\n", indent.toNat, max (margin - indent) leastRoom⟩

def putUnlessEmpty (p : Page) (content : String) : Page := if content.isEmpty then p else p.put content

def fold (p : Page) (f : Fold) (indent : Int) (isBroken : Bool) : Page :=
  if isBroken then ((p.putUnlessEmpty f.before).nextLine (indent + f.shift)).putUnlessEmpty f.after
  else (p.skip f.blank).putUnlessEmpty f.flat

end Page

mutual

def write (beyond : Nat) (indent : Int) (isBroken : Bool) (p : Page) : Doc → Page
  | .text content => p.put content
  | .name m => p.put m.word
  | .seam => p
  | .fold f => p.fold f indent isBroken
  | .hard shift => p.nextLine (indent + shift)
  | .group extra body =>
    if p.room < flatWidths body + beyond then writeAll beyond (indent + extra) true p body
    else writeAll beyond indent false p body

def writeAll (beyond : Nat) (indent : Int) (isBroken : Bool) (p : Page) : List Doc → Page
  | [] => p
  | d :: rest => writeAll beyond indent isBroken (write (reach beyond rest) indent isBroken p d) rest

end

def render (docs : List Doc) : String := (writeAll 0 0 true .start docs).written

end Layout

end KindTable
