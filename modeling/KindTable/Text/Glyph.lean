namespace KindTable

inductive Glyph where
  | plain (c : Char)
  | control (sequence : List Char)
  deriving DecidableEq, Repr

namespace Glyph

def text : Glyph → List Char
  | plain c => [c]
  | control sequence => sequence

def plain? : Glyph → Option Char
  | plain c => some c
  | control _ => none

def escape : Char := '\x1b'

def bell : Char := '\x07'

inductive Progress where
  | outside
  | begun
  | parameters (read : List Char)
  | command (read : List Char)
  deriving DecidableEq, Repr

namespace Progress

def read : Progress → List Char
  | outside => []
  | begun => [escape]
  | parameters read => read
  | command read => read

def unfinished (p : Progress) : List Glyph := if p.read.isEmpty then [] else [.control p.read.reverse]

end Progress

def endsParameters (c : Char) : Bool := '@' ≤ c && c ≤ '~'

def endsCommand (read : List Char) (c : Char) : Bool := c = bell || (c = '\\' && read.head? = some escape)

def readFrom : Progress → List Char → List Glyph
  | p, [] => p.unfinished
  | .outside, c :: rest => if c = escape then readFrom .begun rest else .plain c :: readFrom .outside rest
  | .begun, c :: rest =>
    if c = '[' then readFrom (.parameters [c, escape]) rest
    else if c = ']' then readFrom (.command [c, escape]) rest
    else .control [escape, c] :: readFrom .outside rest
  | .parameters read, c :: rest =>
    if endsParameters c then .control (c :: read).reverse :: readFrom .outside rest
    else readFrom (.parameters (c :: read)) rest
  | .command read, c :: rest =>
    if endsCommand read c then .control (c :: read).reverse :: readFrom .outside rest
    else readFrom (.command (c :: read)) rest

def ofText (line : List Char) : List Glyph := readFrom .outside line

end Glyph

def shown (text : List Char) : List Char := (Glyph.ofText text).filterMap Glyph.plain?

end KindTable
