import KindTable.Unicode.LineClass

namespace KindTable.Unicode

namespace LineClass

def isWord (c : LineClass) : Bool := c = letter || c = hebrew || c = dottedCircle

def isHangul (c : LineClass) : Bool :=
  c = jamoLead || c = jamoVowel || c = jamoTail || c = syllable || c = closedSyllable

def isPicture (c : LineClass) : Bool := c = ideograph || c = emoji || c = emojiModifier

def isOpening (c : LineClass) : Bool := c = opening || c = wideOpening

def isClosing (c : LineClass) : Bool := c = closing || c = closingParen

def isMeasure (c : LineClass) : Bool := c = currency || c = unit

def isMark (c : LineClass) : Bool := c = combining || c = zeroJoiner

def isQuotation (c : LineClass) : Bool := c = quotation || c = openQuotation || c = closeQuotation

def isAksara (c : LineClass) : Bool := c = aksara || c = aksaraStart || c = dottedCircle

def isVirama (c : LineClass) : Bool := c = virama || c = finalVirama

def staysBehind (c : LineClass) : Bool :=
  c.isClosing || c = wordJoiner || c = exclamation || c = separator || c = slash

def precedesOpenQuotation (c : LineClass) : Bool :=
  c = hard || c.isOpening || c.isQuotation || c = glue || c = space || c = zeroSpace

def followsCloseQuotation (c : LineClass) : Bool :=
  c.staysBehind || c = space || c = glue || c.isQuotation || c = hard || c = zeroSpace

def joinsWord (before after : LineClass) : Bool :=
  (before.isWord && (after.isWord || after = numeric || after.isMeasure || after = opening)) ||
    (after.isWord && (before = numeric || before.isMeasure || before = separator || before = closingParen)) ||
    (before = slash && after = hebrew)

def joinsNumber (before after : LineClass) : Bool :=
  ((before.isClosing || before = numeric) && after.isMeasure) || (before.isMeasure && after.isOpening) ||
    (after = numeric && (before.isMeasure || before = hyphen || before = separator || before = numeric ||
      before = slash || before = closingParen)) ||
    (before = numeric && after = opening)

def joinsHangul (before after : LineClass) : Bool :=
  (before = jamoLead && after.isHangul && after != jamoTail) ||
    ((before = jamoVowel || before = syllable) && (after = jamoVowel || after = jamoTail)) ||
    ((before = jamoTail || before = closedSyllable) && after = jamoTail) ||
    (before.isHangul && after = unit) || (before = currency && after.isHangul)

def joinsAksara (before after : LineClass) : Bool :=
  (before = aksaraLead && after.isAksara) || (before.isAksara && after.isVirama)

def joins (before after : LineClass) : Bool :=
  if before = wordJoiner || before = glue || before.isQuotation || after.isQuotation then true
  else if after = glue then before != breakAfter && before != hyphen
  else if before = contingent || after = contingent then false
  else
    after = breakAfter || after = hyphen || after = nonStarter || after = inseparable || before = breakBefore ||
      joinsWord before after || joinsNumber before after || joinsHangul before after || joinsAksara before after ||
      (before = currency && after.isPicture) || (before.isPicture && after = unit) ||
      (before = emoji && after = emojiModifier)

def pairs (before after : LineClass) : Bool :=
  (before = regional && after = regional) || (before.isAksara && after.isAksara)

def follower? (rest : List LineClass) : Option LineClass := rest.find? fun c => !c.isMark

end LineClass

structure LinePlace where
  earlier : Option LineClass
  before : Option LineClass
  isSpaced : Bool
  isJoined : Bool
  isPaired : Bool
  deriving DecidableEq, Repr

namespace LinePlace

def start : LinePlace := ⟨none, none, false, false, false⟩

def isBehind (p : LinePlace) (c : LineClass) : Bool := p.before = some c && !p.isSpaced

def absorbs (p : LinePlace) (c : LineClass) : Bool :=
  c.isMark && !p.isSpaced && p.before.any fun b => b != .hard && b != .zeroSpace

def completes (p : LinePlace) (c : LineClass) : Bool := !p.isSpaced && !p.isPaired && p.before.any (·.pairs c)

def next (p : LinePlace) (c : LineClass) : LinePlace :=
  if c = .space then { p with isSpaced := true, isJoined := false }
  else if p.absorbs c then { p with isJoined := c = .zeroJoiner }
  else
    ⟨if p.isSpaced then some .space else p.before, some (if c.isMark then .letter else c), false, c = .zeroJoiner,
      p.completes c⟩

def isQuoting (p : LinePlace) : Bool := p.before = some .openQuotation && p.earlier.all (·.precedesOpenQuotation)

def isHebrewHyphen (p : LinePlace) : Bool :=
  p.earlier = some .hebrew && (p.before = some .hyphen || p.before = some .breakAfter)

def isStacking (p : LinePlace) : Bool := p.before = some .virama && p.earlier.any (·.isAksara)

def endsSyllables (p : LinePlace) : Bool := p.isPaired && !p.isSpaced && p.before.any (·.isAksara)

def cutsSyllables (p : LinePlace) (c : LineClass) : Bool :=
  !c.isVirama && !(p.before = some .dottedCircle && c = .opening)

def closesQuotation (c : LineClass) (rest : List LineClass) : Bool :=
  c = .closeQuotation && (LineClass.follower? rest).all (·.followsCloseQuotation)

def joinsAcross (p : LinePlace) (before after : LineClass) : Bool :=
  before.isOpening || p.isQuoting || (before.isClosing && after = .nonStarter) ||
    (before = .breakAround && after = .breakAround)

def joinsBeside (p : LinePlace) (before after : LineClass) (rest : List LineClass) : Bool :=
  before.joins after || (p.isHebrewHyphen && after != .contingent) ||
    (p.isStacking && (after = .aksara || after = .dottedCircle)) || (before = .regional && p.completes after) ||
    (before.isAksara && after.isAksara && LineClass.follower? rest = some .finalVirama)

def canBreak (p : LinePlace) (c : LineClass) (rest : List LineClass) : Bool :=
  if p.isBehind .hard then true
  else if !p.isJoined && !p.absorbs c && p.endsSyllables then p.cutsSyllables c
  else if c = .hard || c = .space || c = .zeroSpace then false
  else if p.before = some .zeroSpace then true
  else if p.isJoined || p.absorbs c || c.staysBehind || closesQuotation c rest then false
  else
    let after := if c.isMark then .letter else c
    match p.before with
    | none => p.isSpaced
    | some before => !p.joinsAcross before after && (p.isSpaced || !p.joinsBeside before after rest)

end LinePlace

def lineBreaks (place : LinePlace) : List LineClass → List Bool
  | [] => []
  | c :: rest => place.canBreak c rest :: lineBreaks (place.next c) rest

end KindTable.Unicode

namespace KindTable

open Unicode (LineClass)

def isHyphen (c : Char) : Bool := c = '-' || c = '\u00ad'

def withoutFirst : List Bool → List Bool
  | [] => []
  | true :: rest => false :: rest
  | false :: rest => false :: withoutFirst rest

def lineCuts (line : List Char) : List Bool :=
  let breaks := Unicode.lineBreaks .start (line.map LineClass.ofChar)
  let cuts := false :: line.zipWith (fun c canBreak => canBreak && !isHyphen c) breaks.tail
  if line.getLast?.any isHyphen then (withoutFirst cuts.reverse).reverse else cuts

end KindTable
