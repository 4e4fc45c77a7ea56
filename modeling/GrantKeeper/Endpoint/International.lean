import GrantKeeper.Endpoint.Barred
import GrantKeeper.Endpoint.Punycode
import GrantKeeper.Text.Caseless
import GrantKeeper.Text.Composed
import GrantKeeper.Text.Direction

/-! Domain names beyond ASCII. A name is caseless and composed; each label of it has
characters that may stand in names, joiners only where a script needs them and, in a
name with letters from right to left, one direction. In ASCII it is punycode. -/
namespace GrantKeeper.Endpoint.International
open Text (Direction)

def nonJoiner : Char := '\u200c'
def joiner : Char := '\u200d'

def isKept (c : Char) : Bool := c = '\xdf' || c = '\u03c2' || c = nonJoiner || c = joiner

def isFullStop (c : Char) : Bool := c = '\u3002' || c = '\uff61'

def ignoredRuns : List Text.Run :=
  Text.Run.listOfText
    "AD,34F,115F-1160,17B4-17B5,180B-180F,200B,2060-2064,206A-206F,3164,FE00-FE0F,FEFF,FFA0,
1BCA0-1BCA3,1D173-1D17A,E0100-E01EF"

def mapChar (c : Char) : List Char :=
  if isKept c then [c]
  else if isFullStop c then ['.']
  else if Text.covers ignoredRuns c then []
  else Text.caseless c

def normalize (cs : List Char) : List Char := Text.composed (cs.flatMap mapChar)

def isAscii (c : Char) : Bool := c.toNat < 0x80

def divides (before after : List Char) : Bool :=
  (before.dropWhile Text.joinsThrough).head?.any Text.joinsAfter &&
    (after.dropWhile Text.joinsThrough).head?.any Text.joinsBefore

def viramaClass : Nat := 9

def joinersFit (before : List Char) : List Char → Bool
  | [] => true
  | c :: cs =>
    let behindVirama := before.head?.any fun d => Text.combiningClass d = viramaClass
    (if c = joiner then behindVirama
      else if c = nonJoiner then behindVirama || divides before cs
      else true) && joinersFit (c :: before) cs

def longestLabel : Nat := 1000

def labelFits (label : List Char) : Bool :=
  !label.any isBarred && !(label.head?.any Text.isMark) && joinersFit [] label &&
    (label.all isAscii || label.length ≤ longestLabel)

def runsLeftward (c : Char) : Bool :=
  Text.direction c = .right || Text.direction c = .arabicDigit

def lastDirection? (label : List Char) : Option Direction :=
  ((label.map Text.direction).reverse.dropWhile (· = .mark)).head?

def directionFits (label : List Char) : Bool :=
  let directions := label.map Text.direction
  match directions.head? with
  | none => true
  | some .right =>
    !directions.contains .left && !(directions.contains .digit && directions.contains .arabicDigit) &&
      lastDirection? label ≠ some .neutral
  | some .left =>
    !directions.contains .right && !directions.contains .arabicDigit &&
      lastDirection? label ≠ some .neutral
  | some _ => false

def mark : List Char := ['x','n','-','-']

def longestCode : Nat := 2000

def decodeLabel? (label : List Char) : Option (List Char) :=
  if mark.isPrefixOf label then do
    let code := label.drop mark.length
    let decoded ← if code.all isAscii ∧ code.length ≤ longestCode then Punycode.decode? code else none
    if decoded.all isAscii || normalize decoded ≠ decoded || decoded.contains '.' ||
        mark.isPrefixOf decoded then none
    else some decoded
  else some label

def encodeLabel (label : List Char) : List Char :=
  if label.all isAscii then label else mark ++ Punycode.encode label

def toAscii? (cs : List Char) : Option (List Char) := do
  let labels ← (Text.pieces (· = '.') (normalize cs)).mapM decodeLabel?
  let oneWay := !labels.any (·.any runsLeftward) || labels.all directionFits
  if labels.all labelFits && oneWay then some (List.intercalate ['.'] (labels.map encodeLabel))
  else none

end GrantKeeper.Endpoint.International
