import GrantKeeper.Text.Decimal
import GrantKeeper.Text.Pieces

/-! Paths as texts, and the names that they are made of. Empty names and single
dots stand for nothing; double dots are kept. -/
namespace GrantKeeper.Disk

structure Path where
  text : String
  deriving DecidableEq, Repr

def splitSlash (cs : List Char) : List (List Char) := Text.pieces (· = '/') cs

namespace Path

def standsForNothing (piece : List Char) : Bool := piece.isEmpty || piece == ['.']

def parts (p : Path) : List String :=
  ((splitSlash p.text.toList).filter (fun piece => !standsForNothing piece)).map String.ofList

def isAbsolute (p : Path) : Bool := p.text.toList.head? = some '/'

def asksDirectory (p : Path) : Bool :=
  match (splitSlash p.text.toList).getLast? with
  | some piece => standsForNothing piece
  | none => true

def endsInDots (p : Path) : Bool :=
  match ((splitSlash p.text.toList).filter (!·.isEmpty)).getLast? with
  | some piece => piece == ['.'] || piece == ['.','.']
  | none => true

def ofParts (absolute : Bool) (parts : List String) : Path :=
  ⟨(if absolute then "/" else "") ++ String.intercalate "/" parts⟩

def parent? (p : Path) : Option Path :=
  if p.parts.isEmpty then none else some (ofParts p.isAbsolute p.parts.dropLast)

def fileName? (p : Path) : Option String :=
  match p.parts.getLast? with
  | some name => if name = ".." then none else some name
  | none => none

def join (p q : Path) : Path :=
  if q.isAbsolute || p.text.isEmpty then q
  else if p.text.toList.getLast? = some '/' then ⟨p.text ++ q.text⟩
  else ⟨p.text ++ "/" ++ q.text⟩

def splitExtension (name : String) : String × Option String :=
  let tail := (name.toList.reverse.takeWhile (· ≠ '.')).reverse
  let head := name.toList.take (name.toList.length - tail.length - 1)
  if head.isEmpty || name = ".." then (name,none)
  else (String.ofList head,some (String.ofList tail))

end Path

end GrantKeeper.Disk
