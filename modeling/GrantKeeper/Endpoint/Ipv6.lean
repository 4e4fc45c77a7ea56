import GrantKeeper.Endpoint.Fault
import GrantKeeper.Text.Decimal
import GrantKeeper.Text.Pieces

/-! IPv6 addresses as eight numbers of sixteen bits. One run of zeros may be left
out, and the last two numbers may be spelled as an IPv4 address. -/
namespace GrantKeeper.Endpoint.Ipv6

def takeHex : Nat → Nat → Nat → List Char → Nat × Nat × List Char
  | 0, value, count, cs => (value,count,cs)
  | _, value, count, [] => (value,count,[])
  | room + 1, value, count, c :: cs =>
    match Text.digitIn? 16 c with
    | some d => takeHex room (value * 16 + d) (count + 1) cs
    | none => (value,count,c :: cs)

def octet? (part : List Char) : Option Nat :=
  match part with
  | [] => none
  | ['0'] => some 0
  | '0' :: _ => none
  | cs => (Text.numberIn? 10 cs).bind fun n => if n < 256 then some n else none

def tailPair? (cs : List Char) : Option (List Nat) :=
  match (Text.pieces (· = '.') cs).mapM octet? with
  | some [a,b,c,d] => some [a * 256 + b,c * 256 + d]
  | _ => none

structure Progress where
  pieces : List Nat
  gap : Option Nat

def Progress.places (p : Progress) : Nat := p.pieces.length + (if p.gap.isSome then 1 else 0)

theorem takeHexLength (room value count : Nat) (cs : List Char) :
    (takeHex room value count cs).2.2.length ≤ cs.length := by
  fun_induction takeHex room value count cs with
  | case1 => simp
  | case2 => simp
  | case3 room value count c cs d hd ih => simp; omega
  | case4 => simp

def readPieces (p : Progress) (cs : List Char) : Option Progress :=
  match cs with
  | [] => some p
  | c :: rest =>
    if 8 ≤ p.places then none
    else if c = ':' then
      if p.gap.isSome then none else readPieces { p with gap := some p.pieces.length } rest
    else
      let taken := takeHex 4 0 0 (c :: rest)
      match _here : taken.2.2 with
      | [] => some { p with pieces := p.pieces ++ [taken.1] }
      | '.' :: _ =>
        if taken.2.1 = 0 ∨ 6 < p.places then none
        else (tailPair? (c :: rest)).map fun pair => { p with pieces := p.pieces ++ pair }
      | ':' :: [] => none
      | ':' :: more => readPieces { p with pieces := p.pieces ++ [taken.1] } more
      | _ => none
termination_by cs.length
decreasing_by
  · simp
  · have bound := takeHexLength 4 0 0 (c :: rest)
    rw [_here] at bound
    simp at bound ⊢
    omega

def fill (p : Progress) : Option (List Nat) :=
  match p.gap with
  | some n =>
    some (p.pieces.take n ++ List.replicate (8 - p.pieces.length) 0 ++ p.pieces.drop n)
  | none => if p.pieces.length = 8 then some p.pieces else none

def parse (cs : List Char) : Except Fault (List Nat) :=
  let start := match cs with
    | ':' :: ':' :: rest => readPieces ⟨[],some 0⟩ rest
    | ':' :: _ => none
    | [] => none
    | [_] => none
    | cs => readPieces ⟨[],none⟩ cs
  match start.bind fill with
  | some pieces => .ok pieces
  | none => .error .badIpv6

def runs : List Nat → List Nat
  | [] => []
  | n :: ns =>
    let rest := runs ns
    (if n = 0 then rest.headD 0 + 1 else 0) :: rest

def longestRun? (pieces : List Nat) : Option (Nat × Nat) :=
  let longest := (runs pieces).foldl max 0
  if longest < 2 then none else ((runs pieces).findIdx? (· == longest)).map (·,longest)

def pieceText (n : Nat) : String := String.ofList (Text.hexDigits n)

def piecesText (pieces : List Nat) : String := String.intercalate ":" (pieces.map pieceText)

def text (pieces : List Nat) : String :=
  match longestRun? pieces with
  | some (start,length) =>
    piecesText (pieces.take start) ++ "::" ++ piecesText (pieces.drop (start + length))
  | none => piecesText pieces

def isLoopback (pieces : List Nat) : Bool := pieces = [0,0,0,0,0,0,0,1]

end GrantKeeper.Endpoint.Ipv6
