import GrantKeeper.Endpoint.Fault
import GrantKeeper.Text.Decimal
import GrantKeeper.Text.Pieces

/-! IPv4 addresses in all their spellings: up to four numbers, each decimal,
octal behind a zero or hexadecimal behind `0x`, the last filling what is left. -/
namespace GrantKeeper.Endpoint.Ipv4

def number? (part : List Char) : Option Nat :=
  match part with
  | [] => none
  | '0' :: 'x' :: cs | '0' :: 'X' :: cs => Text.numberIn? 16 cs
  | '0' :: c :: cs => Text.numberIn? 8 (c :: cs)
  | cs => Text.numberIn? 10 cs

def parts (cs : List Char) : List (List Char) :=
  let all := Text.pieces (· = '.') cs
  if all.getLast? = some [] ∧ 1 < all.length then all.dropLast else all

def isDigits (part : List Char) : Bool := !part.isEmpty && part.all Char.isDigit

def endsInNumber (cs : List Char) : Bool :=
  match (parts cs).getLast? with
  | some part => isDigits part || (number? part).isSome
  | none => false

def assemble (before : List Nat) (last : Nat) : Option Nat :=
  if before.length ≤ 3 && last >>> (8 * (4 - before.length)) = 0 && before.all (· < 256) then
    some (before.foldr (fun n rest => rest / 256 + n * 16777216) 0 + last)
  else none

def parse (cs : List Char) : Except Fault Nat :=
  match (parts cs).mapM number? with
  | none => .error .badIpv4
  | some numbers =>
    match numbers.getLast? with
    | none => .error .badIpv4
    | some last =>
      match assemble numbers.dropLast last with
      | some address => .ok address
      | none => .error .badIpv4

def octet (address i : Nat) : Nat := (address >>> (8 * (3 - i))) % 256

def text (address : Nat) : String :=
  String.intercalate "." ((List.range 4).map fun i => Text.ofNat (octet address i))

def isLoopback (address : Nat) : Bool := octet address 0 = 127

end GrantKeeper.Endpoint.Ipv4
