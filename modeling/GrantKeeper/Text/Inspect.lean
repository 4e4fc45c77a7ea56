import GrantKeeper.Text.Hidden
import GrantKeeper.Text.Decimal

/-! Inspection text of values for logs: quoted texts in which everything hidden
is written as an escape, and records with named parts. Secrets enter it only
through `redact`. -/
namespace GrantKeeper.Text

def inspectChar (c : Char) : List Char :=
  if c = '\x00' then ['\\','0']
  else if c = '\t' then ['\\','t']
  else if c = '\n' then ['\\','n']
  else if c = '\r' then ['\\','r']
  else if c = '"' then ['\\','"']
  else if c = '\\' then ['\\','\\']
  else if isHidden c then ['\\','u','\x7b'] ++ hexDigits c.toNat ++ ['\x7d']
  else [c]

def inspect (s : String) : String :=
  String.ofList ('"' :: s.toList.flatMap inspectChar ++ ['"'])

def inspectOption {α : Type} (render : α → String) : Option α → String
  | none => "None"
  | some a => "Some(" ++ render a ++ ")"

def inspectBool (b : Bool) : String := if b then "true" else "false"

def inspectList (items : List String) : String := "[" ++ String.intercalate ", " items ++ "]"

def inspectRecord (name : String) (parts : List (String × String)) (more : Bool) : String :=
  let shown := parts.map (fun part => part.1 ++ ": " ++ part.2) ++ (if more then [".."] else [])
  name ++ " \x7b " ++ String.intercalate ", " shown ++ " \x7d"

def redact (secret : String) : String := if secret.isEmpty then "" else "<redacted>"

end GrantKeeper.Text
