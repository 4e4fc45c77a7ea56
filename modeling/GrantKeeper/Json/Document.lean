import GrantKeeper.Text.Decimal

/-! JSON documents as they are written: on one line, or with one member a line
and two blanks for every bracket around it. -/
namespace GrantKeeper.Json

inductive Document
  | text (s : String)
  | boolean (b : Bool)
  | integer (n : Int)
  | list (items : List Document)
  | object (members : List (String × Document))
  deriving Repr

def quoteChar (c : Char) : List Char :=
  if c = '"' then ['\\','"']
  else if c = '\\' then ['\\','\\']
  else if c = '\x08' then ['\\','b']
  else if c = '\x0c' then ['\\','f']
  else if c = '\n' then ['\\','n']
  else if c = '\r' then ['\\','r']
  else if c = '\t' then ['\\','t']
  else if c.toNat < 0x20 then
    ['\\','u','0','0',Text.hexDigit (c.toNat / 16),Text.hexDigit (c.toNat % 16)]
  else [c]

def quote (s : String) : String := String.ofList ('"' :: s.toList.flatMap quoteChar ++ ['"'])

def writeBoolean (b : Bool) : String := if b then "true" else "false"

mutual
def Document.compact : Document → String
  | .text s => quote s
  | .boolean b => writeBoolean b
  | .integer n => Text.ofInt n
  | .list items => "[" ++ String.intercalate "," (compactItems items) ++ "]"
  | .object members => "\x7b" ++ String.intercalate "," (compactMembers members) ++ "\x7d"

def compactItems : List Document → List String
  | [] => []
  | item :: items => item.compact :: compactItems items

def compactMembers : List (String × Document) → List String
  | [] => []
  | (name,value) :: members => (quote name ++ ":" ++ value.compact) :: compactMembers members
end

def newLine (depth : Nat) : String := String.ofList ('\n' :: List.replicate (2 * depth) ' ')

def layLines (opening closing : String) (depth : Nat) (lines : List String) : String :=
  if lines.isEmpty then opening ++ closing
  else
    opening ++ newLine (depth + 1) ++ String.intercalate ("," ++ newLine (depth + 1)) lines ++
      newLine depth ++ closing

mutual
def Document.pretty (depth : Nat) : Document → String
  | .text s => quote s
  | .boolean b => writeBoolean b
  | .integer n => Text.ofInt n
  | .list items => layLines "[" "]" depth (prettyItems (depth + 1) items)
  | .object members => layLines "\x7b" "\x7d" depth (prettyMembers (depth + 1) members)

def prettyItems (depth : Nat) : List Document → List String
  | [] => []
  | item :: items => item.pretty depth :: prettyItems depth items

def prettyMembers (depth : Nat) : List (String × Document) → List String
  | [] => []
  | (name,value) :: members =>
    (quote name ++ ": " ++ value.pretty depth) :: prettyMembers depth members
end

end GrantKeeper.Json
