import GrantKeeper.Text.Decimal
import GrantKeeper.Text.Pieces

/-! Tables of code points as texts. A run is one code point in hexadecimal, or the
first and the last with a hyphen between them; commas stand between runs. A table
may be broken into lines anywhere. -/
namespace GrantKeeper.Text

structure Run where
  first : Nat
  last : Nat
  deriving DecidableEq, Repr

namespace Run

def contains (run : Run) (c : Char) : Bool := run.first ≤ c.toNat && c.toNat ≤ run.last

def hexNumber (cs : List Char) : Nat := (numberIn? 16 cs).getD 0

def ofText (cs : List Char) : Run :=
  match pieces (· = '-') cs with
  | [first,last] => ⟨hexNumber first,hexNumber last⟩
  | _ => ⟨hexNumber cs,hexNumber cs⟩

def listOfText (table : String) : List Run :=
  (pieces (· = ',') (table.toList.filter (· ≠ '
'))).map ofText

end Run

def covers (runs : List Run) (c : Char) : Bool := runs.any (·.contains c)

def tableEntries (table : String) : List (String × String) :=
  (pieces (· = ';') (table.toList.filter (· ≠ '
'))).filterMap fun entry =>
    match entry.dropWhile (· ≠ ':') with
    | _ :: value => some (String.ofList (entry.takeWhile (· ≠ ':')),String.ofList value)
    | [] => none

def classes (table : String) : List (String × List Run) :=
  (tableEntries table).map fun (name,runs) => (name,Run.listOfText runs)

def classOf? (classes : List (String × List Run)) (c : Char) : Option String :=
  (classes.find? fun entry => covers entry.2 c).map Prod.fst

end GrantKeeper.Text
