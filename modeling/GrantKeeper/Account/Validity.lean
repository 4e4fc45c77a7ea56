import GrantKeeper.Account.Enrollment
import GrantKeeper.Text.Utf8

/-! Which enrollments are acceptable. An account id becomes a file name, so it
must neither leave the directory nor hide in it. -/
namespace GrantKeeper.Enrollment

inductive Defect
  | emptyId
  | unusableId
  | emptyClientId
  | badEmail
  deriving DecidableEq, Repr

def Defect.message : Defect → String
  | .emptyId => "Account id is required"
  | .unusableId => "Account id must not contain path separators, start with '.', or exceed 128 characters"
  | .emptyClientId => "OAuth2 client id is required"
  | .badEmail => "Invalid email address format"

def Defect.field : Defect → String
  | .emptyId | .unusableId => "account_id"
  | .emptyClientId => "client_id"
  | .badEmail => "user_email"

def longestId : Nat := 128

def isControl (c : Char) : Bool := c.toNat < 0x20 || (0x7F ≤ c.toNat && c.toNat < 0xA0)

def isBarred (c : Char) : Bool := c = '/' || c = '\\' || c = ':' || isControl c

def idDefect? (id : String) : Option Defect :=
  if id.isEmpty then some .emptyId
  else if id.toList.any isBarred || id.toList.head? = some '.' || longestId < id.utf8ByteSize then
    some .unusableId
  else none

def isUsableId (id : String) : Bool := (idDefect? id).isNone

def isEmail (s : String) : Bool :=
  let name := s.toList.takeWhile (· ≠ '@')
  match s.toList.dropWhile (· ≠ '@') with
  | [] => false
  | _ :: domain =>
    !name.isEmpty && !domain.contains '@' && domain.contains '.' &&
      domain.head? != some '.' && domain.getLast? != some '.'

def defects (e : Enrollment) : List Defect :=
  (idDefect? e.id).toList ++
    (if (Text.trim e.clientId).isEmpty then [.emptyClientId] else []) ++
    (if !e.email.isEmpty && !isEmail e.email then [.badEmail] else [])

end GrantKeeper.Enrollment
