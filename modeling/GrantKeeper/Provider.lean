import GrantKeeper.Text.Blank
import GrantKeeper.Text.Inspect
import GrantKeeper.Json.Reader
import GrantKeeper.Json.Document

/-! Identity providers. Two are known with their token endpoints; every other
name stands for itself. A name is read without blank ends and ASCII case. -/
namespace GrantKeeper

inductive Provider
  | google
  | microsoft
  | custom (name : String)
  deriving DecidableEq, Repr

namespace Provider

def name : Provider → String
  | .google => "google"
  | .microsoft => "microsoft"
  | .custom name => name

def tokenUrl? : Provider → Option String
  | .google => some "https://oauth2.googleapis.com/token"
  | .microsoft => some "https://login.microsoftonline.com/common/oauth2/v2.0/token"
  | .custom _ => none

def isKnown (p : Provider) : Bool := p.tokenUrl?.isSome

def ofNormal (name : String) : Provider :=
  if name = "google" ∨ name = "gmail" then .google
  else if name = "microsoft" ∨ name = "outlook" ∨ name = "office365" then .microsoft
  else .custom name

def ofText (s : String) : Provider := ofNormal (Text.lowerAscii (Text.trim s))

def key : Provider → Nat × String
  | .google => (0,"")
  | .microsoft => (1,"")
  | .custom name => (2,name)

def compare (p q : Provider) : Ordering :=
  (Ord.compare p.key.1 q.key.1).then (Ord.compare p.key.2 q.key.2)

instance : Ord Provider := ⟨Provider.compare⟩

def inspect : Provider → String
  | .google => "Google"
  | .microsoft => "Microsoft"
  | .custom name => "Custom(" ++ Text.inspect name ++ ")"

def reader : Json.Reader Provider := Json.Reader.text.map ofText

def document (p : Provider) : Json.Document := .text p.name

end Provider

end GrantKeeper
