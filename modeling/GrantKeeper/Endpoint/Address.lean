import GrantKeeper.Endpoint.Host

/-! Addresses in parts, and their text. A path is a list of segments, or a text
of its own for schemes that have no hierarchy. -/
namespace GrantKeeper.Endpoint

def standardPort? (scheme : String) : Option Nat :=
  if scheme = "http" ∨ scheme = "ws" then some 80
  else if scheme = "https" ∨ scheme = "wss" then some 443
  else if scheme = "ftp" then some 21
  else none

inductive Path
  | rooted (segments : List String)
  | flat (text : String)
  deriving DecidableEq, Repr

def Path.text : Path → String
  | .rooted segments => String.join (segments.map ("/" ++ ·))
  | .flat text => text

structure Authority where
  user : String
  host : Option Host
  portNumber : Option Nat
  deriving DecidableEq, Repr

namespace Authority

def hostText (a : Authority) : String := (a.host.map Host.text).getD ""

def text (a : Authority) : String :=
  (if a.user.isEmpty then "" else a.user ++ "@") ++ a.hostText ++
    (a.portNumber.map fun n => ":" ++ Text.ofNat n).getD ""

end Authority

structure Address where
  scheme : String
  authority : Option Authority
  path : Path
  query : Option String
  fragment : Option String
  deriving DecidableEq, Repr

namespace Address

def body (a : Address) : String :=
  match a.authority, a.path with
  | some authority, path => "//" ++ authority.text ++ path.text
  | none, .rooted ("" :: segment :: rest) =>
    "/." ++ (Path.rooted ("" :: segment :: rest)).text
  | none, path => path.text

def text (a : Address) : String :=
  a.scheme ++ ":" ++ a.body ++ (a.query.map ("?" ++ ·)).getD "" ++
    (a.fragment.map ("#" ++ ·)).getD ""

def host? (a : Address) : Option Host := a.authority.bind (·.host)

def isLoopback (a : Address) : Bool :=
  match a.host? with
  | some host => host.isLoopback
  | none => false

def isSafe (a : Address) : Bool := a.scheme = "https" || a.isLoopback

end Address

end GrantKeeper.Endpoint
