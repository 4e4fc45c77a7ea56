import GrantKeeper.Endpoint.Address
import GrantKeeper.Endpoint.Segments
import GrantKeeper.Text.Blank
import GrantKeeper.Text.Pieces

/-! Reading an address from text. A scheme of the web takes a backslash for a
slash and always has a host; files have addresses of their own kind. -/
namespace GrantKeeper.Endpoint

def clean (cs : List Char) : List Char :=
  (Text.strip (·.toNat ≤ 0x20) cs).filter fun c => c ≠ '\t' && c ≠ '\n' && c ≠ '\r'

def isSchemeChar (c : Char) : Bool := c.isAlphanum || c = '+' || c = '-' || c = '.'

def takeScheme? (cs : List Char) : Option (List Char × List Char) :=
  match cs.takeWhile isSchemeChar, cs.dropWhile isSchemeChar with
  | c :: more, ':' :: rest => if c.isAlpha then some ((c :: more).map Char.toLower,rest) else none
  | _, _ => none

def endsPath (c : Char) : Bool := c = '?' || c = '#'

def isSlash (web : Bool) (c : Char) : Bool := c = '/' || (web && c = '\\')

def endsAuthority (web : Bool) (c : Char) : Bool := isSlash web c || endsPath c

def splitLastAt? (cs : List Char) : Option (List Char × List Char) :=
  let behind := (cs.reverse.takeWhile (· ≠ '@')).reverse
  if behind.length = cs.length then none
  else some (cs.take (cs.length - behind.length - 1),behind)

def userText (cs : List Char) : List Char :=
  let name := cs.takeWhile (· ≠ ':')
  let secret := cs.drop (name.length + 1)
  percentEncode inUserSet name ++
    (if secret.isEmpty then [] else ':' :: percentEncode inUserSet secret)

def splitHost (bracketed : Bool) : List Char → List Char × List Char
  | [] => ([],[])
  | c :: cs =>
    if c = ':' ∧ !bracketed then ([],c :: cs)
    else
      let (host,rest) := splitHost (c = '[' || (bracketed && c ≠ ']')) cs
      (c :: host,rest)

def readPort (standard : Option Nat) (cs : List Char) : Except Fault (Option Nat × List Char) :=
  let digits := cs.takeWhile Char.isDigit
  let rest := cs.dropWhile Char.isDigit
  let number := digits.foldl (fun n c => n * 10 + (c.toNat - 0x30)) 0
  if 65535 < number ∨ (rest.head?.any (· ≠ '\\')) then .error .badPort
  else .ok (if digits.isEmpty ∨ standard = some number then none else some number,rest)

def readHostPort (web : Bool) (standard : Option Nat) (cs : List Char) :
    Except Fault (Option Host × Option Nat × List Char) := do
  let (hostText,rest) := splitHost false cs
  let host ← if hostText.isEmpty then
      if web ∨ rest ≠ [] then .error .emptyHost else pure none
    else some <$> if web then Host.readWeb hostText else Host.readPlain hostText
  match rest with
  | [] => return (host,none,[])
  | _ :: rest =>
    let (number,rest) ← readPort standard rest
    return (host,number,rest)

def readAuthority (web : Bool) (standard : Option Nat) (cs : List Char) (atEnd : Bool) :
    Except Fault (Authority × List Char) := do
  let (user,hostPort) := (splitLastAt? cs).getD ([],cs)
  if user.isEmpty ∧ hostPort.isEmpty ∧ cs ≠ [] ∧ !atEnd then .error .emptyHost
  else
    let (host,number,rest) ← readHostPort web standard hostPort
    let user := userText user
    if host.isNone ∧ user ≠ [] then .error .emptyHost
    else return (⟨String.ofList user,host,number⟩,rest)

def readTail (special : Bool) (cs : List Char) : Option String × Option String :=
  let text (inSet : Char → Bool) (cs : List Char) := String.ofList (percentEncode inSet cs)
  let fragment (cs : List Char) : Option String :=
    match cs with
    | '#' :: rest => some (text inFragmentSet rest)
    | _ => none
  match cs with
  | '?' :: rest =>
    (some (text (if special then inSpecialQuerySet else inQuerySet) (rest.takeWhile (· ≠ '#'))),
      fragment (rest.dropWhile (· ≠ '#')))
  | cs => (none,fragment cs)

def segmentsOf (web : Bool) (cs : List Char) : List String :=
  (Segments.resolve (Text.pieces (isSlash web) cs)).map String.ofList

def withoutSlash (web : Bool) (cs : List Char) : List Char :=
  match cs with
  | c :: rest => if isSlash web c then rest else cs
  | [] => []

def finish (scheme : String) (special : Bool) (authority : Option Authority)
    (path : List Char → Path) (cs : List Char) : Address :=
  let (query,fragment) := readTail special (cs.dropWhile fun c => !endsPath c)
  ⟨scheme,authority,path (cs.takeWhile fun c => !endsPath c),query,fragment⟩

def readPath (web : Bool) (cs : List Char) : Path :=
  if cs.isEmpty ∧ !web then .rooted [] else .rooted (segmentsOf web (withoutSlash web cs))

def readBehindSlashes (scheme : String) (web : Bool) (cs : List Char) : Except Fault Address := do
  let text := cs.takeWhile fun c => !endsAuthority web c
  let rest := cs.dropWhile fun c => !endsAuthority web c
  let (authority,left) ← readAuthority web (standardPort? scheme) text rest.isEmpty
  return finish scheme web (some authority) (readPath web) (left ++ rest)

def fileSegments (cs : List Char) : List (List Char) :=
  match Segments.resolve (Text.pieces (isSlash true) cs) with
  | [c,d] :: rest => (if Segments.isDrive [c,d] then [c,':'] else [c,d]) :: rest
  | segments => segments

def hostOfFile (host : Option Host) (segments : List (List Char)) : Option Host :=
  if segments.head?.any Segments.isDrive then none else host

def filePath (segments : List (List Char)) : Path :=
  match segments.dropWhile List.isEmpty with
  | [] => .rooted [""]
  | segments => .rooted (segments.map String.ofList)

def fileAddress (host : Option Host) (cs : List Char) : Address :=
  let segments := fileSegments (cs.takeWhile fun c => !endsPath c)
  finish "file" true (some ⟨"",hostOfFile host segments,none⟩) (fun _ => filePath segments) cs

def readFileHost (cs : List Char) : Except Fault Address := do
  let hostText := cs.takeWhile fun c => !endsAuthority true c
  let rest := cs.dropWhile fun c => !endsAuthority true c
  if hostText.isEmpty ∨ Segments.isDrive hostText then return fileAddress none cs
  else
    let host ← Host.readWeb hostText
    if host = .domain "localhost" then return fileAddress none rest
    else return fileAddress (some host) (withoutSlash true rest)

def readFile (cs : List Char) : Except Fault Address :=
  match cs with
  | a :: b :: rest =>
    if isSlash true a ∧ isSlash true b then readFileHost rest
    else .ok (fileAddress none (withoutSlash true cs))
  | cs => .ok (fileAddress none (withoutSlash true cs))

def readPlain (scheme : String) (cs : List Char) : Except Fault Address :=
  match cs with
  | '/' :: '/' :: rest => readBehindSlashes scheme false rest
  | '/' :: rest => .ok (finish scheme false none (fun cs => .rooted (segmentsOf false cs)) rest)
  | cs =>
    .ok (finish scheme false none (fun cs => .flat (String.ofList (percentEncode isControl cs))) cs)

def read (s : String) : Except Fault Address :=
  match takeScheme? (clean s.toList) with
  | none => .error .noScheme
  | some (scheme,rest) =>
    let scheme := String.ofList scheme
    if scheme = "file" then readFile rest
    else if (standardPort? scheme).isSome then
      readBehindSlashes scheme true (rest.dropWhile (isSlash true))
    else readPlain scheme rest

end GrantKeeper.Endpoint
