import Std.Data.ExtTreeMap
import GrantKeeper.Disk.Path
import GrantKeeper.Text.Utf8

/-! The tree of files and directories, and what one operation does to it when
nothing gets in its way. A node is found by the names from the root to it. -/
namespace GrantKeeper.Disk
open Text (Octets)

inductive Fault
  | notFound
  | isDirectory
  | notDirectory
  | alreadyExists
  | invalidData
  | invalidName
  | invalidInput
  | busy
  | other
  deriving DecidableEq, Repr

def Fault.message : Fault → String
  | .notFound => "NotFound"
  | .isDirectory => "IsADirectory"
  | .notDirectory => "NotADirectory"
  | .alreadyExists => "AlreadyExists"
  | .invalidData => "InvalidData"
  | .invalidName => "InvalidFilename"
  | .invalidInput => "InvalidInput"
  | .busy => "ResourceBusy"
  | .other => "Other"

inductive Node
  | file (mode : Nat) (content : Octets)
  | directory (mode : Nat)
  deriving DecidableEq, Repr

def Node.isDirectory : Node → Bool
  | .file .. => false
  | .directory _ => true

abbrev Place := List String

structure Tree where
  nodes : Std.ExtTreeMap Place Node
  working : Place

namespace Tree

def empty : Tree := ⟨∅,[]⟩

def rootMode : Nat := 0o755

def node? (t : Tree) (place : Place) : Option Node :=
  if place.isEmpty then some (.directory rootMode) else t.nodes[place]?

def put (t : Tree) (place : Place) (node : Node) : Tree := { t with nodes := t.nodes.insert place node }

def remove (t : Tree) (place : Place) : Tree := { t with nodes := t.nodes.erase place }

def longestName : Nat := 255
def longestPath : Nat := 4095

def follow (t : Tree) (place : Place) : List String → Except Fault Place
  | [] => .ok place
  | name :: names =>
    match t.node? place with
    | none => .error .notFound
    | some (.file ..) => .error .notDirectory
    | some (.directory _) =>
      if name = ".." then follow t place.dropLast names
      else if longestName < name.utf8ByteSize then .error .invalidName
      else follow t (place ++ [name]) names

def resolve (t : Tree) (p : Path) : Except Fault Place :=
  if p.text.toList.contains '\x00' then .error .invalidInput
  else if p.text.isEmpty then .error .notFound
  else if longestPath < p.text.utf8ByteSize then .error .invalidName
  else follow t (if p.isAbsolute then [] else t.working) p.parts

def find (t : Tree) (p : Path) : Except Fault (Place × Node) :=
  match resolve t p with
  | .error fault => .error fault
  | .ok place =>
    match t.node? place with
    | none => .error .notFound
    | some (.file mode content) =>
      if p.asksDirectory then .error .notDirectory else .ok (place,.file mode content)
    | some (.directory mode) => .ok (place,.directory mode)

def slot (t : Tree) (p : Path) : Except Fault (Option Place) :=
  if p.endsInDots then (find t p).map fun _ => none else (resolve t p).map some

def present (t : Tree) (p : Path) : Bool := (find t p).isOk

def isFile (t : Tree) (p : Path) : Bool :=
  match find t p with
  | .ok (_,node) => !node.isDirectory
  | .error _ => false

def isDirectory (t : Tree) (p : Path) : Bool :=
  match find t p with
  | .ok (_,node) => node.isDirectory
  | .error _ => false

def read (t : Tree) (p : Path) : Except Fault Octets :=
  match find t p with
  | .error fault => .error fault
  | .ok (_,.directory _) => .error .isDirectory
  | .ok (_,.file _ content) => .ok content

def mode (t : Tree) (p : Path) : Except Fault Nat :=
  match find t p with
  | .error fault => .error fault
  | .ok (_,.directory mode) => .ok mode
  | .ok (_,.file mode _) => .ok mode

def names (t : Tree) (p : Path) : Except Fault (List String) :=
  match find t p with
  | .error fault => .error fault
  | .ok (_,.file ..) => .error .notDirectory
  | .ok (place,.directory _) =>
    .ok (t.nodes.keys.filterMap fun key =>
      if !key.isEmpty && key.dropLast = place then key.getLast? else none)

def setMode (t : Tree) (p : Path) (mode : Nat) : Except Fault Tree :=
  match find t p with
  | .error fault => .error fault
  | .ok (place,.directory _) => .ok (t.put place (.directory mode))
  | .ok (place,.file _ content) => .ok (t.put place (.file mode content))

def newDirectoryMode : Nat := 0o755
def newFileMode : Nat := 0o644

def makeDirectory (t : Tree) (p : Path) : Except Fault Tree :=
  match slot t p with
  | .error fault => .error fault
  | .ok none => .error .alreadyExists
  | .ok (some place) =>
    if (t.node? place).isSome then .error .alreadyExists
    else .ok (t.put place (.directory newDirectoryMode))

def createNew (t : Tree) (p : Path) (mode : Nat) : Except Fault Tree :=
  match slot t p with
  | .error fault => .error fault
  | .ok none => .error .alreadyExists
  | .ok (some place) =>
    if p.asksDirectory then .error .isDirectory
    else if (t.node? place).isSome then .error .alreadyExists
    else .ok (t.put place (.file mode []))

def append (t : Tree) (p : Path) (octets : Octets) : Except Fault Tree :=
  match find t p with
  | .error fault => .error fault
  | .ok (_,.directory _) => .error .isDirectory
  | .ok (place,.file mode content) => .ok (t.put place (.file mode (content ++ octets)))

def write (t : Tree) (p : Path) (octets : Octets) : Except Fault Tree :=
  match slot t p with
  | .error fault => .error fault
  | .ok none => .error .isDirectory
  | .ok (some place) =>
    if p.asksDirectory then .error .isDirectory
    else
      match t.node? place with
      | some (.directory _) => .error .isDirectory
      | some (.file mode _) => .ok (t.put place (.file mode octets))
      | none => .ok (t.put place (.file newFileMode octets))

def rename (t : Tree) (source target : Path) : Except Fault Tree :=
  match find t source, slot t target with
  | .error fault, _ => .error fault
  | .ok _, .error fault => .error fault
  | .ok _, .ok none => .error .busy
  | .ok (place,node), .ok (some goal) =>
    if target.asksDirectory then .error .notDirectory
    else if (t.node? goal).any Node.isDirectory then .error .isDirectory
    else .ok ((t.remove place).put goal node)

def removeFile (t : Tree) (p : Path) : Except Fault Tree :=
  match find t p with
  | .error fault => .error fault
  | .ok (_,.directory _) => .error .isDirectory
  | .ok (place,.file ..) => .ok (t.remove place)

def removeTree (t : Tree) (p : Path) : Except Fault Tree :=
  match find t p with
  | .error fault => .error fault
  | .ok (_,.file ..) => .error .notDirectory
  | .ok (place,.directory _) =>
    .ok { t with nodes := t.nodes.filter fun key _ => !place.isPrefixOf key }

end Tree

end GrantKeeper.Disk
