import GrantKeeper.Disk.Tree
import GrantKeeper.Outcome

/-! A disk: the tree, together with the mishaps that the next operations will
meet. Each operation takes one entry of that list; behind its end all goes well. -/
namespace GrantKeeper.Disk
open Text (Octets)

-- a failure from outside; a write got `reach` octets through before it
structure Mishap where
  fault : Fault
  reach : Nat
  deriving DecidableEq, Repr

end GrantKeeper.Disk

namespace GrantKeeper

structure Disk where
  tree : Disk.Tree
  mishaps : List (Option Disk.Mishap)
  -- number of the process, a part of temporary names
  process : Nat
  temporaries : Nat

namespace Disk
open Text (Octets)

abbrev Step (α : Type) := Outcome Fault α Disk

def ofTree (tree : Tree) (process : Nat) : Disk := ⟨tree,[],process,0⟩

def nextMishap (d : Disk) : Option Mishap := d.mishaps.head?.join

def afterMishap (d : Disk) : Disk := { d with mishaps := d.mishaps.tail }

def look {α : Type} (d : Disk) (f : Tree → Except Fault α) : Step α :=
  match d.nextMishap with
  | some mishap => (.error mishap.fault,d.afterMishap)
  | none => (f d.tree,d.afterMishap)

def change (d : Disk) (f : Tree → Except Fault Tree) : Step Unit :=
  match d.nextMishap with
  | some mishap => (.error mishap.fault,d.afterMishap)
  | none =>
    match f d.tree with
    | .error fault => (.error fault,d.afterMishap)
    | .ok tree => (.ok (),{ d.afterMishap with tree })

def read (d : Disk) (p : Path) : Step Octets := d.look (·.read p)

def present (d : Disk) (p : Path) : Bool × Disk :=
  match d.look (·.find p) with
  | (.ok _,d) => (true,d)
  | (.error _,d) => (false,d)

def names (d : Disk) (p : Path) : Step (List String) := d.look (·.names p)

def setMode (d : Disk) (p : Path) (mode : Nat) : Step Unit := d.change (·.setMode p mode)

def createNew (d : Disk) (p : Path) (mode : Nat) : Step Unit := d.change (·.createNew p mode)

def append (d : Disk) (p : Path) (octets : Octets) : Step Unit :=
  match d.nextMishap with
  | some mishap =>
    match d.tree.append p (octets.take mishap.reach) with
    | .error _ => (.error mishap.fault,d.afterMishap)
    | .ok tree => (.error mishap.fault,{ d.afterMishap with tree })
  | none =>
    match d.tree.append p octets with
    | .error fault => (.error fault,d.afterMishap)
    | .ok tree => (.ok (),{ d.afterMishap with tree })

def sync (d : Disk) (p : Path) : Step Unit := d.look (fun t => (t.read p).map fun _ => ())

def rename (d : Disk) (source target : Path) : Step Unit := d.change (·.rename source target)

def removeFile (d : Disk) (p : Path) : Step Unit := d.change (·.removeFile p)

def makeDirectory (d : Disk) (p : Path) : Step Unit := d.change (·.makeDirectory p)

def ensureDirectory (d : Disk) (p : Path) : Step Unit :=
  match d.makeDirectory p with
  | (.ok (),d) => (.ok (),d)
  | (.error fault,d) => if d.tree.isDirectory p then (.ok (),d) else (.error fault,d)

def ensureBehind (d : Disk) (p : Path) (way : Disk → Step Unit) : Step Unit :=
  match d.makeDirectory p with
  | (.ok (),d) => (.ok (),d)
  | (.error .notFound,d) => (way d).andThen fun _ d => d.ensureDirectory p
  | (.error fault,d) => if d.tree.isDirectory p then (.ok (),d) else (.error fault,d)

def ensureNames (absolute : Bool) : List String → Disk → Step Unit
  | [], d => (.ok (),d)
  | name :: names, d =>
    d.ensureBehind (.ofParts absolute (name :: names).reverse) (ensureNames absolute names)

def ensureAll (d : Disk) (p : Path) : Step Unit :=
  if p.text.isEmpty then (.ok (),d)
  else d.ensureBehind p (ensureNames p.isAbsolute p.parts.dropLast.reverse)

end Disk

end GrantKeeper
