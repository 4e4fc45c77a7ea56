import GrantKeeper.Disk.Tree

/-! What has to be done to one tree to get another, and the places that a path
leads through. -/
namespace GrantKeeper.Disk
open Text (Octets)

inductive Change
  | erase (place : Place)
  | put (place : Place) (node : Node)
  deriving DecidableEq, Repr

def Tree.changes (before after : Tree) : List Change :=
  ((before.nodes.keys.filter fun place => !after.nodes.contains place).map .erase) ++
    (after.nodes.toList.filter fun (place,node) => before.nodes[place]? != some node).map
      fun (place,node) => .put place node

def stations (place : Place) : List String → List Place
  | [] => []
  | name :: names =>
    let next := if name = ".." then place.dropLast else place ++ [name]
    next :: stations next names

def Path.stations (p : Path) (working : Place) : List Place :=
  Disk.stations [] working ++ Disk.stations (if p.isAbsolute then [] else working) p.parts

def Place.text (place : Place) : String := "/" ++ String.intercalate "/" place

end GrantKeeper.Disk
