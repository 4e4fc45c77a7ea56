import Std.Data.ExtTreeMap
import GrantKeeper.Vault.Basic

/-! A vault in memory. None of its operations fails. -/
namespace GrantKeeper.Vault

structure Memory where
  grants : Std.ExtTreeMap String Grant

namespace Memory

def empty : Memory := ⟨∅⟩

def save (m : Memory) (id : String) (g : Grant) : Outcome Fault Unit Memory :=
  (.ok (),⟨m.grants.insert id g⟩)

def load (m : Memory) (id : String) : Outcome Fault (Option Grant) Memory := (.ok m.grants[id]?,m)

def erase (m : Memory) (id : String) : Outcome Fault Unit Memory := (.ok (),⟨m.grants.erase id⟩)

def ids (m : Memory) : Outcome Fault (List String) Memory := (.ok m.grants.keys,m)

instance : Vault Memory := ⟨save,load,erase,ids⟩

end Memory

end GrantKeeper.Vault
