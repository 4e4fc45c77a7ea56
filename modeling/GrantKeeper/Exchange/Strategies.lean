import GrantKeeper.Provider

/-! Which strategy serves which provider. The last one entered counts. -/
namespace GrantKeeper.Exchange

structure Strategies (τ : Type) where
  entries : List (Provider × τ)

namespace Strategies
variable {τ : Type}

def empty : Strategies τ := ⟨[]⟩

def insert (s : Strategies τ) (p : Provider) (strategy : τ) : Strategies τ :=
  ⟨(p,strategy) :: s.entries.filter (fun entry => entry.1 != p)⟩

def get? (s : Strategies τ) (p : Provider) : Option τ := s.entries.lookup p

def supports (s : Strategies τ) (p : Provider) : Bool := (s.get? p).isSome

def providers (s : Strategies τ) : List Provider :=
  (s.entries.map Prod.fst).mergeSort (fun p q => (compare p q).isLE)

def inspect (s : Strategies τ) : String :=
  Text.inspectRecord "Strategies" [
    ("providers",Text.inspectList (s.providers.map Provider.inspect))] false

end Strategies

end GrantKeeper.Exchange
