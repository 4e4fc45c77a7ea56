import GrantKeeper.Keeper.Solo
import GrantKeeper.Proofs.Keeper.Outcomes

/-! The orders that a sole caller puts to the exchange, and what comes of them when none of them
gets a reply: the vault stays as it is. -/
namespace GrantKeeper.Keeper
open Exchange (Order)
open Time (Instant Span)
variable {ω τ : Type} [Vault ω]

def orders (k : Keeper ω τ) (now : Instant) (id : String) (within : Option Span) : List (τ × Order) :=
  match (k.openRefresh now id within none).1 with
  | .exchanging attempt => [(attempt.strategy,attempt.order)]
  | _ => []

def tokenOrders (k : Keeper ω τ) (now : Instant) (id : String) : List (τ × Order) :=
  if k.wantsRefresh now id then k.orders now id (some k.buffer) else []

def eachOrders (ask : Ask τ) (now : Instant) (buffer : Span) :
    List String → Keeper ω τ → List (τ × Order)
  | [], _ => []
  | id :: ids, k =>
    k.orders now id (some buffer) ++
      eachOrders ask now buffer ids (k.refreshSolo ask now id (some buffer)).2

def sweepOrders (ask : Ask τ) (k : Keeper ω τ) (now : Instant) : List (τ × Order) :=
  eachOrders ask now k.buffer (k.staleIds now) k

def Spurned (ask : Ask τ) (orders : List (τ × Order)) : Prop :=
  ∀ order ∈ orders, ∃ fault, ask order.1 order.2 = .error fault

variable {ask : Ask τ} {k : Keeper ω τ} {now : Instant} {id : String}

theorem settleFails (k : Keeper ω τ) (now : Instant) (a : Attempt τ) (fault : Exchange.Fault) :
    (k.settle now a (.error fault)).2.vault = k.vault := by
  have settled := k.settles now a (.error fault)
  generalize k.settle now a (.error fault) = result at settled ⊢
  cases settled <;> rfl

theorem refreshSpurned {within : Option Span} (spurned : Spurned ask (k.orders now id within)) :
    (k.refreshSolo ask now id within).2.vault = k.vault := by
  have opened := k.opens now id within none
  unfold orders at spurned
  unfold refreshSolo
  generalize k.openRefresh now id within none = result at opened spurned ⊢
  cases opened with
  | begins found apart idle stale served refreshable =>
    obtain ⟨fault,failed⟩ := spurned _ List.mem_cons_self
    simp only [failed]
    exact settleFails _ now _ fault
  | _ => rfl

theorem tokenSpurned (spurned : Spurned ask (k.tokenOrders now id)) :
    (k.tokenSolo ask now id).2.vault = k.vault := by
  unfold tokenOrders at spurned
  unfold tokenSolo
  simp only
  split
  · rename_i wants
    rw [if_pos wants] at spurned
    exact refreshSpurned spurned
  · rfl

theorem eachSpurned {buffer : Span} {ids : List String}
    (spurned : Spurned ask (eachOrders ask now buffer ids k)) :
    (refreshEach ask now buffer ids k).2.vault = k.vault := by
  induction ids generalizing k with
  | nil => rfl
  | cons id ids ih =>
    have first := refreshSpurned fun order member => spurned order (List.mem_append_left _ member)
    have rest := ih fun order member => spurned order (List.mem_append_right _ member)
    exact rest.trans first

theorem sweepSpurned (spurned : Spurned ask (sweepOrders ask k now)) :
    (k.sweepSolo ask now).2.vault = k.vault :=
  eachSpurned spurned

end GrantKeeper.Keeper
