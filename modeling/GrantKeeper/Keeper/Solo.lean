import GrantKeeper.Keeper.Refresh

/-! The keeper under a sole caller, who opens an exchange, asks for its answer
and settles it before anything else happens. -/
namespace GrantKeeper.Keeper
open Exchange (Order)
open Time (Instant Span)

abbrev Ask (τ : Type) := τ → Order → Except Exchange.Fault Reply

variable {ω τ : Type} [Vault ω]

def refreshSolo (ask : Ask τ) (k : Keeper ω τ) (now : Instant) (id : String) (within : Option Span) :
    Outcome Fault Unit (Keeper ω τ) :=
  match k.openRefresh now id within none with
  | (.closed result,k) => (result,k)
  | (.waiting _,k) => (.error (.sharedRefreshFailed id),k)
  | (.exchanging attempt,k) => k.settle now attempt (ask attempt.strategy attempt.order)

def tokenSolo (ask : Ask τ) (k : Keeper ω τ) (now : Instant) (id : String) :
    Option String × Keeper ω τ :=
  let k := if k.wantsRefresh now id then (k.refreshSolo ask now id (some k.buffer)).2 else k
  (k.usableToken? now id,k)

def refreshEach (ask : Ask τ) (now : Instant) (buffer : Span) :
    List String → Keeper ω τ → List (String × Except Fault Unit) × Keeper ω τ
  | [], k => ([],k)
  | id :: ids, k =>
    let (result,k) := k.refreshSolo ask now id (some buffer)
    let (results,k) := refreshEach ask now buffer ids k
    ((id,result) :: results,k)

def sweepSolo (ask : Ask τ) (k : Keeper ω τ) (now : Instant) :
    List (String × Except Fault Unit) × Keeper ω τ :=
  refreshEach ask now k.buffer (k.staleIds now) k

end GrantKeeper.Keeper
