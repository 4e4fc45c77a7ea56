import GrantKeeper.Keeper.Basic

/-! Refreshing the grant of an account. An exchange is opened in one step and
settled in another; in between other steps may come. Who finds an exchange
under way waits for it and takes its outcome. -/
namespace GrantKeeper
open Exchange (Order)
open Time (Instant Span)

structure Ticket where
  epoch : Nat
  ended : Nat
  deriving DecidableEq, Repr

/-- An exchange under way, with the grant and the client it began with. -/
structure Attempt (τ : Type) where
  id : String
  epoch : Nat
  previous : Grant
  clientId : String
  clientSecret : String
  strategy : τ

def Attempt.order {τ : Type} (a : Attempt τ) : Order := ⟨a.clientId,a.clientSecret,a.previous.refresh⟩

inductive Opening (τ : Type)
  | closed (result : Except Fault Unit)
  | waiting (ticket : Ticket)
  | exchanging (attempt : Attempt τ)

namespace Keeper
variable {ω τ : Type}

def joinedResult? (slot : Slot) (id : String) (ticket : Option Ticket) : Option (Except Fault Unit) :=
  match ticket with
  | none => none
  | some ticket =>
    if slot.epoch = ticket.epoch ∧ slot.ended ≠ ticket.ended ∧ slot.inFlight = false then
      some (if slot.lastSucceeded then .ok () else .error (.sharedRefreshFailed id))
    else none

/-- Opens an exchange, or says why there is none to open. With `within`, a grant
that is not stale by then is left alone. A caller that has waited shows the
ticket of its first wait. -/
def openRefresh (k : Keeper ω τ) (now : Instant) (id : String) (within : Option Span)
    (ticket : Option Ticket) : Opening τ × Keeper ω τ :=
  match k.roster.slot? id with
  | none => (.closed (.error (.unknownAccount id)),k)
  | some slot =>
    match joinedResult? slot id ticket with
    | some result => (.closed result,k)
    | none =>
      if slot.inFlight then (.waiting (ticket.getD ⟨slot.epoch,slot.ended⟩),k)
      else
        let account := slot.account
        if within.any (fun buffer => !account.grant.isExpired now buffer) then (.closed (.ok ()),k)
        else
          match k.strategies.get? account.enrollment.provider with
          | none =>
            (.closed (.error (.exchange (.unsupported account.enrollment.provider.name))),k)
          | some strategy =>
            if account.grant.isRefreshable then
              (.exchanging ⟨id,slot.epoch,account.grant,account.enrollment.clientId,
                  account.enrollment.clientSecret,strategy⟩,
                { k with roster := k.roster.put id { slot with inFlight := true } })
            else (.closed (.error (.exchange .noRefreshToken)),k)

def slotOf? (k : Keeper ω τ) (a : Attempt τ) : Option Slot :=
  (k.roster.slot? a.id).filter (·.epoch == a.epoch)

def endExchange (slot : Slot) (succeeded : Bool) : Slot :=
  { slot with inFlight := false, ended := slot.ended + 1, lastSucceeded := succeeded }

def endAttempt (k : Keeper ω τ) (a : Attempt τ) (succeeded : Bool) : Keeper ω τ :=
  match k.slotOf? a with
  | none => k
  | some slot => { k with roster := k.roster.put a.id (endExchange slot succeeded) }

/-- A reply puts the successor of the slot's grant in its place, unless the grant is no
longer the one that the exchange began with: then it stays. -/
def writesOf (now : Instant) (a : Attempt τ) (slot : Slot) (reply : Reply) : List Write :=
  if slot.account.grant ≠ a.previous then []
  else Write.keeping a.id (slot.account.grant.refreshed now reply)

def commit [Vault ω] (k : Keeper ω τ) (now : Instant) (a : Attempt τ) (slot : Slot) :
    Except Exchange.Fault Reply → Outcome Fault Unit (Keeper ω τ)
  | .error fault => (.error (.exchange fault),k)
  | .ok reply => k.writeAll (writesOf now a slot reply)

def settle [Vault ω] (k : Keeper ω τ) (now : Instant) (a : Attempt τ)
    (outcome : Except Exchange.Fault Reply) : Outcome Fault Unit (Keeper ω τ) :=
  match k.slotOf? a with
  | none => (.error (.unknownAccount a.id),k)
  | some slot =>
    let (result,k) := k.commit now a slot outcome
    (result,k.endAttempt a result.isOk)

def abandon (k : Keeper ω τ) (a : Attempt τ) : Keeper ω τ := k.endAttempt a false

end Keeper

end GrantKeeper
