import GrantKeeper.Keeper.Roster
import GrantKeeper.Account.Validity
import GrantKeeper.Exchange.Strategies
import GrantKeeper.Exchange.Order
import GrantKeeper.Vault.Basic

/-! The keeper: a roster over a vault, the strategies of exchange and the policy
of freshness. Each function here is one step that no other step interrupts. -/
namespace GrantKeeper
open Exchange (Strategies)
open Time (Instant Span)

structure Keeper (ω τ : Type) where
  vault : ω
  roster : Roster
  strategies : Strategies τ
  autoRefresh : Bool
  bufferMinutes : Nat

namespace Keeper
variable {ω τ : Type}

def defaultBuffer : Nat := 5

def largestBuffer : Nat := 525600

def new (vault : ω) (strategies : Strategies τ) : Keeper ω τ :=
  ⟨vault,.empty,strategies,true,defaultBuffer⟩

def buffer (k : Keeper ω τ) : Span := .ofSeconds (60 * k.bufferMinutes)

def setBuffer (k : Keeper ω τ) (minutes : Int) : Keeper ω τ :=
  { k with bufferMinutes := min minutes.toNat largestBuffer }

def setAutoRefresh (k : Keeper ω τ) (on : Bool) : Keeper ω τ := { k with autoRefresh := on }

def account? (k : Keeper ω τ) (id : String) : Option Account := (k.roster.slot? id).map (·.account)

def grant? (k : Keeper ω τ) (id : String) : Option Grant := k.roster.grant? id

def ids (k : Keeper ω τ) : List String := k.roster.ids

def knows (k : Keeper ω τ) (id : String) : Bool := (k.roster.slot? id).isSome

def register [Vault ω] (k : Keeper ω τ) (e : Enrollment) : Bool × Keeper ω τ :=
  if Enrollment.isUsableId e.id then
    let (loaded,vault) := Vault.load k.vault e.id
    (true,{ k with vault, roster := k.roster.enroll e (loaded.toOption.getD none) })
  else (false,k)

/-- One change to the keeper: to a record of the vault, or to the grant that a slot holds. -/
inductive Write
  | record (id : String) (g : Grant)
  | hold (id : String) (g : Grant)

def Write.keeping (id : String) (g : Grant) : List Write := [.record id g,.hold id g]

def write [Vault ω] (k : Keeper ω τ) : Write → Outcome Fault Unit (Keeper ω τ)
  | .record id g => (Vault.save k.vault id g).mapState fun vault => { k with vault }
  | .hold id g => (.ok (),{ k with roster := k.roster.hold id g })

def writeAll [Vault ω] (k : Keeper ω τ) : List Write → Outcome Fault Unit (Keeper ω τ)
  | [] => (.ok (),k)
  | w :: ws => (k.write w).andThen fun _ k => k.writeAll ws

def storeTokens [Vault ω] (k : Keeper ω τ) (now : Instant) (id access refresh : String)
    (lifetime : Int) : Outcome Fault Unit (Keeper ω τ) :=
  match k.roster.slot? id with
  | none => (.error (.unknownAccount id),k)
  | some slot =>
    k.writeAll (Write.keeping id
      { Grant.issued now access refresh lifetime with scope := slot.account.grant.scope })

def delete [Vault ω] (k : Keeper ω τ) (id : String) : Bool × Keeper ω τ :=
  let (_,vault) := Vault.erase k.vault id
  (k.knows id,{ k with vault, roster := k.roster.remove id })

def isExpired (k : Keeper ω τ) (now : Instant) (id : String) (minutes : Int) : Bool :=
  match Span.ofMinutes? minutes, k.grant? id with
  | some buffer, some g => g.isExpired now buffer
  | _, _ => true

def lifetime (k : Keeper ω τ) (now : Instant) (id : String) : Int :=
  match k.grant? id with
  | some g => g.lifetime now
  | none => 0

def usableToken? (k : Keeper ω τ) (now : Instant) (id : String) : Option String :=
  match k.grant? id with
  | some g => if g.isUsable now then some g.access else none
  | none => none

def wantsRefresh (k : Keeper ω τ) (now : Instant) (id : String) : Bool :=
  match k.grant? id with
  | some g => k.autoRefresh && g.isExpired now k.buffer
  | none => false

def staleIds (k : Keeper ω τ) (now : Instant) : List String :=
  k.ids.filter fun id =>
    match k.grant? id with
    | some g => g.isRefreshable && g.isExpired now k.buffer
    | none => false

def inspect (k : Keeper ω τ) : String :=
  Text.inspectRecord "TokenManager" [
    ("accounts",Text.ofNat k.roster.size),
    ("strategies",k.strategies.inspect),
    ("auto_refresh",Text.inspectBool k.autoRefresh),
    ("refresh_buffer",Text.inspectRecord "TimeDelta" [
      ("secs",Text.ofNat (60 * k.bufferMinutes)),("nanos","0")] false)] true

end Keeper

end GrantKeeper
