import GrantKeeper.Keeper.Refresh

/-! Callers as they stand between the steps of the keeper. A caller takes one
step whenever it has the keeper to itself; it rests while it waits for another
caller's exchange or for the answer to its own. -/
namespace GrantKeeper
open Time (Instant Span)

inductive Errand
  | refresh (id : String)
  | token (id : String)
  -- all stale accounts: the one at hand, those to come and what became of the others
  | sweep (id : String) (buffer : Span) (others : List String) (done : List (String × Except Fault Unit))
  deriving Repr

inductive Answer
  | refreshed (result : Except Fault Unit)
  | token (value : Option String)
  | swept (results : List (String × Except Fault Unit))
  | broken
  deriving Repr

inductive Caller (τ : Type)
  | opening (errand : Errand) (within : Option Span) (ticket : Option Ticket)
  -- waits until some exchange ends or some account is deleted
  | waiting (errand : Errand) (within : Option Span) (ticket : Ticket)
  | exchanging (errand : Errand) (attempt : Attempt τ)
  | reading (id : String)
  | finished (answer : Answer)

def Errand.id : Errand → String
  | .refresh id | .token id | .sweep id .. => id

namespace Caller
variable {ω τ : Type}

def after (errand : Errand) (result : Except Fault Unit) : Caller τ :=
  match errand with
  | .refresh _ => .finished (.refreshed result)
  | .token id => .reading id
  | .sweep id _ [] done => .finished (.swept (done ++ [(id,result)]))
  | .sweep id buffer (next :: others) done =>
    .opening (.sweep next buffer others (done ++ [(id,result)])) (some buffer) none

def startRefresh (id : String) : Caller τ := .opening (.refresh id) none none

def startToken (k : Keeper ω τ) (now : Instant) (id : String) : Caller τ :=
  if k.knows id then
    if k.wantsRefresh now id then .opening (.token id) (some k.buffer) none else .reading id
  else .finished (.token none)

def startSweep (k : Keeper ω τ) (now : Instant) : Caller τ :=
  match k.staleIds now with
  | [] => .finished (.swept [])
  | id :: others => .opening (.sweep id k.buffer others []) (some k.buffer) none

def step (k : Keeper ω τ) (now : Instant) : Caller τ → Caller τ × Keeper ω τ
  | .opening errand within ticket =>
    match k.openRefresh now errand.id within ticket with
    | (.closed result,k) => (after errand result,k)
    | (.waiting ticket,k) => (.waiting errand within ticket,k)
    | (.exchanging attempt,k) => (.exchanging errand attempt,k)
  | .reading id => (.finished (.token (k.usableToken? now id)),k)
  | caller => (caller,k)

def settle [Vault ω] (k : Keeper ω τ) (now : Instant) (errand : Errand) (attempt : Attempt τ)
    (outcome : Except Exchange.Fault Reply) : Caller τ × Keeper ω τ :=
  let (result,k) := k.settle now attempt outcome
  (after errand result,k)

def abandon (k : Keeper ω τ) (attempt : Attempt τ) : Caller τ × Keeper ω τ :=
  (.finished .broken,k.abandon attempt)

def wake : Caller τ → Caller τ
  | .waiting errand within ticket => .opening errand within (some ticket)
  | caller => caller

def rests : Caller τ → Bool
  | .waiting .. | .exchanging .. | .finished _ => true
  | .opening .. | .reading _ => false

end Caller

end GrantKeeper
