import GrantKeeper.Keeper.Caller
import GrantKeeper.Keeper.Solo
import GrantKeeper.Proofs.Keeper.Outcomes

/-! A caller who has the keeper to itself until it is finished. Its exchanges are answered
at once, or break off. What it does is settled: there is one run at most. -/
namespace GrantKeeper
open Exchange (Order)
open Time (Instant Span)

variable {ω τ : Type} {ask : τ → Order → Option (Except Exchange.Fault Reply)} {now : Instant}

namespace Caller

theorem startRefreshing {k : Keeper ω τ} {id : String} (wants : k.wantsRefresh now id = true) :
    startToken k now id = .opening (.token id) (some k.buffer) none := by
  have known : k.knows id = true := by
    unfold Keeper.wantsRefresh Keeper.grant? Roster.grant? at wants
    unfold Keeper.knows
    cases found : k.roster.slot? id with
    | none => simp [found] at wants
    | some slot => rfl
  simp [startToken,known,wants]

theorem startReading {k : Keeper ω τ} {id : String} (known : k.knows id = true)
    (wants : k.wantsRefresh now id = false) : startToken k now id = .reading id := by
  simp [startToken,known,wants]

theorem startUnknown {k : Keeper ω τ} {id : String} (unknown : k.knows id = false) :
    startToken k now id = .finished (.token none) := by
  simp [startToken,unknown]

variable [Vault ω]

inductive Alone (ask : τ → Order → Option (Except Exchange.Fault Reply)) (now : Instant) :
    Caller τ × Keeper ω τ → List (τ × Order) → Answer × Keeper ω τ → Prop
  | finished (answer k) : Alone ask now (.finished answer,k) [] (answer,k)
  | moves {caller k orders last} (moving : caller.rests = false)
      (next : Alone ask now (caller.step k now) orders last) : Alone ask now (caller,k) orders last
  | answered {errand a k outcome orders last} (said : ask a.strategy a.order = some outcome)
      (next : Alone ask now (settle k now errand a outcome) orders last) :
      Alone ask now (.exchanging errand a,k) ((a.strategy,a.order) :: orders) last
  | broke {errand a k orders last} (silent : ask a.strategy a.order = none)
      (next : Alone ask now (abandon k a) orders last) :
      Alone ask now (.exchanging errand a,k) ((a.strategy,a.order) :: orders) last

theorem aloneUnique {start : Caller τ × Keeper ω τ} {orders others : List (τ × Order)}
    {last other : Answer × Keeper ω τ} (first : Alone ask now start orders last)
    (second : Alone ask now start others other) : orders = others ∧ last = other := by
  induction first generalizing others other with
  | finished =>
    cases second with
    | finished => exact ⟨rfl,rfl⟩
    | moves moving => cases moving
  | moves moving next ih =>
    cases second with
    | moves _ later => exact ih later
    | finished | answered | broke => cases moving
  | answered said next ih =>
    cases second with
    | moves moving => cases moving
    | answered same later =>
      cases Option.some.inj (said.symm.trans same)
      obtain ⟨rfl,rfl⟩ := ih later
      exact ⟨rfl,rfl⟩
    | broke silent => cases said.symm.trans silent
  | broke silent next ih =>
    cases second with
    | moves moving => cases moving
    | answered said => cases silent.symm.trans said
    | broke _ later =>
      obtain ⟨rfl,rfl⟩ := ih later
      exact ⟨rfl,rfl⟩

theorem aloneReading (k : Keeper ω τ) (id : String) :
    Alone ask now (.reading id,k) [] (.token (k.usableToken? now id),k) :=
  .moves rfl (.finished _ k)

theorem aloneClosed {k next : Keeper ω τ} {id : String} {within : Option Span}
    {result : Except Fault Unit} (closed : k.openRefresh now id within none = (.closed result,next)) :
    Alone ask now (.opening (.token id) within none,k) [] (.token (next.usableToken? now id),next) := by
  refine .moves rfl ?_
  simp only [step,Errand.id,closed]
  exact aloneReading next id

theorem aloneExchanging {k next : Keeper ω τ} {id : String} {within : Option Span} {a : Attempt τ}
    {orders : List (τ × Order)} {last : Answer × Keeper ω τ}
    (begun : k.openRefresh now id within none = (.exchanging a,next))
    (rest : Alone ask now (.exchanging (.token id) a,next) orders last) :
    Alone ask now (.opening (.token id) within none,k) orders last := by
  refine .moves rfl ?_
  simp only [step,Errand.id,begun]
  exact rest

theorem aloneSettled {k : Keeper ω τ} {id : String} {a : Attempt τ}
    {outcome : Except Exchange.Fault Reply} (said : ask a.strategy a.order = some outcome) :
    Alone ask now (.exchanging (.token id) a,k) [(a.strategy,a.order)]
      (.token ((k.settle now a outcome).2.usableToken? now id),(k.settle now a outcome).2) :=
  .answered said (aloneReading _ id)

theorem aloneSolo (f : Keeper.Ask τ) (k : Keeper ω τ) {id : String}
    (idle : ∀ slot, k.roster.slot? id = some slot → slot.inFlight = false) :
    ∃ orders, Alone (fun strategy order => some (f strategy order)) now (startToken k now id,k) orders
      (.token (k.tokenSolo f now id).1,(k.tokenSolo f now id).2) := by
  unfold Keeper.tokenSolo
  cases wants : k.wantsRefresh now id with
  | false =>
    refine ⟨[],?_⟩
    cases known : k.knows id with
    | true =>
      rw [startReading known wants]
      exact aloneReading k id
    | false =>
      have absent : k.roster.slot? id = none := by simpa [Keeper.knows] using known
      have nothing : k.usableToken? now id = none := by
        simp [Keeper.usableToken?,Keeper.grant?,Roster.grant?,absent]
      rw [startUnknown known]
      simp only [Bool.false_eq_true,if_false,nothing]
      exact .finished _ k
  | true =>
    rw [startRefreshing wants]
    simp only [if_true,Keeper.refreshSolo]
    have opened := k.opens now id (some k.buffer) none
    cases came : k.openRefresh now id (some k.buffer) none with
    | mk opening next =>
      rw [came] at opened
      cases opening with
      | closed result => exact ⟨[],aloneClosed came⟩
      | waiting ticket =>
        cases opened with
        | waits found flight => cases (idle _ found).symm.trans flight
      | exchanging a => exact ⟨_,aloneExchanging came (aloneSettled rfl)⟩

end Caller

end GrantKeeper
