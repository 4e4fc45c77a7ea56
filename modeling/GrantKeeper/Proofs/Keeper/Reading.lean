import GrantKeeper.Proofs.Keeper.Alone
import GrantKeeper.Proofs.Keeper.Due
import GrantKeeper.Proofs.Traffic.Basic
import GrantKeeper.Proofs.Vault.Lawful

/-! What a lone caller gets who reads the token of an account. A stale grant is refreshed first
if that can be done. Whatever fails, the old grant then serves for as long as it lasts. -/
namespace GrantKeeper
open Exchange (Order)
open Time (Instant Span)
open Vault (Lawful)
open Vault.Lawful (record?)

variable {ω τ : Type}

def Account.order (account : Account) : Order :=
  ⟨account.enrollment.clientId,account.enrollment.clientSecret,account.grant.refresh⟩

namespace Keeper

variable {k next : Keeper ω τ} {id : String} {account : Account} {now : Instant} {strategy : τ}
  {a : Attempt τ} {slot : Slot}

theorem accountThere (found : k.account? id = some account) :
    ∃ slot, k.roster.slot? id = some slot ∧ slot.account = account :=
  Option.map_eq_some_iff.mp found

theorem accountGrant (found : k.account? id = some account) : k.grant? id = some account.grant := by
  obtain ⟨slot,there,rfl⟩ := accountThere found
  simp [grant?,Roster.grant?,there]

theorem usableAccount (found : k.account? id = some account) (now : Instant) :
    k.usableToken? now id = account.grant.handed? now := by
  rw [usableToken?,accountGrant found,← Grant.usableHanded]

theorem wantsAccount (found : k.account? id = some account) (now : Instant) :
    k.wantsRefresh now id = (k.autoRefresh && k.isExpired now id k.bufferMinutes) := by
  rw [wantsRefresh,accountGrant found,expiredBuffer (accountGrant found)]

theorem slotOfPut (k : Keeper ω τ) (epoch : slot.epoch = a.epoch) :
    slotOf? { k with roster := k.roster.put a.id slot } a = some slot := by
  simp [slotOf?,Roster.slotPut,epoch]

theorem accountMarked (found : k.account? id = some account) (slot : Slot) (same : slot.account = account)
    (vault : ω) (other : String) :
    account? { k with vault, roster := k.roster.put id slot } other = k.account? other := by
  change ((k.roster.put id slot).slot? other).map _ = _
  rw [Roster.slotPut]
  split
  · rename_i here
    subst here
    rw [found,Option.map_some,same]
  · rfl

structure Stale (k : Keeper ω τ) (now : Instant) (id : String) (account : Account) : Prop where
  found : k.account? id = some account
  automatic : k.autoRefresh = true
  expired : k.isExpired now id k.bufferMinutes = true

theorem Stale.start (stale : k.Stale now id account) :
    Caller.startToken k now id = .opening (.token id) (some k.buffer) none := by
  refine Caller.startRefreshing ?_
  rw [wantsAccount stale.found,stale.automatic,stale.expired]
  rfl

structure Begins (k : Keeper ω τ) (id : String) (account : Account) (strategy : τ) (a : Attempt τ)
    (next : Keeper ω τ) : Prop where
  strategy : a.strategy = strategy
  order : a.order = account.order
  previous : a.previous = account.grant
  own : a.id = id
  vault : next.vault = k.vault
  accounts : ∀ other, next.account? other = k.account? other
  slot : ∃ slot, next.slotOf? a = some slot ∧ slot.account = account

theorem Begins.present (begins : k.Begins id account strategy a next) : next.slotOf? a ≠ none := by
  obtain ⟨slot,found,-⟩ := begins.slot
  simp [found]

theorem Begins.there (begins : k.Begins id account strategy a next) (found : next.slotOf? a = some slot) :
    slot.account = account ∧ next.account? a.id = some account := by
  obtain ⟨known,there,same⟩ := begins.slot
  cases found.symm.trans there
  refine ⟨same,?_⟩
  rw [account?,(slotOfFound found).1,Option.map_some,same]

theorem Begins.same (begins : k.Begins id account strategy a next) (found : next.slotOf? a = some slot) :
    slot.account.grant = a.previous := by
  rw [(begins.there found).1,begins.previous]

section
variable (idle : ∀ slot, k.roster.slot? id = some slot → slot.inFlight = false)
include idle

theorem Stale.closes (stale : k.Stale now id account)
    (unable : k.strategies.get? account.enrollment.provider = none ∨ account.grant.refresh = "") :
    ∃ fault, k.openRefresh now id (some k.buffer) none = (.closed (.error fault),k) := by
  obtain ⟨slot,there,rfl⟩ := accountThere stale.found
  have expired := stale.expired
  rw [expiredBuffer (accountGrant stale.found)] at expired
  cases served : k.strategies.get? slot.account.enrollment.provider with
  | none =>
    refine ⟨.exchange (.unsupported slot.account.enrollment.provider.name),?_⟩
    simp [openRefresh,there,joinedResult?,idle slot there,expired,served]
  | some strategy =>
    have bare : slot.account.grant.isRefreshable = false := by
      rcases unable with unserved | bare
      · cases served.symm.trans unserved
      · simp [Grant.isRefreshable,bare]
    refine ⟨.exchange .noRefreshToken,?_⟩
    simp [openRefresh,there,joinedResult?,idle slot there,expired,served,bare]

theorem Stale.begins (stale : k.Stale now id account)
    (served : k.strategies.get? account.enrollment.provider = some strategy)
    (refreshable : account.grant.refresh ≠ "") :
    ∃ a next, k.openRefresh now id (some k.buffer) none = (.exchanging a,next) ∧
      k.Begins id account strategy a next := by
  obtain ⟨slot,there,rfl⟩ := accountThere stale.found
  have expired := stale.expired
  rw [expiredBuffer (accountGrant stale.found)] at expired
  have refreshes : slot.account.grant.isRefreshable = true := by
    simpa [Grant.isRefreshable] using refreshable
  refine ⟨_,_,openServed there (idle slot there) refreshes served expired,rfl,rfl,rfl,rfl,rfl,?_,?_⟩
  · exact accountMarked stale.found { slot with inFlight := true } rfl k.vault
  · exact ⟨_,slotOfPut k rfl,rfl⟩

end

variable [Vault ω]

def ReadsAs (ask : τ → Order → Option (Except Exchange.Fault Reply)) (now : Instant) (k : Keeper ω τ)
    (id : String) (orders : List (τ × Order)) (answer : Answer) (last : Keeper ω τ) : Prop :=
  Caller.Alone ask now (.startToken k now id,k) orders (answer,last)

variable {ask : τ → Order → Option (Except Exchange.Fault Reply)}

theorem readUnknown (unknown : k.account? id = none) : k.ReadsAs ask now id [] (.token none) k := by
  have absent : k.knows id = false := by simpa [account?,knows] using unknown
  unfold ReadsAs
  rw [Caller.startUnknown absent]
  exact .finished _ k

theorem readUnasked (found : k.account? id = some account)
    (unasked : k.autoRefresh = false ∨ k.isExpired now id k.bufferMinutes = false) :
    k.ReadsAs ask now id [] (.token (account.grant.handed? now)) k := by
  obtain ⟨slot,there,-⟩ := accountThere found
  have known : k.knows id = true := by simp [knows,there]
  have wants : k.wantsRefresh now id = false := by
    rw [wantsAccount found]
    rcases unasked with off | current
    · rw [off,Bool.false_and]
    · rw [current,Bool.and_false]
  unfold ReadsAs
  rw [Caller.startReading known wants,← usableAccount found]
  exact Caller.aloneReading k id

def Fails (k : Keeper ω τ) (now : Instant) (id : String) (g : Grant)
    (outcome : Except Exchange.Fault Reply) : Prop :=
  ∀ reply, outcome = .ok reply → (Vault.save k.vault id (g.refreshed now reply)).1 ≠ .ok ()

structure Unaltered (k last : Keeper ω τ) : Prop where
  accounts : ∀ id, last.account? id = k.account? id
  records : ∀ [Lawful ω], ∀ id, record? last.vault id = record? k.vault id

structure Regranted (k last : Keeper ω τ) (id : String) (account : Account) : Prop where
  accounts : ∀ other, last.account? other = if id = other then some account else k.account? other
  records : ∀ [Lawful ω], ∀ other, record? last.vault other =
    if id = other then some (some account.grant) else record? k.vault other

theorem Begins.marks (begins : k.Begins id account strategy a next) (found : next.slotOf? a = some slot)
    (succeeded : Bool) {vault : ω}
    (kept : ∀ [Lawful ω], ∀ other, record? vault other = record? k.vault other) :
    k.Unaltered { next with vault, roster := next.roster.put a.id (endExchange slot succeeded) } := by
  obtain ⟨same,present⟩ := begins.there found
  refine ⟨?_,kept⟩
  intro other
  have marked := accountMarked present (endExchange slot succeeded) same vault other
  exact marked.trans (begins.accounts other)

theorem Begins.abandoned (begins : k.Begins id account strategy a next) :
    k.Unaltered (next.abandon a) := by
  have ended := next.abandons a
  generalize next.abandon a = last at ended ⊢
  cases ended with
  | gone absent => exact absurd absent begins.present
  | broken found => exact begins.marks found false fun other => by rw [begins.vault]

theorem Begins.fails (begins : k.Begins id account strategy a next) {outcome : Except Exchange.Fault Reply}
    (fails : k.Fails now id account.grant outcome) : k.Unaltered (next.settle now a outcome).2 := by
  have settled := next.settles now a outcome
  generalize next.settle now a outcome = result at settled ⊢
  cases settled with
  | gone absent => exact absurd absent begins.present
  | refused found => exact begins.marks found false fun other => by rw [begins.vault]
  | kept found other => exact absurd (begins.same found) other
  | @saved slot reply vault found same save =>
    rw [begins.vault,begins.own,begins.previous] at save
    exact absurd (congrArg Prod.fst save) (fails reply rfl)
  | unsaved found same save =>
    rw [begins.vault] at save
    exact begins.marks found false (Lawful.unsaved save)

theorem Begins.renews (begins : k.Begins id account strategy a next) {reply : Reply}
    (saves : (Vault.save k.vault id (account.grant.refreshed now reply)).1 = .ok ()) :
    k.Regranted (next.settle now a (.ok reply)).2 id
      { account with grant := account.grant.refreshed now reply } := by
  have settled := next.settles now a (.ok reply)
  generalize next.settle now a (.ok reply) = result at settled ⊢
  cases settled with
  | gone absent => exact absurd absent begins.present
  | kept found other => exact absurd (begins.same found) other
  | @saved slot _ vault found same save =>
    obtain ⟨here,-⟩ := begins.there found
    rw [begins.vault,begins.own,begins.previous] at save
    refine ⟨?_,Lawful.saved (Grant.refreshedWhole account.grant now reply) save⟩
    intro other
    change ((next.roster.put a.id _).slot? other).map _ = _
    rw [Roster.slotPut,begins.own]
    split
    · rw [Option.map_some,begins.previous]
      exact congrArg (fun enrollment => some (Account.mk enrollment _))
        (congrArg Account.enrollment here)
    · exact begins.accounts other
  | unsaved found same save =>
    rw [begins.vault,begins.own,begins.previous] at save
    cases saves.symm.trans (congrArg Prod.fst save)

structure ReadsToken (ask : τ → Order → Option (Except Exchange.Fault Reply)) (now : Instant)
    (k : Keeper ω τ) (id : String) : Prop where
  ends : ∃ orders answer last, k.ReadsAs ask now id orders answer last
  once {orders others : List (τ × Order)} {answer other : Answer} {last final : Keeper ω τ} :
    k.ReadsAs ask now id orders answer last → k.ReadsAs ask now id others other final →
      orders = others ∧ answer = other ∧ last = final
  solo {f} (told : ask = fun strategy order => some (f strategy order)) :
    ∃ orders, k.ReadsAs ask now id orders (.token (k.tokenSolo f now id).1) (k.tokenSolo f now id).2
  unknown (unknown : k.account? id = none) : k.ReadsAs ask now id [] (.token none) k
  unasked {account : Account} (found : k.account? id = some account)
    (unasked : k.autoRefresh = false ∨ k.isExpired now id k.bufferMinutes = false) :
    k.ReadsAs ask now id [] (.token (account.grant.handed? now)) k
  unable {account : Account} (stale : k.Stale now id account)
    (unable : k.strategies.get? account.enrollment.provider = none ∨ account.grant.refresh = "") :
    k.ReadsAs ask now id [] (.token (account.grant.handed? now)) k
  renewed {account : Account} {strategy : τ} {reply : Reply} (stale : k.Stale now id account)
    (served : k.strategies.get? account.enrollment.provider = some strategy)
    (refreshable : account.grant.refresh ≠ "")
    (said : ask strategy account.order = some (.ok reply))
    (saves : (Vault.save k.vault id (account.grant.refreshed now reply)).1 = .ok ()) :
    let g := account.grant.refreshed now reply
    ∃ last, k.ReadsAs ask now id [(strategy,account.order)]
      (.token (if now < g.expiresAt then some reply.access else none)) last ∧
      k.Regranted last id { account with grant := g }
  failed {account : Account} {strategy : τ} {outcome : Except Exchange.Fault Reply}
    (stale : k.Stale now id account)
    (served : k.strategies.get? account.enrollment.provider = some strategy)
    (refreshable : account.grant.refresh ≠ "") (said : ask strategy account.order = some outcome)
    (fails : k.Fails now id account.grant outcome) :
    ∃ last, k.ReadsAs ask now id [(strategy,account.order)] (.token (account.grant.handed? now)) last ∧
      k.Unaltered last
  broke {account : Account} {strategy : τ} (stale : k.Stale now id account)
    (served : k.strategies.get? account.enrollment.provider = some strategy)
    (refreshable : account.grant.refresh ≠ "") (silent : ask strategy account.order = none) :
    ∃ last, k.ReadsAs ask now id [(strategy,account.order)] .broken last ∧ k.Unaltered last

section
variable (idle : ∀ slot, k.roster.slot? id = some slot → slot.inFlight = false)
include idle

theorem readUnable (stale : k.Stale now id account)
    (unable : k.strategies.get? account.enrollment.provider = none ∨ account.grant.refresh = "") :
    k.ReadsAs ask now id [] (.token (account.grant.handed? now)) k := by
  obtain ⟨fault,closed⟩ := stale.closes idle unable
  unfold ReadsAs
  rw [stale.start,← usableAccount stale.found]
  exact Caller.aloneClosed closed

variable (stale : k.Stale now id account)
  (served : k.strategies.get? account.enrollment.provider = some strategy)
  (refreshable : account.grant.refresh ≠ "")
include stale served refreshable

theorem readSettled {outcome : Except Exchange.Fault Reply}
    (said : ask strategy account.order = some outcome) :
    ∃ a next, k.Begins id account strategy a next ∧
      k.ReadsAs ask now id [(strategy,account.order)]
        (.token ((next.settle now a outcome).2.usableToken? now id)) (next.settle now a outcome).2 := by
  obtain ⟨a,next,opens,begins⟩ := stale.begins idle served refreshable
  refine ⟨a,next,begins,?_⟩
  unfold ReadsAs
  rw [stale.start,← begins.strategy,← begins.order]
  refine Caller.aloneExchanging opens (Caller.aloneSettled ?_)
  rw [begins.strategy,begins.order]
  exact said

theorem readRenewed {reply : Reply} (said : ask strategy account.order = some (.ok reply))
    (saves : (Vault.save k.vault id (account.grant.refreshed now reply)).1 = .ok ()) :
    let g := account.grant.refreshed now reply
    ∃ last, k.ReadsAs ask now id [(strategy,account.order)]
      (.token (if now < g.expiresAt then some reply.access else none)) last ∧
      k.Regranted last id { account with grant := g } := by
  intro g
  obtain ⟨a,next,begins,reads⟩ := readSettled idle stale served refreshable said
  have renews := begins.renews saves
  have held := renews.accounts id
  rw [if_pos rfl] at held
  have handed : g.handed? now = if now < g.expiresAt then some reply.access else none := by
    simp [g,Grant.handed?,Grant.refreshed]
  rw [usableAccount held,handed] at reads
  exact ⟨_,reads,renews⟩

theorem readFailed {outcome : Except Exchange.Fault Reply}
    (said : ask strategy account.order = some outcome) (fails : k.Fails now id account.grant outcome) :
    ∃ last, k.ReadsAs ask now id [(strategy,account.order)] (.token (account.grant.handed? now)) last ∧
      k.Unaltered last := by
  obtain ⟨a,next,begins,reads⟩ := readSettled idle stale served refreshable said
  have unaltered := begins.fails fails
  have held := unaltered.accounts id
  rw [stale.found] at held
  rw [usableAccount held] at reads
  exact ⟨_,reads,unaltered⟩

theorem readBroke (silent : ask strategy account.order = none) :
    ∃ last, k.ReadsAs ask now id [(strategy,account.order)] .broken last ∧ k.Unaltered last := by
  obtain ⟨a,next,opens,begins⟩ := stale.begins idle served refreshable
  refine ⟨next.abandon a,?_,begins.abandoned⟩
  unfold ReadsAs
  rw [stale.start,← begins.strategy,← begins.order]
  refine Caller.aloneExchanging opens (.broke ?_ (.finished _ _))
  rw [begins.strategy,begins.order]
  exact silent

end

theorem readEnds (idle : ∀ slot, k.roster.slot? id = some slot → slot.inFlight = false) :
    ∃ orders answer last, k.ReadsAs ask now id orders answer last := by
  cases found : k.account? id with
  | none => exact ⟨_,_,_,readUnknown found⟩
  | some account =>
    by_cases unasked : k.autoRefresh = false ∨ k.isExpired now id k.bufferMinutes = false
    · exact ⟨_,_,_,readUnasked found unasked⟩
    · simp only [not_or,Bool.not_eq_false] at unasked
      have stale : k.Stale now id account := ⟨found,unasked.1,unasked.2⟩
      by_cases bare : account.grant.refresh = ""
      · exact ⟨_,_,_,readUnable idle stale (.inr bare)⟩
      · cases served : k.strategies.get? account.enrollment.provider with
        | none => exact ⟨_,_,_,readUnable idle stale (.inl served)⟩
        | some strategy =>
          cases said : ask strategy account.order with
          | none =>
            obtain ⟨last,reads,-⟩ := readBroke idle stale served bare said
            exact ⟨_,_,_,reads⟩
          | some outcome =>
            obtain ⟨a,next,-,reads⟩ := readSettled idle stale served bare said
            exact ⟨_,_,_,reads⟩

/-- With no exchange of the account in flight there is one way to read its token. It asks the
provider once if the grant is stale and can be refreshed, and else not at all. -/
theorem tokenReadAlone (ask : τ → Order → Option (Except Exchange.Fault Reply)) (now : Instant)
    (k : Keeper ω τ) (id : String)
    (idle : ∀ slot, k.roster.slot? id = some slot → slot.inFlight = false) :
    k.ReadsToken ask now id where
  ends := readEnds idle
  once first second := by
    obtain ⟨orders,last⟩ := Caller.aloneUnique first second
    exact ⟨orders,congrArg Prod.fst last,congrArg Prod.snd last⟩
  solo {f} told := by
    subst told
    exact Caller.aloneSolo f k idle
  unknown := readUnknown
  unasked := readUnasked
  unable := readUnable idle
  renewed stale served refreshable said saves := readRenewed idle stale served refreshable said saves
  failed stale served refreshable said fails := readFailed idle stale served refreshable said fails
  broke := readBroke idle

theorem staleTokenRead :
    let k := ((Sample.keeper.register Sample.enrollment).2.storeTokens .epoch "a" "A" "R" 60).2
    let ask := fun (_ : Unit) (_ : Order) => some (Except.ok Sample.reply)
    (∀ slot, k.roster.slot? "a" = some slot → slot.inFlight = false) ∧
    ∃ last, k.ReadsAs ask .epoch "a" [((),⟨"client","","R"⟩)] (.token (some "B")) last ∧
      (last.account? "a").map (·.grant.access) = some "B" := by
  intro k ask
  have idle : ∀ slot, k.roster.slot? "a" = some slot → slot.inFlight = false := by
    intro slot there
    cases there
    rfl
  have stale : k.Stale .epoch "a" ⟨Sample.enrollment,Grant.issued .epoch "A" "R" 60⟩ :=
    ⟨rfl,rfl,by decide +kernel⟩
  have saves : (Vault.save k.vault "a" ((Grant.issued .epoch "A" "R" 60).refreshed .epoch Sample.reply)).1
      = .ok () := rfl
  obtain ⟨last,reads,renewed⟩ :=
    (tokenReadAlone ask .epoch k "a" idle).renewed stale rfl (show "R" ≠ "" by decide) rfl saves
  refine ⟨idle,last,reads,?_⟩
  rw [renewed.accounts "a"]
  rfl

end Keeper

end GrantKeeper
