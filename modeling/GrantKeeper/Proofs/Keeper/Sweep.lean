import GrantKeeper.Proofs.Keeper.Apart
import GrantKeeper.Proofs.Keeper.Reading
import GrantKeeper.Proofs.Keeper.Spurned
import GrantKeeper.Proofs.Traffic.Independence

/-! Refreshing all stale accounts, one after the other. Each of them fares as if it were refreshed
alone from where the keeper stands at the start, whatever becomes of those before it. -/
namespace GrantKeeper
open Exchange (Order)
open Time (Instant Span)
open Vault (Lawful Parted)
open Vault.Lawful (record?)

variable {ω τ : Type}

namespace Keeper
variable {now : Instant} {k : Keeper ω τ} {id : String}

def Idle (k : Keeper ω τ) : Prop := ∀ id slot, k.roster.slot? id = some slot → slot.inFlight = false

def exchange? (k : Keeper ω τ) (id : String) : Option (τ × Order) :=
  (k.account? id).bind fun account =>
    (k.strategies.get? account.enrollment.provider).map fun strategy => (strategy,account.order)

theorem inStale : id ∈ k.staleIds now ↔ ∃ account, k.account? id = some account ∧
    account.grant.refresh ≠ "" ∧ account.grant.isExpired now k.buffer = true := by
  have known : id ∈ k.ids ↔ (k.roster.slot? id).isSome = true := Roster.inIds
  rw [staleIds,List.mem_filter,known]
  unfold grant? Roster.grant? account?
  cases k.roster.slot? id with
  | none => simp
  | some slot => simp [Grant.isRefreshable]

theorem staleAscend (k : Keeper ω τ) (now : Instant) : (k.staleIds now).Pairwise (· < ·) :=
  k.roster.idsAscend.filter _

theorem staleOnce (k : Keeper ω τ) (now : Instant) : (k.staleIds now).Nodup :=
  (k.staleAscend now).imp String.ne_of_lt

theorem openStale (stale : id ∈ k.staleIds now) (ticket : Option Ticket) :
    k.openRefresh now id (some k.buffer) ticket = k.openRefresh now id none ticket := by
  obtain ⟨account,held,-,expired⟩ := inStale.mp stale
  obtain ⟨slot,found,rfl⟩ := accountThere held
  simp [openRefresh,found,expired]

theorem staleOrders (idle : k.Idle) (stale : id ∈ k.staleIds now) :
    k.orders now id (some k.buffer) = (k.exchange? id).toList := by
  obtain ⟨account,held,refreshable,expired⟩ := inStale.mp stale
  unfold exchange?
  rw [held,Option.bind_some]
  obtain ⟨slot,found,rfl⟩ := accountThere held
  unfold orders
  cases served : k.strategies.get? slot.account.enrollment.provider with
  | none => simp [openRefresh,found,joinedResult?,idle id slot found,expired,served]
  | some strategy =>
    have refreshes : slot.account.grant.isRefreshable = true := by
      simpa [Grant.isRefreshable] using refreshable
    rw [openServed found (idle id slot found) refreshes served expired]
    rfl

end Keeper

variable [Vault ω]

namespace Vault

inductive SavesPast (id : String) (v : ω) : ω → Prop
  | none : SavesPast id v v
  | save {w other g} (past : SavesPast id v w) (apart : other ≠ id) (whole : g.IsWhole) :
      SavesPast id v (Vault.save w other g).2

/-- No saves for other accounts decide whether a save succeeds. -/
def SavesSettled (v : ω) : Prop :=
  ∀ id w, SavesPast id v w → ∀ g, (Vault.save w id g).1.isOk = (Vault.save v id g).1.isOk

variable {v w u : ω} {id : String}

theorem SavesPast.trans (first : SavesPast id v w) (second : SavesPast id w u) : SavesPast id v u := by
  induction second with
  | none => exact first
  | save _ apart whole ih => exact .save ih apart whole

theorem SavesPast.record [Lawful ω] (past : SavesPast id v w) : record? w id = record? v id := by
  induction past with
  | none => rfl
  | @save w other g _ apart whole ih =>
    cases save : Vault.save w other g with
    | mk result u =>
      cases result with
      | error fault => exact (Lawful.unsaved save id).trans ih
      | ok done => exact (Lawful.saved whole save id).trans ((if_neg apart).trans ih)

inductive SameOutcome {β : Type} (v w : ω) (id : String) : Except Fault β → Except Fault β → Prop
  | same (result) : SameOutcome v w id result result
  | unsaved {g fault other} (first : (Vault.save v id g).1 = .error fault)
      (second : (Vault.save w id g).1 = .error other) : SameOutcome v w id (.error fault) (.error other)

theorem SameOutcome.exactly {β : Type} {one two : Except Fault β} (same : SameOutcome v w id one two)
    (alike : ∀ g, (Vault.save w id g).1 = (Vault.save v id g).1) : two = one := by
  cases same with
  | same => rfl
  | unsaved first second => cases second.symm.trans ((alike _).trans first); rfl

theorem SavesPast.saves [Lawful ω] (past : SavesPast id v w) (settled : SavesSettled v) {g : Grant}
    (whole : g.IsWhole) : ∃ one two v' w', Vault.save v id g = (one,v') ∧ Vault.save w id g = (two,w') ∧
      SameOutcome v w id one two ∧ record? w' id = record? v' id := by
  have alike := settled id w past g
  cases first : Vault.save v id g with
  | mk one v' =>
    cases second : Vault.save w id g with
    | mk two w' =>
      refine ⟨one,two,v',w',rfl,rfl,?_⟩
      rw [first,second] at alike
      cases one with
      | error fault =>
        cases two with
        | ok done => cases alike
        | error other =>
          have kept := (Lawful.unsaved second id).trans past.record
          exact ⟨.unsaved (congrArg Prod.fst first) (congrArg Prod.fst second),
            kept.trans (Lawful.unsaved first id).symm⟩
      | ok done =>
        cases two with
        | error fault => cases alike
        | ok done =>
          have stored := (Lawful.saved whole first id).trans (if_pos rfl)
          exact ⟨.same _,(Lawful.saved whole second id).trans ((if_pos rfl).trans stored.symm)⟩

end Vault

namespace Keeper
open Vault (SavesPast SavesSettled SameOutcome)

variable (ask : Ask τ) (now : Instant) {k l m : Keeper ω τ} {id other : String}

structure PassesBy (id : String) (k l : Keeper ω τ) : Prop where
  slot : l.roster.slot? id = k.roster.slot? id
  vault : SavesPast id k.vault l.vault
  settings : l.settings = k.settings

theorem passesSelf (id : String) (k : Keeper ω τ) : PassesBy id k k := ⟨rfl,.none,rfl⟩

theorem PassesBy.trans (first : PassesBy id k l) (second : PassesBy id l m) : PassesBy id k m :=
  ⟨second.slot.trans first.slot,first.vault.trans second.vault,second.settings.trans first.settings⟩

theorem putPasses (apart : other ≠ id) (slot : Slot) {vault : ω} (past : SavesPast id k.vault vault) :
    PassesBy id k { k with vault, roster := k.roster.put other slot } :=
  ⟨putApart apart slot,past,rfl⟩

theorem openPasses (apart : other ≠ id) (within : Option Span) :
    PassesBy id k (k.openRefresh now other within none).2 := by
  have opened := k.opens now other within none
  generalize k.openRefresh now other within none = result at opened ⊢
  cases opened with
  | begins found => exact putPasses apart _ .none
  | _ => exact passesSelf id k

theorem settlePasses {a : Attempt τ} (apart : a.id ≠ id) (outcome : Except Exchange.Fault Reply) :
    PassesBy id k (k.settle now a outcome).2 := by
  have settled := k.settles now a outcome
  generalize k.settle now a outcome = result at settled ⊢
  cases settled with
  | gone absent => exact passesSelf id k
  | refused found => exact putPasses apart _ .none
  | kept found other => exact putPasses apart _ .none
  | @saved slot reply vault found same save =>
    have past : SavesPast id k.vault _ := .save .none apart (Grant.refreshedWhole a.previous now reply)
    rw [save] at past
    exact putPasses apart _ past
  | @unsaved slot reply fault vault found same save =>
    have past : SavesPast id k.vault _ := .save .none apart (Grant.refreshedWhole a.previous now reply)
    rw [save] at past
    exact putPasses apart _ past

theorem refreshPasses (apart : other ≠ id) (within : Option Span) :
    PassesBy id k (k.refreshSolo ask now other within).2 := by
  have opened := k.opens now other within none
  have passes : PassesBy id k (k.openRefresh now other within none).2 := openPasses now apart within
  unfold refreshSolo
  generalize k.openRefresh now other within none = result at opened passes ⊢
  cases opened with
  | begins found => exact passes.trans (settlePasses now apart _)
  | _ => exact passes

theorem eachPasses {buffer : Span} {ids : List String} (absent : id ∉ ids) :
    PassesBy id k (refreshEach ask now buffer ids k).2 := by
  induction ids generalizing k with
  | nil => exact passesSelf id k
  | cons next ids ih =>
    rw [List.mem_cons,not_or] at absent
    exact (refreshPasses ask now (Ne.symm absent.1) _).trans (ih absent.2)

structure FaresAs [Lawful ω] (id : String) (v w : ω) (one two : Outcome Fault Unit (Keeper ω τ)) : Prop where
  outcome : SameOutcome v w id one.1 two.1
  slot : two.2.roster.slot? id = one.2.roster.slot? id
  record : record? two.2.vault id = record? one.2.vault id

theorem PassesBy.unchanged [Lawful ω] (passes : PassesBy id k l) (result : Except Fault Unit) :
    FaresAs id k.vault l.vault (result,k) (result,l) :=
  ⟨.same result,passes.slot,passes.vault.record⟩

theorem keepingFares [Lawful ω] (passes : PassesBy id k l) (settled : SavesSettled k.vault) {g : Grant}
    (whole : g.IsWhole) {slot : Slot} (there : k.roster.slot? id = some slot) :
    FaresAs id k.vault l.vault (k.writeAll (Write.keeping id g)) (l.writeAll (Write.keeping id g)) := by
  have same : l.roster.slot? id = some slot := passes.slot.trans there
  obtain ⟨one,two,v,w,first,second,told,record⟩ := passes.vault.saves settled whole
  cases told with
  | same =>
    cases one with
    | error fault =>
      rw [keepingUnsaved first,keepingUnsaved second]
      exact ⟨.same _,passes.slot,record⟩
    | ok done =>
      rw [keepingSaved there first,keepingSaved same second]
      exact ⟨.same _,by simp only [Roster.setGrant,Roster.slotPut,if_true],record⟩
  | unsaved one two =>
    rw [keepingUnsaved first,keepingUnsaved second]
    exact ⟨.unsaved one two,passes.slot,record⟩

theorem commitFares [Lawful ω] {a : Attempt τ} (passes : PassesBy a.id k l)
    (settled : SavesSettled k.vault) {slot : Slot} (there : k.roster.slot? a.id = some slot)
    (outcome : Except Exchange.Fault Reply) :
    FaresAs a.id k.vault l.vault (k.commit now a slot outcome) (l.commit now a slot outcome) := by
  cases outcome with
  | error fault => exact passes.unchanged _
  | ok reply =>
    simp only [commit,writesOf]
    split
    · exact passes.unchanged _
    · exact keepingFares passes settled (Grant.refreshedWhole slot.account.grant now reply) there

theorem SameOutcome.isOk {v w : ω} {one two : Except Fault Unit} (told : SameOutcome v w id one two) :
    two.isOk = one.isOk := by
  cases told <;> rfl

theorem FaresAs.ended [Lawful ω] {v w : ω} {a : Attempt τ} {one two : Outcome Fault Unit (Keeper ω τ)}
    (fares : FaresAs a.id v w one two) : FaresAs a.id v w
      (one.1,one.2.endAttempt a one.1.isOk) (two.1,two.2.endAttempt a two.1.isOk) := by
  refine ⟨fares.outcome,?_,?_⟩
  all_goals
    simp only [endAttempt,slotOf?,fares.slot,SameOutcome.isOk fares.outcome]
    split
  · exact fares.slot
  · simp only [Roster.slotPut,if_true]
  · exact fares.record
  · exact fares.record

theorem settleFares [Lawful ω] {a : Attempt τ} (passes : PassesBy a.id k l)
    (settled : SavesSettled k.vault) (outcome : Except Exchange.Fault Reply) :
    FaresAs a.id k.vault l.vault (k.settle now a outcome) (l.settle now a outcome) := by
  cases found : k.slotOf? a with
  | none =>
    have gone : l.slotOf? a = none := by rwa [slotOf?,passes.slot]
    rw [settleGone found,settleGone gone]
    exact passes.unchanged _
  | some slot =>
    have still : l.slotOf? a = some slot := by rwa [slotOf?,passes.slot]
    rw [settleFound found,settleFound still]
    exact (commitFares now passes settled (slotOfFound found).1 outcome).ended

theorem PassesBy.put (passes : PassesBy id k l) (slot : Slot) :
    PassesBy id { k with roster := k.roster.put id slot } { l with roster := l.roster.put id slot } :=
  ⟨by rw [Roster.slotPut,Roster.slotPut,if_pos rfl,if_pos rfl],passes.vault,passes.settings⟩

theorem openPassed (passes : PassesBy id k l) (within : Option Span) (ticket : Option Ticket) :
    (l.openRefresh now id within ticket).1 = (k.openRefresh now id within ticket).1 ∧
      PassesBy id (k.openRefresh now id within ticket).2 (l.openRefresh now id within ticket).2 := by
  obtain ⟨told,⟨one,two⟩ | ⟨begun,one,two⟩⟩ := openAlike passes.slot passes.settings now within ticket
  · rw [one,two]
    exact ⟨told,passes⟩
  · rw [one,two]
    exact ⟨told,passes.put begun⟩

theorem refreshFares [Lawful ω] (passes : PassesBy id k l) (settled : SavesSettled k.vault)
    (within : Option Span) : FaresAs id k.vault l.vault
      (k.refreshSolo ask now id within) (l.refreshSolo ask now id within) := by
  obtain ⟨told,next⟩ := openPassed now passes within none
  have kept := (k.openConfined now id within none).2
  have keptToo := (l.openConfined now id within none).2
  have opened := k.opens now id within none
  unfold refreshSolo
  generalize k.openRefresh now id within none = one at *
  generalize l.openRefresh now id within none = two at *
  obtain ⟨opening,k'⟩ := one
  obtain ⟨opening',l'⟩ := two
  cases told
  rw [← kept,← keptToo]
  cases opening with
  | closed result => exact next.unchanged result
  | waiting ticket => exact next.unchanged _
  | exchanging a =>
    have mine : a.id = id := by
      cases opened
      rfl
    subst mine
    exact settleFares now next (by rw [kept]; exact settled) _

theorem refreshStale (stale : id ∈ k.staleIds now) :
    k.refreshSolo ask now id (some k.buffer) = k.refreshSolo ask now id none := by
  unfold refreshSolo
  rw [openStale stale]

theorem eachOrdersApart {buffer : Span} {ids : List String} (once : ids.Nodup)
    (passes : ∀ id ∈ ids, PassesBy id k l) :
    eachOrders ask now buffer ids l = ids.flatMap fun id => k.orders now id (some buffer) := by
  induction ids generalizing l with
  | nil => rfl
  | cons id ids ih =>
    obtain ⟨absent,once⟩ := List.nodup_cons.mp once
    have told := (openPassed now (passes id List.mem_cons_self) (some buffer) none).1
    have rest := ih (l := (l.refreshSolo ask now id (some buffer)).2) once fun other member =>
      have apart : id ≠ other := by
        rintro rfl
        exact absent member
      (passes other (List.mem_cons_of_mem _ member)).trans (refreshPasses ask now apart (some buffer))
    rw [eachOrders,rest,List.flatMap_cons]
    unfold orders
    rw [told]

theorem settleIdle {a : Attempt τ} (here : k.slotOf? a ≠ none) (outcome : Except Exchange.Fault Reply)
    (others : ∀ id slot, a.id ≠ id → k.roster.slot? id = some slot → slot.inFlight = false) :
    (k.settle now a outcome).2.Idle := by
  intro id slot found
  by_cases mine : a.id = id
  · subst mine
    have settled := k.settles now a outcome
    generalize k.settle now a outcome = result at settled found
    cases settled with
    | gone absent => exact absurd absent here
    | _ =>
      simp only [Roster.setGrant,Roster.slotPut,if_true,Option.some.injEq] at found
      subst found
      rfl
  · rw [settleApart mine] at found
    exact others id slot mine found

theorem refreshIdle (idle : k.Idle) (id : String) (within : Option Span) :
    (k.refreshSolo ask now id within).2.Idle := by
  have opened := k.opens now id within none
  unfold refreshSolo
  generalize k.openRefresh now id within none = result at opened ⊢
  cases opened with
  | @begins slot strategy found apart free stale served refreshable =>
    refine settleIdle now ?_ _ ?_
    · simp [slotOf?,Roster.slotPut]
    · intro other rest apart there
      exact idle other rest ((putApart apart _).symm.trans there)
  | _ => exact idle

theorem eachEntry {buffer : Span} {ids : List String} {entry : String × Except Fault Unit}
    (listed : entry ∈ (refreshEach ask now buffer ids k).1) :
    ∃ front back, ids = front ++ entry.1 :: back ∧
      let first := (refreshEach ask now buffer front k).2
      let here := first.refreshSolo ask now entry.1 (some buffer)
      entry.2 = here.1 ∧ (refreshEach ask now buffer ids k).2 = (refreshEach ask now buffer back here.2).2 := by
  induction ids generalizing k with
  | nil => cases listed
  | cons id ids ih =>
    rcases List.mem_cons.mp listed with rfl | listed
    · exact ⟨[],ids,rfl,rfl,rfl⟩
    · obtain ⟨front,back,rfl,told,last⟩ := ih listed
      exact ⟨id :: front,back,rfl,told,last⟩

theorem eachIds (buffer : Span) (ids : List String) (k : Keeper ω τ) :
    (refreshEach ask now buffer ids k).1.map Prod.fst = ids := by
  induction ids generalizing k with
  | nil => rfl
  | cons id ids ih => exact congrArg (id :: ·) (ih _)

theorem eachFares [Lawful ω] {buffer : Span} {ids : List String} (once : ids.Nodup)
    (settled : SavesSettled k.vault) {entry : String × Except Fault Unit}
    (listed : entry ∈ (refreshEach ask now buffer ids k).1) :
    ∃ w, SavesPast entry.1 k.vault w ∧ FaresAs entry.1 k.vault w
      (k.refreshSolo ask now entry.1 (some buffer)) (entry.2,(refreshEach ask now buffer ids k).2) := by
  obtain ⟨front,back,rfl,told,last⟩ := eachEntry ask now listed
  obtain ⟨-,once,apart⟩ := List.nodup_append.mp once
  have before : entry.1 ∉ front := fun member => apart _ member _ List.mem_cons_self rfl
  have behind : entry.1 ∉ back := (List.nodup_cons.mp once).1
  have passes : PassesBy entry.1 k (refreshEach ask now buffer front k).2 := eachPasses ask now before
  obtain ⟨outcome,slot,record⟩ := refreshFares ask now passes settled (some buffer)
  refine ⟨_,passes.vault,?_,?_,?_⟩
  · rw [told]
    exact outcome
  · rw [last]
    exact (eachPasses ask now behind).slot.trans slot
  · rw [last]
    exact (eachPasses ask now behind).vault.record.trans record

theorem sweepExchanges (idle : k.Idle) :
    k.sweepOrders ask now = (k.staleIds now).filterMap k.exchange? := by
  have passes : ∀ id ∈ k.staleIds now, PassesBy id k k := fun id _ => passesSelf id k
  rw [sweepOrders,eachOrdersApart ask now (k.staleOnce now) passes,List.filterMap_eq_flatMap_toList]
  exact List.flatMap_congr fun id stale => staleOrders idle stale

theorem sweepFares [Lawful ω] (settled : SavesSettled k.vault) {result : Except Fault Unit}
    (listed : (id,result) ∈ (k.sweepSolo ask now).1) : ∃ w, SavesPast id k.vault w ∧
      FaresAs id k.vault w (k.refreshSolo ask now id none) (result,(k.sweepSolo ask now).2) := by
  have stale : id ∈ k.staleIds now := by
    rw [← eachIds ask now k.buffer (k.staleIds now) k]
    exact List.mem_map_of_mem listed
  rw [← refreshStale ask now stale]
  exact eachFares ask now (k.staleOnce now) settled listed

end Keeper

namespace Caller
variable (f : Keeper.Ask τ) (now : Instant) {k : Keeper ω τ} {orders : List (τ × Order)}
  {last : Answer × Keeper ω τ}

theorem aloneRefresh (errand : Errand) (within : Option Span) (idle : k.Idle)
    (rest : Alone (fun strategy order => some (f strategy order)) now
      (after errand (k.refreshSolo f now errand.id within).1,(k.refreshSolo f now errand.id within).2)
      orders last) :
    Alone (fun strategy order => some (f strategy order)) now (.opening errand within none,k)
      (k.orders now errand.id within ++ orders) last := by
  have opened := k.opens now errand.id within none
  unfold Keeper.refreshSolo at rest
  unfold Keeper.orders
  refine .moves rfl ?_
  simp only [step]
  generalize k.openRefresh now errand.id within none = result at opened rest ⊢
  cases opened with
  | begins found => exact .answered rfl rest
  | waits found flight => cases (idle _ _ found).symm.trans flight
  | _ => exact rest

theorem aloneEach (id : String) (buffer : Span) (others : List String)
    (done : List (String × Except Fault Unit)) (idle : k.Idle) :
    Alone (fun strategy order => some (f strategy order)) now
      (.opening (.sweep id buffer others done) (some buffer) none,k)
      (Keeper.eachOrders f now buffer (id :: others) k)
      (.swept (done ++ (Keeper.refreshEach f now buffer (id :: others) k).1),
        (Keeper.refreshEach f now buffer (id :: others) k).2) := by
  induction others generalizing id done k with
  | nil => exact aloneRefresh f now (.sweep id buffer [] done) (some buffer) idle (.finished _ _)
  | cons next others ih =>
    have rest := ih next (done ++ [(id,(k.refreshSolo f now id (some buffer)).1)])
      (Keeper.refreshIdle f now idle id (some buffer))
    rw [List.append_assoc] at rest
    exact aloneRefresh f now (.sweep id buffer (next :: others) done) (some buffer) idle rest

theorem aloneSweep (idle : k.Idle) : Alone (fun strategy order => some (f strategy order)) now
    (startSweep k now,k) (k.sweepOrders f now)
    (.swept (k.sweepSolo f now).1,(k.sweepSolo f now).2) := by
  unfold startSweep Keeper.sweepOrders Keeper.sweepSolo
  cases k.staleIds now with
  | nil => exact .finished _ k
  | cons id others => exact aloneEach f now id k.buffer others [] idle

end Caller

namespace Keeper
open Vault (SavesPast SavesSettled Folder)

structure SweepsApart [Lawful ω] (ask : Ask τ) (now : Instant) (k : Keeper ω τ) : Prop where
  runs {orders : List (τ × Order)} {last : Answer × Keeper ω τ} :
    Caller.Alone (fun strategy order => some (ask strategy order)) now (Caller.startSweep k now,k)
      orders last ↔
    orders = k.sweepOrders ask now ∧ last = (.swept (k.sweepSolo ask now).1,(k.sweepSolo ask now).2)
  lone (id : String) {orders : List (τ × Order)} {last : Answer × Keeper ω τ} :
    Caller.Alone (fun strategy order => some (ask strategy order)) now (Caller.startRefresh id,k)
      orders last ↔
    orders = k.orders now id none ∧
      last = (.refreshed (k.refreshSolo ask now id none).1,(k.refreshSolo ask now id none).2)
  entries : (k.sweepSolo ask now).1.map Prod.fst = k.staleIds now
  ascend : (k.staleIds now).Pairwise (· < ·)
  stale {id : String} : id ∈ k.staleIds now ↔ ∃ account, k.account? id = some account ∧
    account.grant.refresh ≠ "" ∧ account.grant.isExpired now k.buffer = true
  exchanges : k.sweepOrders ask now = (k.staleIds now).filterMap k.exchange?
  fares {id : String} {result : Except Fault Unit} (listed : (id,result) ∈ (k.sweepSolo ask now).1) :
    ∃ w, SavesPast id k.vault w ∧
      FaresAs id k.vault w (k.refreshSolo ask now id none) (result,(k.sweepSolo ask now).2)
  exactly {id : String} {result : Except Fault Unit} (listed : (id,result) ∈ (k.sweepSolo ask now).1)
    (alike : ∀ w, SavesPast id k.vault w → ∀ g, (Vault.save w id g).1 = (Vault.save k.vault id g).1) :
    result = (k.refreshSolo ask now id none).1
  others {id : String} (unlisted : id ∉ k.staleIds now) :
    (k.sweepSolo ask now).2.roster.slot? id = k.roster.slot? id ∧
    record? (k.sweepSolo ask now).2.vault id = record? k.vault id

/-- With no exchange in flight, and with saves that do not get in each other's way, every stale
account is refreshed as if it were the only one, and no other account is touched. -/
theorem sweepsApart [Lawful ω] (ask : Ask τ) (now : Instant) (k : Keeper ω τ) (idle : k.Idle)
    (settled : SavesSettled k.vault) : k.SweepsApart ask now where
  runs {orders last} := by
    have run := Caller.aloneSweep ask now idle
    constructor
    · intro other
      exact Caller.aloneUnique other run
    · rintro ⟨rfl,rfl⟩
      exact run
  lone id {orders last} := by
    have run := Caller.aloneRefresh ask now (.refresh id) none idle (.finished _ _)
    rw [List.append_nil] at run
    constructor
    · intro other
      exact Caller.aloneUnique other run
    · rintro ⟨rfl,rfl⟩
      exact run
  entries := eachIds ask now k.buffer (k.staleIds now) k
  ascend := k.staleAscend now
  stale := inStale
  exchanges := sweepExchanges ask now idle
  fares listed := sweepFares ask now settled listed
  exactly listed alike := by
    obtain ⟨w,past,fares⟩ := sweepFares ask now settled listed
    exact fares.outcome.exactly (alike w past)
  others unlisted := by
    have passes : PassesBy _ k (k.sweepSolo ask now).2 := eachPasses ask now unlisted
    exact ⟨passes.slot,passes.vault.record⟩

theorem settledOfParted [Parted ω] {v : ω} (sound : Parted.Sound v) : SavesSettled v := by
  intro id w past g
  have same : Parted.Sound w ∧ Parted.cell w id = Parted.cell v id := by
    induction past with
    | none => exact ⟨sound,rfl⟩
    | @save w other g past apart whole ih =>
      obtain ⟨sound,cell⟩ := ih
      exact ⟨Parted.remains sound other (.save g),
        (Parted.apart sound apart (.save g)).trans cell⟩
  obtain ⟨one,two⟩ := Parted.alike same.1 sound same.2 (.save g)
  exact congrArg Except.isOk (Vault.Response.done.inj one)

theorem blockedSweepsApart :
    let held (id : String) (provider : Provider) (expiresAt : Instant) : Slot :=
      ⟨⟨⟨id,provider,"client","","",""⟩,⟨"A","R","","",expiresAt,.epoch,true⟩⟩,0,false,0,false⟩
    let late : Instant := ⟨3600000000000,by decide,by decide⟩
    let k : Keeper Folder Unit :=
      { vault := ⟨Disk.ofTree blockedRecord 7,⟨"/t"⟩,none,.countFrom 0,0⟩
        roster := (((Roster.empty.put "a" (held "a" .google .epoch)).put "b"
          (held "b" .google .epoch)).put "c" (held "c" .microsoft .epoch)).put "d" (held "d" .google late)
        strategies := Sample.keeper.strategies
        autoRefresh := true
        bufferMinutes := 5 }
    let ask : Ask Unit := fun _ _ => .ok Sample.reply
    k.Idle ∧ SavesSettled k.vault ∧ k.SweepsApart ask .epoch ∧
      (k.sweepSolo ask .epoch).1.map (fun entry => (entry.1,entry.2.isOk)) =
        [("a",true),("b",false),("c",false)] ∧
      k.sweepOrders ask .epoch = [((),⟨"client","","R"⟩),((),⟨"client","","R"⟩)] := by
  intro held late k ask
  have idle : k.Idle := by
    intro id slot found
    simp only [k,Roster.slotPut,Roster.slotEmpty] at found
    split_ifs at found <;> cases found <;> rfl
  have orderly : k.vault.Orderly ["t"] := by
    refine ⟨⟨rfl,⟨by decide +kernel,0o700,by decide +kernel⟩,by decide,by decide,?_⟩,by decide +kernel,
      by decide +kernel,blockedRecordUntaken⟩
    intro r none
    cases none
  have sound : Parted.Sound k.vault := ⟨["t"],orderly⟩
  have settled := settledOfParted sound
  exact ⟨idle,settled,sweepsApart ask .epoch k idle settled,by decide +kernel,by decide +kernel⟩

end Keeper

end GrantKeeper
