import GrantKeeper.Proofs.Keeper.Apart
import GrantKeeper.Proofs.Traffic.Changes
import GrantKeeper.Proofs.Traffic.Flights
import GrantKeeper.Proofs.Vault.Candid

/-! What becomes of grants that others leave while an exchange is under way. The
exchange renews only the grant that it began with, and its record before the grant. -/
namespace GrantKeeper
open Time (Instant Span)
open Vault (Lawful Candid)
open Vault.Lawful (record?)
variable {ω τ : Type}

namespace Event

def gives (id : String) : Event → Bool
  | .register e => e.id == id
  | .storeTokens other .. => other == id
  | _ => false

def deletes (id : String) : Event → Bool
  | .delete other => other == id
  | _ => false

def endsOf (n : Nat) : Event → Bool
  | .settle m _ | .abandon m => m == n
  | _ => false

end Event

theorem Roster.mapPut {α : Type} {r : Roster} {other : String} {old new : Slot}
    (found : r.slot? other = some old) (f : Slot → α) (same : f new = f old) (id : String) :
    ((r.put other new).slot? id).map f = (r.slot? id).map f := by
  rw [slotPut]
  split
  · rename_i here
    subst here
    rw [found,Option.map_some,Option.map_some,same]
  · rfl

namespace Keeper

def held? (k : Keeper ω τ) (id : String) : Option (Grant × Nat) :=
  (k.roster.slot? id).map fun slot => (slot.account.grant,slot.epoch)

variable {k : Keeper ω τ} {id : String}

theorem heldThere {a : Attempt τ} {slot : Slot} (found : k.slotOf? a = some slot) :
    k.held? a.id = some (slot.account.grant,a.epoch) := by
  obtain ⟨there,epoch⟩ := slotOfFound found
  rw [held?,there,← epoch]
  rfl

theorem heldGrant {g : Grant} {epoch : Nat} (held : k.held? id = some (g,epoch)) :
    k.grant? id = some g := by
  obtain ⟨slot,there,same⟩ := Option.map_eq_some_iff.mp held
  cases same
  rw [grant?,Roster.grant?,there]
  rfl

theorem heldEpoch {g : Grant} {epoch : Nat} (held : k.held? id = some (g,epoch)) :
    (k.roster.slot? id).map (·.epoch) = some epoch := by
  obtain ⟨slot,there,same⟩ := Option.map_eq_some_iff.mp held
  cases same
  rw [there]
  rfl

theorem heldOpen (k : Keeper ω τ) (now : Instant) (other : String) (within : Option Span)
    (ticket : Option Ticket) (id : String) :
    (k.openRefresh now other within ticket).2.held? id = k.held? id := by
  have opened := k.opens now other within ticket
  generalize k.openRefresh now other within ticket = result at opened ⊢
  cases opened with
  | begins found => exact Roster.mapPut found _ (by rfl) id
  | _ => rfl

theorem heldCaller (k : Keeper ω τ) (now : Instant) (caller : Caller τ) (id : String) :
    (caller.step k now).2.held? id = k.held? id := by
  cases caller with
  | opening errand within ticket =>
    have kept := k.heldOpen now errand.id within ticket id
    simp only [Caller.step]
    generalize k.openRefresh now errand.id within ticket = result at kept ⊢
    obtain ⟨opening,next⟩ := result
    cases opening <;> exact kept
  | _ => rfl

theorem heldAbandon (k : Keeper ω τ) (a : Attempt τ) (id : String) :
    (k.abandon a).held? id = k.held? id := by
  have ended := k.abandons a
  generalize k.abandon a = next at ended ⊢
  cases ended with
  | gone absent => rfl
  | broken found => exact Roster.mapPut (slotOfFound found).1 _ (by rfl) id

variable [Vault ω]

-- the keepers that are gone through while the writes are made, one after each of them
def passes (k : Keeper ω τ) : List Write → List (Keeper ω τ)
  | [] => []
  | w :: ws =>
    match k.write w with
    | (.error _,next) => [next]
    | (.ok _,next) => next :: next.passes ws

theorem passedLast (k : Keeper ω τ) (ws : List Write) :
    (k.writeAll ws).2 = (k.passes ws).getLastD k := by
  induction ws generalizing k with
  | nil => rfl
  | cons w ws ih =>
    unfold writeAll passes
    cases k.write w with
    | mk result next =>
      cases result with
      | error fault => rfl
      | ok done =>
        rw [List.getLastD_cons]
        exact ih next

theorem keepingPasses {slot : Slot} {g : Grant} {vault : ω} (found : k.roster.slot? id = some slot)
    (save : Vault.save k.vault id g = (.ok (),vault)) : k.passes (Write.keeping id g) =
      [{ k with vault },{ k with vault, roster := k.roster.setGrant id slot g }] := by
  simp only [Write.keeping,passes,write,save,Outcome.mapState,Roster.hold,found]

theorem epochSettle (k : Keeper ω τ) (now : Instant) (a : Attempt τ)
    (outcome : Except Exchange.Fault Reply) (id : String) :
    ((k.settle now a outcome).2.roster.slot? id).map (·.epoch) = (k.roster.slot? id).map (·.epoch) := by
  have settled := k.settles now a outcome
  generalize k.settle now a outcome = result at settled ⊢
  cases settled with
  | gone absent => rfl
  | refused found => exact Roster.mapPut (slotOfFound found).1 _ (by rfl) id
  | kept found other => exact Roster.mapPut (slotOfFound found).1 _ (by rfl) id
  | saved found same save => exact Roster.mapPut (slotOfFound found).1 _ (by rfl) id
  | unsaved found same save => exact Roster.mapPut (slotOfFound found).1 _ (by rfl) id

end Keeper

namespace Traffic

theorem soleCaller {t : Traffic ω τ} (flights : t.Flights) {n m : Nat} {errand other : Errand}
    {a b : Attempt τ} (there : t.callers[n]? = some (.exchanging errand a))
    (second : t.callers[m]? = some (.exchanging other b)) (id : b.id = a.id) (epoch : b.epoch = a.epoch) :
    m = n := by
  refine Decidable.byContradiction fun apart => ?_
  have fewer := outstandingSet there (.finished .broken) a.id a.epoch
  have one := flights.single a.id a.epoch
  have still : (t.callers.set n (.finished .broken))[m]? = some (.exchanging other b) := by
    rw [List.getElem?_set_ne (Ne.symm apart)]
    exact second
  have counted : 0 < (t.callers.set n (.finished .broken)).countP (·.isOn a.id a.epoch) :=
    List.countP_pos_iff.mpr ⟨_,List.mem_of_getElem? still,by
      simp [Caller.isOn,Caller.attempt?,Attempt.isOn,id,epoch]⟩
  simp only [Caller.isOn,Caller.attempt?,Attempt.isOn,Option.any_some,beq_self_eq_true,Bool.and_self,
    Bool.toNat_true,Option.any_none,Bool.toNat_false] at fewer counted
  omega

structure Tells (t u : Traffic ω τ) (n : Nat) (errand : Errand) (a : Attempt τ)
    (result : Except Fault Unit) : Prop where
  ended : u.ended = t.ended ++ [(a,some result)]
  goesOn : u.callers[n]? = some (.after errand result)

theorem tellsClose {t : Traffic ω τ} {n : Nat} {errand : Errand} {a : Attempt τ}
    (there : t.callers[n]? = some (.exchanging errand a)) (x : Turn) (result : Except Fault Unit)
    (k : Keeper ω τ) :
    Tells t ((t.under x).close n a (some result) (.after errand result,k)) n errand a result := by
  refine ⟨rfl,List.getElem?_set_self ?_⟩
  rw [under,List.length_map]
  exact (List.getElem?_eq_some_iff.mp there).1

variable [Vault ω]

theorem exchangingStep {t : Traffic ω τ} {n : Nat} {errand : Errand} {a : Attempt τ}
    (there : t.callers[n]? = some (.exchanging errand a)) (now : Instant) {e : Event}
    (unended : e.endsOf n = false) : (t.step now e).callers[n]? = some (.exchanging errand a) := by
  have entered : ∀ caller : Caller τ, (t.enter caller).callers[n]? = some (.exchanging errand a) := by
    intro caller
    exact (List.getElem?_append_left (List.getElem?_eq_some_iff.mp there).1).trans there
  have set : ∀ {m : Nat} (caller : Caller τ), m ≠ n →
      (t.callers.set m caller)[n]? = some (.exchanging errand a) := by
    intro m caller apart
    exact (List.getElem?_set_ne apart).trans there
  have stepped := t.steps now e
  generalize t.step now e = u at stepped ⊢
  cases stepped with
  | refreshes id => exact entered _
  | reads id => exact entered _
  | sweeps => exact entered _
  | @advances m caller mine moving =>
    refine set _ ?_
    rintro rfl
    cases mine.symm.trans there
    cases moving
  | settles mine => exact set _ (by simpa [Event.endsOf] using unended)
  | abandons mine => exact set _ (by simpa [Event.endsOf] using unended)
  | stirs m =>
    rw [List.getElem?_modify,there]
    split <;> rfl
  | notifies due =>
    rw [List.getElem?_map,there]
    rfl
  | _ => exact there

theorem heldStep {t : Traffic ω τ} (flights : t.Flights) {n : Nat} {errand : Errand} {a : Attempt τ}
    (there : t.callers[n]? = some (.exchanging errand a)) (now : Instant) {e : Event}
    (unended : e.endsOf n = false) (quiet : e.gives a.id = false) {g : Grant}
    (held : (t.step now e).keeper.held? a.id = some (g,a.epoch)) :
    t.keeper.held? a.id = some (g,a.epoch) := by
  have unmoved : ∀ {next : Keeper ω τ}, next.held? a.id = some (g,a.epoch) →
      next.roster.slot? a.id = t.keeper.roster.slot? a.id → t.keeper.held? a.id = some (g,a.epoch) := by
    intro next held same
    rwa [Keeper.held?,same] at held
  have stepped := t.steps now e
  generalize t.step now e = u at stepped held
  cases stepped with
  | registers e => exact unmoved held (Keeper.registerApart (by simpa [Event.gives] using quiet))
  | stores other access refresh lifetime =>
    exact unmoved held (Keeper.storeApart (by simpa [Event.gives] using quiet) now _ _ _)
  | deletes other =>
    have removed := t.keeper.deleteSlot other a.id
    split at removed
    · rw [Keeper.held?,removed] at held
      cases held
    · exact unmoved held removed
  | advances there moving => exact (t.keeper.heldCaller now _ a.id).symm.trans held
  | @settles m outcome other b second =>
    change (t.keeper.settle now b outcome).2.held? a.id = _ at held
    have before := t.keeper.epochSettle now b outcome a.id
    rw [Keeper.heldEpoch held] at before
    by_cases same : b.id = a.id
    · have gone : t.keeper.slotOf? b = none := by
        refine Keeper.slotOfGone ?_
        intro slot found epoch
        -- otherwise two exchanges of one slot would be under way
        rw [← same,found,Option.map_some] at before
        have alone := soleCaller flights there second same (epoch.symm.trans (Option.some.inj before).symm)
        subst alone
        simp [Event.endsOf] at unended
      rwa [Keeper.settleGone gone] at held
    · exact unmoved held (Keeper.settleApart same now outcome)
  | abandons second => exact (t.keeper.heldAbandon _ a.id).symm.trans held
  | _ => exact held

theorem exchangingTurn {t : Traffic ω τ} {n : Nat} {errand : Errand} {a : Attempt τ}
    (there : t.attemptOf? n = some (errand,a)) {x : Turn} (unended : x.event.endsOf n = false) :
    (t.turn x).attemptOf? n = some (errand,a) := by
  rw [← t.attemptOfUnder x] at there
  unfold attemptOf? turn
  rw [exchangingStep (attemptThere there) x.now unended]

theorem exchangingPlay {t : Traffic ω τ} {n : Nat} {errand : Errand} {a : Attempt τ} {xs : List Turn}
    (there : t.attemptOf? n = some (errand,a)) (unended : ∀ x ∈ xs, x.event.endsOf n = false) :
    (t.play xs).attemptOf? n = some (errand,a) := by
  induction xs generalizing t with
  | nil => exact there
  | cons x xs ih =>
    obtain ⟨first,others⟩ := List.forall_mem_cons.mp unended
    exact ih (exchangingTurn there first) others

theorem heldTurn {t : Traffic ω τ} (flights : t.Flights) {n : Nat} {errand : Errand} {a : Attempt τ}
    (there : t.attemptOf? n = some (errand,a)) {x : Turn} (unended : x.event.endsOf n = false)
    (quiet : x.event.gives a.id = false) {g : Grant}
    (held : (t.turn x).keeper.held? a.id = some (g,a.epoch)) :
    t.keeper.held? a.id = some (g,a.epoch) := by
  rw [← t.attemptOfUnder x] at there
  exact heldStep (flightsUnder flights x) (attemptThere there) x.now unended quiet held

theorem heldPlay {t : Traffic ω τ} (flights : t.Flights) {n : Nat} {errand : Errand} {a : Attempt τ}
    {xs : List Turn} (there : t.attemptOf? n = some (errand,a))
    (unended : ∀ x ∈ xs, x.event.endsOf n = false) (quiet : ∀ x ∈ xs, x.event.gives a.id = false)
    {g : Grant} (held : (t.play xs).keeper.held? a.id = some (g,a.epoch)) :
    t.keeper.held? a.id = some (g,a.epoch) := by
  induction xs generalizing t with
  | nil => exact held
  | cons x xs ih =>
    obtain ⟨first,others⟩ := List.forall_mem_cons.mp unended
    obtain ⟨silent,rest⟩ := List.forall_mem_cons.mp quiet
    exact heldTurn flights there first silent
      (ih (flightsTurn t x flights) (exchangingTurn there first) others rest held)

theorem begunStep {t : Traffic ω τ} {now : Instant} {n : Nat} {errand : Errand} {a : Attempt τ}
    (free : t.attemptOf? n = none) (begun : (t.step now (.proceed n)).attemptOf? n = some (errand,a)) :
    (t.step now (.proceed n)).keeper.held? a.id = some (a.previous,a.epoch) ∧
      a.previous.isRefreshable = true := by
  have stepped := t.steps now (.proceed n)
  generalize t.step now (.proceed n) = u at stepped begun ⊢
  cases stepped with
  | rests => cases free.symm.trans begun
  | @advances _ caller there moving =>
    have bound := (List.getElem?_eq_some_iff.mp there).1
    have next := (List.getElem?_set_self bound).symm.trans (attemptThere begun)
    change ((caller.step t.keeper now).2).held? a.id = _ ∧ _
    rw [Keeper.heldCaller]
    cases caller with
    | opening errand within ticket =>
      simp only [Caller.step] at next
      have opened := t.keeper.opens now errand.id within ticket
      generalize t.keeper.openRefresh now errand.id within ticket = result at opened next
      cases opened with
      | begins found apart idle stale served refreshable =>
        cases next
        refine ⟨?_,refreshable⟩
        rw [Keeper.held?,found]
        rfl
      | waits => cases next
      | _ =>
        have same := congrArg Caller.attempt? (Option.some.inj next)
        rw [Caller.attemptAfter] at same
        cases same
    | reading id => cases next
    | _ => cases moving

variable [Lawful ω]

structure RecordsFirst (k : Keeper ω τ) (a : Attempt τ) (g : Grant) (ws : List Keeper.Write)
    (recorded held : Keeper ω τ) : Prop where
  through : k.passes ws = [recorded,held]
  recordedFirst : record? recorded.vault a.id = some (some g)
  unheld : recorded.grant? a.id = some a.previous
  recordedStill : record? held.vault a.id = some (some g)
  heldThen : held.grant? a.id = some g

structure Renews (t : Traffic ω τ) (closing : Turn) (reply : Reply) (n : Nat) (errand : Errand)
    (a : Attempt τ) (slot : Slot) : Prop where
  -- the writes come first, and then the exchange ends
  writes : ∃ succeeded, (t.turn closing).keeper = (((t.keeper.under closing).passes
    (Keeper.writesOf closing.now a slot reply)).getLastD (t.keeper.under closing)).endAttempt a succeeded
  newer : slot.account.grant ≠ a.previous → Tells t (t.turn closing) n errand a (.ok ()) ∧
    (t.turn closing).keeper.vault = t.keeper.vault ∧
    ∀ id, (t.turn closing).keeper.grant? id = t.keeper.grant? id
  saved : slot.account.grant = a.previous →
    (Vault.save t.keeper.vault a.id (a.previous.refreshed closing.now reply)).1 = .ok () →
    Tells t (t.turn closing) n errand a (.ok ()) ∧
    (t.turn closing).keeper.grant? a.id = some (a.previous.refreshed closing.now reply) ∧
    record? (t.turn closing).keeper.vault a.id = some (some (a.previous.refreshed closing.now reply)) ∧
    ∃ recorded held, RecordsFirst (t.keeper.under closing) a (a.previous.refreshed closing.now reply)
      (Keeper.writesOf closing.now a slot reply) recorded held
  unsaved : slot.account.grant = a.previous → ∀ fault,
    (Vault.save t.keeper.vault a.id (a.previous.refreshed closing.now reply)).1 = .error fault →
    Tells t (t.turn closing) n errand a (.error fault) ∧
    (t.turn closing).keeper.grant? a.id = some a.previous ∧
    record? t.keeper.vault a.id = some (some a.previous) ∧
    record? (t.turn closing).keeper.vault a.id = some (some a.previous)

theorem recordsFirst {k : Keeper ω τ} {now : Instant} {a : Attempt τ} {slot : Slot} {reply : Reply}
    {vault : ω} (found : k.slotOf? a = some slot) (same : slot.account.grant = a.previous)
    (save : Vault.save k.vault a.id (a.previous.refreshed now reply) = (.ok (),vault)) :
    RecordsFirst k a (a.previous.refreshed now reply) (Keeper.writesOf now a slot reply) { k with vault }
      { k with vault, roster := k.roster.setGrant a.id slot (a.previous.refreshed now reply) } := by
  have there := (Keeper.slotOfFound found).1
  have written := Lawful.saved (Grant.refreshedWhole a.previous now reply) save a.id
  rw [if_pos rfl] at written
  have writes : Keeper.writesOf now a slot reply =
      Keeper.Write.keeping a.id (a.previous.refreshed now reply) := by
    rw [Keeper.writesOf,if_neg (not_not_intro same),same]
  refine ⟨writes ▸ Keeper.keepingPasses there save,written,?_,written,?_⟩
  · rw [Keeper.grant?,Roster.grant?,there,Option.map_some,same]
  · rw [Keeper.grant?,Roster.grant?,Roster.setGrant,Roster.slotPut,if_pos rfl]
    rfl

theorem renewsTurn {t : Traffic ω τ} {n : Nat} {errand : Errand} {a : Attempt τ} {slot : Slot}
    (there : t.attemptOf? n = some (errand,a)) (found : t.keeper.slotOf? a = some slot)
    (recorded : slot.account.grant = a.previous →
      record? t.keeper.vault a.id = some (some a.previous)) {x : Turn} {reply : Reply}
    (closes : x.event = .settle n (.ok reply)) : Renews t x reply n errand a slot := by
  have tells := tellsClose (attemptThere there) x
  have turned := turnSettles there closes
  obtain ⟨present,epoch⟩ := Keeper.slotOfFound found
  have kept : ∀ (succeeded : Bool) (id : String),
      (t.keeper.roster.put a.id (Keeper.endExchange slot succeeded)).grant? id = t.keeper.grant? id :=
    fun _ => Roster.mapPut present (·.account.grant) (by rfl)
  have writes : ∃ succeeded, (t.turn x).keeper = (((t.keeper.under x).passes
      (Keeper.writesOf x.now a slot reply)).getLastD (t.keeper.under x)).endAttempt a succeeded := by
    rw [turned,← Keeper.passedLast]
    exact ⟨_,congrArg Prod.snd (Keeper.settleFound (k := t.keeper.under x) found x.now (.ok reply))⟩
  rw [Caller.settle] at turned
  have settled := (t.keeper.under x).settles x.now a (.ok reply)
  generalize (t.keeper.under x).settle x.now a (.ok reply) = result at settled turned
  cases settled with
  | gone absent => cases absent.symm.trans found
  | kept mine other =>
    cases found.symm.trans mine
    refine ⟨writes,fun _ => ?_,fun same => absurd same other,fun same => absurd same other⟩
    rw [turned]
    exact ⟨tells _ _,rfl,kept true⟩
  | @saved _ _ vault mine same save =>
    cases found.symm.trans mine
    refine ⟨writes,fun other => absurd same other,fun _ _ => ?_,fun _ fault failed => ?_⟩
    · have first := recordsFirst (k := t.keeper.under x) found same save
      rw [turned]
      refine ⟨tells _ _,?_,first.recordedStill,_,_,first⟩
      change ((t.keeper.roster.put a.id _).slot? a.id).map _ = _
      rw [Roster.slotPut,if_pos rfl]
      rfl
    · cases (congrArg (·.1) save).symm.trans failed
  | @unsaved _ _ fault vault mine same save =>
    cases found.symm.trans mine
    refine ⟨writes,fun other => absurd same other,fun _ done => ?_,fun _ told failed => ?_⟩
    · cases (congrArg (·.1) save).symm.trans done
    · cases (congrArg (·.1) save).symm.trans failed
      rw [turned]
      refine ⟨tells _ _,(kept false a.id).trans ?_,recorded same,?_⟩
      · rw [Keeper.grant?,Roster.grant?,present,Option.map_some,same]
      · exact (Lawful.unsaved save a.id).trans (recorded same)

variable [Candid ω]

def Backed (t : Traffic ω τ) : Prop :=
  t.keeper.Relates fun record g => g = .absent ∨ record = some (some g)

theorem backedStep {t : Traffic ω τ} (h : t.Backed) (now : Instant) (e : Event) :
    (t.step now e).Backed := by
  refine Keeper.relatesChanged (fun _ => .inr rfl) ?_ h (t.changes now e)
  rintro enrollment loaded vault held - - load before
  cases loaded with
  | error fault => exact before.elim .inl id
  | ok stored =>
    cases stored with
    | none => exact before.elim .inl id
    | some g => exact .inr (Candid.found load)

theorem backedTurn (t : Traffic ω τ) (x : Turn) (h : t.Backed) : (t.turn x).Backed :=
  backedStep (t := t.under x) h x.now x.event

theorem backedPlay (k : Keeper ω τ) (xs : List Turn) : ((start k).play xs).Backed := by
  refine playKeeps backedTurn xs ?_
  intro id slot there
  simp [start] at there

/-- Let an exchange of caller `n` be begun, and let any turns follow that do not end it. The grant
that its slot then holds was left by the last call that gave one, or by none. Now the reply comes. -/
theorem newerGrantsStay (k : Keeper ω τ) (before : List Turn) {opening : Turn} {n : Nat}
    (opens : opening.event = .proceed n) (free : ((start k).play before).attemptOf? n = none)
    {errand : Errand} {a : Attempt τ}
    (begun : (((start k).play before).turn opening).attemptOf? n = some (errand,a))
    {during : List Turn} (unended : ∀ x ∈ during, x.event.endsOf n = false) :
    let s := ((start k).play before).turn opening
    let t := s.play during
    s.keeper.held? a.id = some (a.previous,a.epoch) ∧
    t.attemptOf? n = some (errand,a) ∧
    ∀ slot, t.keeper.slotOf? a = some slot →
      (∀ early late, during = early ++ late → (∀ x ∈ late, x.event.gives a.id = false) →
        (s.play early).keeper.grant? a.id = some slot.account.grant) ∧
      ∀ closing reply, closing.event = .settle n (.ok reply) →
        Renews t closing reply n errand a slot := by
  intro s t
  have flights : s.Flights := flightsTurn _ opening (flightsPlay k before)
  have under := exchangingPlay begun unended
  obtain ⟨snapshot,refreshable⟩ : s.keeper.held? a.id = some (a.previous,a.epoch) ∧
      a.previous.isRefreshable = true := by
    rw [← attemptOfUnder _ opening] at free
    rw [turn,opens] at begun
    rw [show s = _ from congrArg (Traffic.step _ opening.now) opens]
    exact begunStep free begun
  have played : t = (start k).play (before ++ opening :: during) :=
    (playAppend (start k) before (opening :: during)).symm
  refine ⟨snapshot,under,?_⟩
  · intro slot found
    refine ⟨?_,?_⟩
    · rintro early late rfl quiet
      have first : ∀ x ∈ early, x.event.endsOf n = false :=
        fun x member => unended x (List.mem_append_left late member)
      have second : ∀ x ∈ late, x.event.endsOf n = false :=
        fun x member => unended x (List.mem_append_right early member)
      have held := Keeper.heldThere found
      rw [show t = (s.play early).play late from playAppend s early late] at held
      have flown : (s.play early).Flights := playKeeps flightsTurn early flights
      exact Keeper.heldGrant (heldPlay flown (exchangingPlay begun first) second quiet held)
    · intro closing reply closes
      refine renewsTurn under found ?_ closes
      -- a grant that was refreshed is not the absent one, so it is recorded
      intro same
      have backed := backedPlay k (before ++ opening :: during)
      rw [← played] at backed
      rcases backed a.id slot (Keeper.slotOfFound found).1 with absent | recorded
      · rw [← same,absent] at refreshable
        cases refreshable
      · rw [recorded,same]

theorem storedGrantStays :
    let s := (start Sample.keeper).play (Sample.turns (Sample.arrival ++ [.refresh "a"]))
    let during := Sample.turns [.storeTokens "a" "C" "S" 60]
    let t := (s.turn (Sample.turn (.proceed 0))).play during
    s.attemptOf? 0 = none ∧ (∀ x ∈ during, x.event.endsOf 0 = false) ∧
    t.keeper.grant? "a" = some (Grant.issued .epoch "C" "S" 60) ∧
    (t.turn (Sample.turn (.settle 0 (.ok Sample.reply)))).keeper.grant? "a" = t.keeper.grant? "a" := by
  intro s during t
  have free : s.attemptOf? 0 = none := rfl
  have unended : ∀ x ∈ during, x.event.endsOf 0 = false := by decide
  have begun : (s.turn (Sample.turn (.proceed 0))).attemptOf? 0 =
      some (.refresh "a",⟨"a",0,Grant.issued .epoch "A" "R" 3600,"client","",()⟩) := rfl
  obtain ⟨-,-,ends⟩ := newerGrantsStay Sample.keeper _ rfl free begun unended
  have renews := (ends ⟨⟨Sample.enrollment,Grant.issued .epoch "C" "S" 60⟩,0,true,0,false⟩ rfl).2
  exact ⟨free,unended,rfl,((renews _ _ rfl).newer (by decide)).2.2 "a"⟩

end Traffic

end GrantKeeper
