import GrantKeeper.Proofs.Keeper.Outcomes
import GrantKeeper.Proofs.Traffic.Turns

/-! Slots and exchanges. What a slot says about the exchanges of its account is
compared with those that callers have begun and ended. -/
namespace GrantKeeper

def Slot.marks (slot : Slot) : Nat × Bool × Nat × Bool :=
  (slot.epoch,slot.inFlight,slot.ended,slot.lastSucceeded)

def succeeded : Option (Except Fault Unit) → Bool
  | some (.ok ()) => true
  | _ => false

namespace Caller
variable {ω τ : Type}

@[simp] theorem attemptAfter (errand : Errand) (result : Except Fault Unit) :
    (after errand result : Caller τ).attempt? = none := by
  unfold after
  split <;> rfl

@[simp] theorem attemptStartToken (k : Keeper ω τ) (now : Time.Instant) (id : String) :
    (startToken k now id).attempt? = none := by
  unfold startToken
  split
  · split <;> rfl
  · rfl

@[simp] theorem attemptStartSweep (k : Keeper ω τ) (now : Time.Instant) :
    (startSweep k now).attempt? = none := by
  unfold startSweep
  split <;> rfl

@[simp] theorem attemptWake (caller : Caller τ) : caller.wake.attempt? = caller.attempt? := by
  cases caller <;> rfl

@[simp] theorem isOnWake (caller : Caller τ) (id : String) (epoch : Nat) :
    caller.wake.isOn id epoch = caller.isOn id epoch := by
  simp [isOn]

theorem isOnReread (buffer : Time.Span) (caller : Caller τ) (id : String) (epoch : Nat) :
    (caller.reread buffer).isOn id epoch = caller.isOn id epoch := by
  rw [isOn,attemptReread]
  rfl

theorem isOnFree {caller : Caller τ} (free : caller.attempt? = none) (id : String) (epoch : Nat) :
    caller.isOn id epoch = false := by
  simp [isOn,free]

theorem attemptOfMoving {caller : Caller τ} (moving : caller.rests = false) : caller.attempt? = none := by
  cases caller <;> first | rfl | cases moving

end Caller

namespace Keeper
variable {ω τ : Type}

structure Carries (before after : Keeper ω τ) : Prop where
  grown : before.roster.nextEpoch ≤ after.roster.nextEpoch
  slots : ∀ id slot, after.roster.slot? id = some slot →
    (∃ old, before.roster.slot? id = some old ∧ slot.marks = old.marks) ∨
    (slot.marks = (before.roster.nextEpoch,false,0,false) ∧
      before.roster.nextEpoch < after.roster.nextEpoch)

theorem carriesSelf (k : Keeper ω τ) : k.Carries k :=
  ⟨Nat.le_refl _,fun _ slot found => .inl ⟨slot,found,rfl⟩⟩

theorem carriesPut {k : Keeper ω τ} {id : String} {slot : Slot} (found : k.roster.slot? id = some slot)
    (account : Account) (vault : ω) :
    k.Carries { k with vault, roster := k.roster.put id { slot with account } } where
  grown := Nat.le_refl _
  slots other new there := by
    rw [Roster.slotPut] at there
    split at there
    · rename_i here
      subst here
      cases Option.some.inj there
      exact .inl ⟨slot,found,rfl⟩
    · exact .inl ⟨new,there,rfl⟩

theorem carriesEnroll (k : Keeper ω τ) (e : Enrollment) (stored : Option Grant) (vault : ω) :
    k.Carries { k with vault, roster := k.roster.enroll e stored } := by
  cases known : k.roster.slot? e.id with
  | some slot =>
    simp only [Roster.enroll,known]
    exact carriesPut known _ vault
  | none =>
    have next : (k.roster.enroll e stored).nextEpoch = k.roster.nextEpoch + 1 := by
      simp only [Roster.enroll,known]
    refine ⟨by rw [next]; exact Nat.le_succ _,?_⟩
    intro id slot found
    rw [Roster.slotEnrollNew known] at found
    rw [next]
    split at found
    · cases Option.some.inj found
      exact .inr ⟨rfl,Nat.lt_succ_self _⟩
    · exact .inl ⟨slot,found,rfl⟩

def Ends (k : Keeper ω τ) (a : Attempt τ) (told : Option (Except Fault Unit)) (next : Keeper ω τ) : Prop :=
  ∀ id slot, next.roster.slot? id = some slot →
    ∃ old, k.roster.slot? id = some old ∧
      slot.marks = if a.isOn id old.epoch then (old.epoch,false,old.ended + 1,succeeded told) else old.marks

theorem endsGone {k : Keeper ω τ} {a : Attempt τ} (absent : k.slotOf? a = none)
    (told : Option (Except Fault Unit)) : k.Ends a told k := by
  intro id slot found
  refine ⟨slot,found,?_⟩
  cases on : a.isOn id slot.epoch with
  | false => simp
  | true =>
    simp only [Attempt.isOn,Bool.and_eq_true,beq_iff_eq] at on
    obtain ⟨here,epoch⟩ := on
    subst here
    simp [slotOf?,found,epoch] at absent

theorem endsMarked {k : Keeper ω τ} {a : Attempt τ} {old next : Slot} (found : k.slotOf? a = some old)
    {told : Option (Except Fault Unit)} (marks : next.marks = (old.epoch,false,old.ended + 1,succeeded told))
    (vault : ω) : k.Ends a told { k with vault, roster := k.roster.put a.id next } := by
  intro id slot there
  obtain ⟨present,epoch⟩ := slotOfFound found
  rw [Roster.slotPut] at there
  split at there
  · rename_i here
    subst here
    cases Option.some.inj there
    exact ⟨old,present,by simp [Attempt.isOn,epoch,marks]⟩
  · rename_i apart
    exact ⟨slot,there,by simp [Attempt.isOn,apart]⟩

variable [Vault ω]

theorem carriesRegister (k : Keeper ω τ) (e : Enrollment) : k.Carries (k.register e).2 := by
  have registered := k.registers e
  generalize k.register e = result at registered ⊢
  cases registered with
  | refused unusable => exact carriesSelf k
  | enrolled usable load => exact carriesEnroll k e _ _

theorem carriesStore (k : Keeper ω τ) (now : Time.Instant) (id access refresh : String)
    (lifetime : Int) : k.Carries (k.storeTokens now id access refresh lifetime).2 := by
  have stored := k.stores now id access refresh lifetime
  generalize k.storeTokens now id access refresh lifetime = result at stored ⊢
  cases stored with
  | unknown absent => exact carriesSelf k
  | saved found save => exact carriesPut found _ _
  | unsaved found save => exact ⟨Nat.le_refl _,fun _ slot there => .inl ⟨slot,there,rfl⟩⟩

theorem carriesDelete (k : Keeper ω τ) (id : String) : k.Carries (k.delete id).2 where
  grown := Nat.le_refl _
  slots other slot found := by
    change (k.roster.remove id).slot? other = some slot at found
    rw [Roster.slotRemove] at found
    split at found
    · cases found
    · exact .inl ⟨slot,found,rfl⟩

end Keeper

namespace Traffic
variable {ω τ : Type}

structure Tallied (t : Traffic ω τ) (id : String) (slot : Slot) : Prop where
  early : slot.epoch < t.keeper.roster.nextEpoch
  flight : t.outstanding id slot.epoch = slot.inFlight.toNat
  ended : (t.endedOn id slot.epoch).length = slot.ended
  last : slot.lastSucceeded = (t.endedOn id slot.epoch).getLast?.any succeeded

structure Flights (t : Traffic ω τ) : Prop where
  balance : ∀ id epoch, t.begunOn id epoch = t.outstanding id epoch + (t.endedOn id epoch).length
  single : ∀ id epoch, t.outstanding id epoch ≤ 1
  early : ∀ a ∈ t.begun, a.epoch < t.keeper.roster.nextEpoch
  slots : ∀ id slot, t.keeper.roster.slot? id = some slot → t.Tallied id slot

theorem flightsStart (k : Keeper ω τ) : (start k).Flights where
  balance _ _ := rfl
  single _ _ := Nat.zero_le 1
  early _ member := by simp [start] at member
  slots _ _ found := by simp [start] at found

theorem noneAhead {t : Traffic ω τ} (h : t.Flights) (id : String) {epoch : Nat}
    (ahead : t.keeper.roster.nextEpoch ≤ epoch) :
    t.outstanding id epoch = 0 ∧ t.endedOn id epoch = [] := by
  have none : t.begunOn id epoch = 0 := by
    unfold begunOn
    rw [List.countP_eq_zero]
    intro a member on
    have low := h.early a member
    simp only [Attempt.isOn,Bool.and_eq_true,beq_iff_eq] at on
    omega
  have sum := h.balance id epoch
  exact ⟨by omega,List.eq_nil_of_length_eq_zero (by omega)⟩

theorem outstandingSet {t : Traffic ω τ} {n : Nat} {caller : Caller τ}
    (there : t.callers[n]? = some caller) (next : Caller τ) (id : String) (epoch : Nat) :
    (t.callers.set n next).countP (·.isOn id epoch) + (caller.isOn id epoch).toNat =
      t.outstanding id epoch + (next.isOn id epoch).toNat := by
  obtain ⟨bound,same⟩ := List.getElem?_eq_some_iff.mp there
  have counted : caller.isOn id epoch = true → 0 < t.callers.countP (·.isOn id epoch) :=
    fun on => List.countP_pos_iff.mpr ⟨caller,List.mem_of_getElem? there,on⟩
  rw [List.countP_set bound,same,outstanding]
  cases was : caller.isOn id epoch with
  | false => cases next.isOn id epoch <;> simp
  | true =>
    have some := counted was
    cases next.isOn id epoch <;> simp <;> omega

theorem outstandingAdvance {t : Traffic ω τ} {n : Nat} {caller : Caller τ}
    (there : t.callers[n]? = some caller) (free : caller.attempt? = none) (next : Caller τ × Keeper ω τ)
    (id : String) (epoch : Nat) :
    (t.advance n next).outstanding id epoch = t.outstanding id epoch + (next.1.isOn id epoch).toNat := by
  have sum := outstandingSet there next.1 id epoch
  rw [Caller.isOnFree free] at sum
  exact sum

theorem outstandingClose {t : Traffic ω τ} {n : Nat} {errand : Errand} {a : Attempt τ}
    (there : t.callers[n]? = some (.exchanging errand a)) (told : Option (Except Fault Unit))
    {next : Caller τ × Keeper ω τ} (free : next.1.attempt? = none) (id : String) (epoch : Nat) :
    (t.close n a told next).outstanding id epoch + (a.isOn id epoch).toNat = t.outstanding id epoch := by
  have sum := outstandingSet there next.1 id epoch
  rw [Caller.isOnFree free] at sum
  exact sum

theorem endedOnClose (t : Traffic ω τ) (n : Nat) (a : Attempt τ) (told : Option (Except Fault Unit))
    (next : Caller τ × Keeper ω τ) (id : String) (epoch : Nat) :
    (t.close n a told next).endedOn id epoch =
      t.endedOn id epoch ++ if a.isOn id epoch then [told] else [] := by
  cases on : a.isOn id epoch <;> simp [endedOn,close,on]

theorem flightsCarried {t u : Traffic ω τ} (h : t.Flights)
    (callers : ∀ id epoch, u.outstanding id epoch = t.outstanding id epoch)
    (begun : u.begun = t.begun) (ended : u.ended = t.ended) (carried : t.keeper.Carries u.keeper) :
    u.Flights where
  balance id epoch := by
    have sum := h.balance id epoch
    simpa only [begunOn,endedOn,begun,ended,callers] using sum
  single id epoch := by
    rw [callers]
    exact h.single id epoch
  early a member := by
    rw [begun] at member
    exact Nat.lt_of_lt_of_le (h.early a member) carried.grown
  slots id slot found := by
    have kept : ∀ epoch, u.endedOn id epoch = t.endedOn id epoch := by
      intro epoch
      simp only [endedOn,ended]
    rcases carried.slots id slot found with ⟨old,was,marks⟩ | ⟨marks,more⟩
    · have tallied := h.slots id old was
      simp only [Slot.marks,Prod.mk.injEq] at marks
      obtain ⟨epoch,flight,number,last⟩ := marks
      exact ⟨by rw [epoch]; exact Nat.lt_of_lt_of_le tallied.early carried.grown,
        by rw [callers,epoch,flight]; exact tallied.flight,
        by rw [kept,epoch,number]; exact tallied.ended,
        by rw [kept,epoch,last]; exact tallied.last⟩
    · simp only [Slot.marks,Prod.mk.injEq] at marks
      obtain ⟨epoch,flight,number,last⟩ := marks
      obtain ⟨none,nil⟩ := noneAhead h id (Nat.le_of_eq epoch.symm)
      exact ⟨by omega,by rw [callers,none,flight]; rfl,by rw [kept,nil,number]; rfl,
        by rw [kept,nil,last]; rfl⟩

theorem flightsBegun {t : Traffic ω τ} (h : t.Flights) {n : Nat} {caller : Caller τ} {slot : Slot}
    {attempt : Attempt τ} (there : t.callers[n]? = some caller) (free : caller.attempt? = none)
    (found : t.keeper.roster.slot? attempt.id = some slot) (idle : slot.inFlight = false)
    (epoch : attempt.epoch = slot.epoch) (errand : Errand) :
    (t.advance n (.exchanging errand attempt,
      { t.keeper with
        roster := t.keeper.roster.put attempt.id { slot with inFlight := true } })).Flights := by
  have tallied := h.slots attempt.id slot found
  have more := outstandingAdvance there free (.exchanging errand attempt,
    { t.keeper with roster := t.keeper.roster.put attempt.id { slot with inFlight := true } })
  change ∀ id epoch, _ = t.outstanding id epoch + (attempt.isOn id epoch).toNat at more
  refine ⟨?_,?_,?_,?_⟩
  · intro id epoch
    have sum := h.balance id epoch
    rw [more,begunOn,advance,Caller.attempt?,Option.toList_some,List.countP_append,List.countP_singleton]
    change t.begunOn id epoch + _ = _ + (t.endedOn id epoch).length
    cases attempt.isOn id epoch <;> simp <;> omega
  · intro id other
    rw [more]
    cases here : attempt.isOn id other with
    | false => exact h.single id other
    | true =>
      -- the slot was idle, so nothing else is under way on it
      simp only [Attempt.isOn,Bool.and_eq_true,beq_iff_eq] at here
      have none := tallied.flight
      rw [idle,← epoch,here.1,here.2] at none
      simp [none]
  · intro a member
    rcases List.mem_append.mp member with old | new
    · exact h.early a old
    · have same : a = attempt := by simpa [Caller.attempt?] using new
      rw [same,epoch]
      exact tallied.early
  · intro id other present
    rw [advance,Roster.slotPut] at present
    split at present
    · rename_i same
      cases Option.some.inj present
      subst same
      refine ⟨tallied.early,?_,tallied.ended,tallied.last⟩
      rw [more,tallied.flight,idle]
      simp [Attempt.isOn,epoch]
    · rename_i apart
      have old := h.slots id other present
      refine ⟨old.early,?_,old.ended,old.last⟩
      rw [more,old.flight]
      simp [Attempt.isOn,apart]

theorem flightsClosed {t : Traffic ω τ} (h : t.Flights) {n : Nat} {errand : Errand} {a : Attempt τ}
    (there : t.callers[n]? = some (.exchanging errand a)) (told : Option (Except Fault Unit))
    {next : Caller τ × Keeper ω τ} (free : next.1.attempt? = none)
    (grown : next.2.roster.nextEpoch = t.keeper.roster.nextEpoch)
    (ends : t.keeper.Ends a told next.2) : (t.close n a told next).Flights := by
  have fewer := outstandingClose there told free
  have ended := t.endedOnClose n a told next
  refine ⟨?_,?_,?_,?_⟩
  · intro id epoch
    have sum := h.balance id epoch
    have less := fewer id epoch
    change t.begunOn id epoch = _
    rw [ended]
    cases on : a.isOn id epoch <;> simp [on] at * <;> omega
  · intro id epoch
    have less := fewer id epoch
    have one := h.single id epoch
    omega
  · intro b member
    exact Nat.lt_of_lt_of_eq (h.early b member) grown.symm
  · intro id slot found
    obtain ⟨old,was,marks⟩ := ends id slot found
    have tallied := h.slots id old was
    have early : old.epoch < next.2.roster.nextEpoch := grown.symm ▸ tallied.early
    have less := fewer id old.epoch
    cases on : a.isOn id old.epoch with
    | false =>
      simp only [on,Slot.marks,Prod.mk.injEq,Bool.false_eq_true,if_false] at marks
      obtain ⟨epoch,flight,number,last⟩ := marks
      rw [on] at less
      refine ⟨epoch ▸ early,?_,?_,?_⟩
      · rw [epoch,flight]
        exact less.trans tallied.flight
      · simp [epoch,number,ended,on,tallied.ended]
      · simp [epoch,last,ended,on,tallied.last]
    | true =>
      simp only [on,Slot.marks,Prod.mk.injEq,if_true] at marks
      obtain ⟨epoch,flight,number,last⟩ := marks
      -- `a` was the only one under way on its slot
      have one := h.single id old.epoch
      rw [on] at less
      refine ⟨epoch ▸ early,?_,?_,?_⟩
      · rw [epoch,flight]
        change _ + 1 = _ at less
        change _ = 0
        omega
      · simp [epoch,number,ended,on,tallied.ended]
      · simp [epoch,last,ended,on]

theorem flightsMoved {t : Traffic ω τ} (h : t.Flights) {n : Nat} {caller next : Caller τ}
    (there : t.callers[n]? = some caller) (free : caller.attempt? = none)
    (still : next.attempt? = none) : (t.advance n (next,t.keeper)).Flights := by
  refine flightsCarried h ?_ ?_ rfl t.keeper.carriesSelf
  · intro id epoch
    rw [outstandingAdvance there free,Caller.isOnFree still]
    rfl
  · simp [advance,still]

theorem flightsProceed {t : Traffic ω τ} (h : t.Flights) (now : Time.Instant) {n : Nat}
    {caller : Caller τ} (there : t.callers[n]? = some caller) (moving : caller.rests = false) :
    (t.advance n (caller.step t.keeper now)).Flights := by
  have free := Caller.attemptOfMoving moving
  cases caller with
  | opening errand within ticket =>
    simp only [Caller.step]
    have opened := t.keeper.opens now errand.id within ticket
    generalize t.keeper.openRefresh now errand.id within ticket = result at opened ⊢
    cases opened with
    | begins found apart idle stale served refreshable =>
      exact flightsBegun h there free found idle rfl errand
    | waits found flight => exact flightsMoved h there free rfl
    | _ => exact flightsMoved h there free (Caller.attemptAfter ..)
  | reading id => exact flightsMoved h there free rfl
  | waiting => cases moving
  | exchanging => cases moving
  | finished => cases moving

theorem outstandingStir (callers : List (Caller τ)) (n : Nat) (id : String) (epoch : Nat) :
    (callers.modify n Caller.wake).countP (·.isOn id epoch) = callers.countP (·.isOn id epoch) := by
  induction callers generalizing n with
  | nil => simp
  | cons caller callers ih =>
    cases n with
    | zero => simp [List.countP_cons]
    | succ n => simp [List.countP_cons,ih]

theorem flightsAbandoned {t : Traffic ω τ} (h : t.Flights) {n : Nat} {errand : Errand} {a : Attempt τ}
    (there : t.callers[n]? = some (.exchanging errand a)) :
    (t.close n a none (Caller.abandon t.keeper a)).Flights := by
  have ends := t.keeper.abandons a
  simp only [Caller.abandon]
  generalize t.keeper.abandon a = next at ends ⊢
  cases ends with
  | gone absent => exact flightsClosed h there none rfl rfl (Keeper.endsGone absent none)
  | broken found => exact flightsClosed h there none rfl rfl (Keeper.endsMarked found (by rfl) _)

theorem outstandingUnder (t : Traffic ω τ) (x : Turn) (id : String) (epoch : Nat) :
    (t.under x).outstanding id epoch = t.outstanding id epoch := by
  unfold outstanding under
  rw [List.countP_map]
  refine List.countP_congr ?_
  intro caller _
  rw [Function.comp_apply,Caller.isOnReread]

theorem flightsUnder {t : Traffic ω τ} (h : t.Flights) (x : Turn) : (t.under x).Flights :=
  flightsCarried h (t.outstandingUnder x) rfl rfl
    ⟨Nat.le_refl _,fun _ slot found => .inl ⟨slot,found,rfl⟩⟩

variable [Vault ω]

theorem flightsSettled {t : Traffic ω τ} (h : t.Flights) (now : Time.Instant) {n : Nat}
    {errand : Errand} {a : Attempt τ} (there : t.callers[n]? = some (.exchanging errand a))
    (outcome : Except Exchange.Fault Reply) :
    (t.close n a (some (t.keeper.settle now a outcome).1)
      (Caller.settle t.keeper now errand a outcome)).Flights := by
  have ends := t.keeper.settles now a outcome
  simp only [Caller.settle]
  generalize t.keeper.settle now a outcome = result at ends ⊢
  have free := Caller.attemptAfter (τ := τ) errand
  cases ends with
  | gone absent => exact flightsClosed h there _ (free _) rfl (Keeper.endsGone absent _)
  | refused found => exact flightsClosed h there _ (free _) rfl (Keeper.endsMarked found (by rfl) _)
  | kept found other => exact flightsClosed h there _ (free _) rfl (Keeper.endsMarked found (by rfl) _)
  | saved found same save => exact flightsClosed h there _ (free _) rfl (Keeper.endsMarked found (by rfl) _)
  | unsaved found same save => exact flightsClosed h there _ (free _) rfl (Keeper.endsMarked found (by rfl) _)

theorem flightsStep (t : Traffic ω τ) (now : Time.Instant) (e : Event) (h : t.Flights) :
    (t.step now e).Flights := by
  have entered : ∀ caller : Caller τ, caller.attempt? = none → (t.enter caller).Flights := by
    intro caller free
    refine flightsCarried h ?_ rfl rfl t.keeper.carriesSelf
    intro id epoch
    simp [outstanding,enter,Caller.isOnFree free]
  have stepped := t.steps now e
  generalize t.step now e = u at stepped ⊢
  cases stepped with
  | rests => exact h
  | registers e => exact flightsCarried h (fun _ _ => rfl) rfl rfl (t.keeper.carriesRegister e)
  | stores id access refresh lifetime =>
    exact flightsCarried h (fun _ _ => rfl) rfl rfl
      (t.keeper.carriesStore now id access refresh lifetime)
  | deletes id => exact flightsCarried h (fun _ _ => rfl) rfl rfl (t.keeper.carriesDelete id)
  | refreshes id => exact entered _ rfl
  | reads id => exact entered _ (Caller.attemptStartToken ..)
  | sweeps => exact entered _ (Caller.attemptStartSweep ..)
  | advances there moving => exact flightsProceed h now there moving
  | settles there => exact flightsSettled h now there _
  | abandons there => exact flightsAbandoned h there
  | stirs n =>
    refine flightsCarried h ?_ rfl rfl t.keeper.carriesSelf
    intro id epoch
    exact outstandingStir t.callers n id epoch
  | notifies due =>
    refine flightsCarried h ?_ rfl rfl t.keeper.carriesSelf
    intro id epoch
    simp [outstanding,List.countP_map,Function.comp_def]

theorem flightsTurn (t : Traffic ω τ) (x : Turn) (h : t.Flights) : (t.turn x).Flights :=
  flightsStep (t.under x) x.now x.event (flightsUnder h x)

theorem flightsPlay (k : Keeper ω τ) (xs : List Turn) : ((start k).play xs).Flights :=
  playKeeps flightsTurn xs (flightsStart k)

/-- A slot is marked as in flight exactly while one exchange of it is under way, and its counter
tells how many have ended. No slot has two under way, be it on the roster or gone. -/
theorem singleFlight (k : Keeper ω τ) (xs : List Turn) :
    let t := (start k).play xs
    (∀ id epoch, t.outstanding id epoch ≤ 1) ∧
    ∀ id slot, t.keeper.roster.slot? id = some slot →
      (slot.inFlight = true ↔ t.outstanding id slot.epoch = 1) ∧
      (slot.inFlight = false ↔ t.outstanding id slot.epoch = 0) ∧
      t.begunOn id slot.epoch = slot.ended + slot.inFlight.toNat := by
  intro t
  have h : t.Flights := flightsPlay k xs
  refine ⟨h.single,?_⟩
  intro id slot found
  have tallied := h.slots id slot found
  have sum := h.balance id slot.epoch
  rw [tallied.flight,tallied.ended] at sum
  rw [tallied.flight,sum,Nat.add_comm]
  cases slot.inFlight <;> simp

theorem oneUnderWay :
    let t := (start Sample.keeper).play (Sample.turns (Sample.arrival ++
      [.refresh "a",.proceed 0,.refresh "a",.proceed 1]))
    ∃ slot, t.keeper.roster.slot? "a" = some slot ∧ t.outstanding "a" slot.epoch = 1 ∧
      t.begunOn "a" slot.epoch = 1 := by
  intro t
  obtain ⟨slot,found,marks⟩ : ∃ slot, t.keeper.roster.slot? "a" = some slot ∧ slot.marks = (0,true,0,false) :=
    Option.map_eq_some_iff.mp (by decide)
  simp only [Slot.marks,Prod.mk.injEq] at marks
  obtain ⟨-,flight,ended,-⟩ := marks
  obtain ⟨busy,-,begun⟩ := (singleFlight Sample.keeper _).2 "a" slot found
  rw [flight,ended] at begun
  exact ⟨slot,found,busy.mp flight,begun⟩

end Traffic

end GrantKeeper
