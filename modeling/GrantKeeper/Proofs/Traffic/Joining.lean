import GrantKeeper.Proofs.Traffic.Flights

/-! What callers get that waited for another's exchange. The ticket that a caller
took fits its slot for as long as that is on the roster: the exchange that was
under way then still is, or it has ended. -/
namespace GrantKeeper
open Time (Instant)
variable {ω τ : Type}

def Slot.Follows (slot old : Slot) : Prop :=
  slot.epoch = old.epoch ∧
    (old.ended < slot.ended ∨ slot.ended = old.ended ∧ (old.inFlight = true → slot.inFlight = true))

def Ticket.Fits (ticket : Ticket) (slot : Slot) : Prop :=
  slot.epoch = ticket.epoch →
    ticket.ended < slot.ended ∨ ticket.ended = slot.ended ∧ slot.inFlight = true

def Caller.ticket? : Caller τ → Option (String × Ticket)
  | .opening errand _ (some ticket) | .waiting errand _ ticket => some (errand.id,ticket)
  | _ => none

theorem fitsOn {ticket : Ticket} {old slot : Slot} (fits : ticket.Fits old) (follows : slot.Follows old) :
    ticket.Fits slot := by
  obtain ⟨epoch,later⟩ := follows
  intro mine
  have before := fits (epoch.symm.trans mine)
  rcases later with more | ⟨same,flight⟩
  · exact .inl (by omega)
  · rcases before with ended | ⟨ended,under⟩
    · exact .inl (by omega)
    · exact .inr ⟨ended.trans same.symm,flight under⟩

namespace Caller

theorem ticketWake (caller : Caller τ) : caller.wake.ticket? = caller.ticket? := by
  cases caller <;> rfl

theorem ticketReread (buffer : Time.Span) (caller : Caller τ) :
    (caller.reread buffer).ticket? = caller.ticket? := by
  rcases caller.rereads buffer with kept | ⟨id,old,rfl,anew⟩
  · rw [kept]
  · rw [anew]
    rfl

theorem rereadTicketed {caller : Caller τ} {mine : String × Ticket} (ticketed : caller.ticket? = some mine)
    (buffer : Time.Span) : caller.reread buffer = caller := by
  rcases caller.rereads buffer with kept | ⟨id,old,rfl,-⟩
  · exact kept
  · cases ticketed

theorem ticketAfter (errand : Errand) (result : Except Fault Unit) :
    (after errand result : Caller τ).ticket? = none := by
  unfold after
  split <;> rfl

theorem ticketStartToken (k : Keeper ω τ) (now : Instant) (id : String) :
    (startToken k now id).ticket? = none := by
  unfold startToken
  split
  · split <;> rfl
  · rfl

theorem ticketStartSweep (k : Keeper ω τ) (now : Instant) : (startSweep k now).ticket? = none := by
  unfold startSweep
  split <;> rfl

end Caller

namespace Keeper

structure Ages (before after : Keeper ω τ) : Prop where
  grown : before.roster.nextEpoch ≤ after.roster.nextEpoch
  slots : ∀ id slot, after.roster.slot? id = some slot →
    (∃ old, before.roster.slot? id = some old ∧ slot.Follows old) ∨
      before.roster.nextEpoch ≤ slot.epoch

def Honours (k : Keeper ω τ) (caller : Caller τ) : Prop :=
  ∀ id ticket, caller.ticket? = some (id,ticket) → ticket.epoch < k.roster.nextEpoch ∧
    ∀ slot, k.roster.slot? id = some slot → ticket.Fits slot

variable {k next : Keeper ω τ}

theorem followsMarks {slot old : Slot} (marks : slot.marks = old.marks) : slot.Follows old := by
  simp only [Slot.marks,Prod.mk.injEq] at marks
  obtain ⟨epoch,flight,ended,-⟩ := marks
  exact ⟨epoch,.inr ⟨ended,fun under => flight.trans under⟩⟩

theorem agesCarried (carried : k.Carries next) : k.Ages next where
  grown := carried.grown
  slots id slot found := by
    rcases carried.slots id slot found with ⟨old,was,marks⟩ | ⟨marks,-⟩
    · exact .inl ⟨old,was,followsMarks marks⟩
    · simp only [Slot.marks,Prod.mk.injEq] at marks
      exact .inr (Nat.le_of_eq marks.1.symm)

theorem agesPut {id : String} {old new : Slot} (found : k.roster.slot? id = some old)
    (follows : new.Follows old) (vault : ω) : k.Ages { k with vault, roster := k.roster.put id new } where
  grown := Nat.le_refl _
  slots other slot there := by
    rw [Roster.slotPut] at there
    split at there
    · rename_i here
      subst here
      cases Option.some.inj there
      exact .inl ⟨old,found,follows⟩
    · exact .inl ⟨slot,there,followsMarks rfl⟩

theorem agesEnded {a : Attempt τ} {old new : Slot} (found : k.slotOf? a = some old)
    (epoch : new.epoch = old.epoch) (ended : new.ended = old.ended + 1) (vault : ω) :
    k.Ages { k with vault, roster := k.roster.put a.id new } :=
  agesPut (slotOfFound found).1 ⟨epoch,.inl (by omega)⟩ vault

theorem agesOpen (k : Keeper ω τ) (now : Instant) (id : String) (within : Option Time.Span)
    (ticket : Option Ticket) : k.Ages (k.openRefresh now id within ticket).2 := by
  have opened := k.opens now id within ticket
  generalize k.openRefresh now id within ticket = result at opened ⊢
  cases opened with
  | begins found => exact agesPut found ⟨by rfl,.inr ⟨by rfl,fun _ => by rfl⟩⟩ _
  | _ => exact agesCarried k.carriesSelf

theorem agesAbandon (k : Keeper ω τ) (a : Attempt τ) : k.Ages (k.abandon a) := by
  have ended := k.abandons a
  generalize k.abandon a = next at ended ⊢
  cases ended with
  | gone absent => exact agesCarried k.carriesSelf
  | broken found => exact agesEnded found (by rfl) (by rfl) _

theorem honoursAged {caller : Caller τ} (h : k.Honours caller) (aged : k.Ages next) :
    next.Honours caller := by
  intro id ticket shown
  obtain ⟨early,fits⟩ := h id ticket shown
  refine ⟨Nat.lt_of_lt_of_le early aged.grown,?_⟩
  intro slot there
  rcases aged.slots id slot there with ⟨old,was,follows⟩ | new
  · exact fitsOn (fits old was) follows
  · intro mine
    omega

theorem honoursNone {caller : Caller τ} (none : caller.ticket? = none) : k.Honours caller := by
  intro id ticket shown
  rw [none] at shown
  cases shown

theorem honoursWake {caller : Caller τ} (h : k.Honours caller) : k.Honours caller.wake := by
  intro id ticket shown
  rw [Caller.ticketWake] at shown
  exact h id ticket shown

theorem honoursReread {caller : Caller τ} (h : k.Honours caller) (x : Turn) :
    (k.under x).Honours (caller.reread (k.under x).buffer) := by
  intro id ticket shown
  rw [Caller.ticketReread] at shown
  exact h id ticket shown

variable [Vault ω]

theorem agesSettle (k : Keeper ω τ) (now : Instant) (a : Attempt τ)
    (outcome : Except Exchange.Fault Reply) : k.Ages (k.settle now a outcome).2 := by
  have settled := k.settles now a outcome
  generalize k.settle now a outcome = result at settled ⊢
  cases settled with
  | gone absent => exact agesCarried k.carriesSelf
  | refused found => exact agesEnded found (by rfl) (by rfl) _
  | kept found other => exact agesEnded found (by rfl) (by rfl) _
  | saved found same save => exact agesEnded found (by rfl) (by rfl) _
  | unsaved found same save => exact agesEnded found (by rfl) (by rfl) _

theorem ages {now : Instant} {e : Event} (moved : Traffic.Moves k now e next) : k.Ages next := by
  cases moved with
  | register e => exact agesCarried (k.carriesRegister e)
  | storeTokens id access refresh lifetime =>
    exact agesCarried (k.carriesStore now id access refresh lifetime)
  | delete id => exact agesCarried (k.carriesDelete id)
  | opens n id within ticket => exact k.agesOpen now id within ticket
  | settle n outcome a => exact k.agesSettle now a outcome
  | abandon n a => exact k.agesAbandon a
  | stays e => exact agesCarried k.carriesSelf

end Keeper

namespace Traffic

def Ticketed (t : Traffic ω τ) : Prop := ∀ caller ∈ t.callers, t.keeper.Honours caller

theorem ticketedSet {t : Traffic ω τ} (h : t.Ticketed) {n : Nat} {caller : Caller τ}
    {next : Keeper ω τ} (aged : t.keeper.Ages next) (fits : next.Honours caller) :
    ∀ other ∈ t.callers.set n caller, next.Honours other := by
  intro other member
  rcases List.mem_or_eq_of_mem_set member with old | rfl
  · exact Keeper.honoursAged (h other old) aged
  · exact fits

theorem ticketedProceed {t : Traffic ω τ} (flights : t.Flights) (h : t.Ticketed) (now : Instant) {n : Nat}
    {caller : Caller τ} (there : t.callers[n]? = some caller) :
    (t.advance n (caller.step t.keeper now)).Ticketed := by
  have fits := h caller (List.mem_of_getElem? there)
  have stays := Keeper.agesCarried t.keeper.carriesSelf
  cases caller with
  | opening errand within ticket =>
    have aged := t.keeper.agesOpen now errand.id within ticket
    simp only [Caller.step]
    have opened := t.keeper.opens now errand.id within ticket
    generalize t.keeper.openRefresh now errand.id within ticket = result at opened aged ⊢
    cases opened with
    | @waits slot found flight =>
      refine ticketedSet h stays ?_
      cases ticket with
      | some ticket => exact fits
      | none =>
        -- the first wait: the ticket is taken from the slot as it is
        rintro id ticket ⟨⟩
        refine ⟨(flights.slots _ slot found).early,?_⟩
        intro now there
        cases found.symm.trans there
        exact fun _ => .inr ⟨rfl,flight⟩
    | begins found => exact ticketedSet h aged (Keeper.honoursNone rfl)
    | _ => exact ticketedSet h stays (Keeper.honoursNone (Caller.ticketAfter ..))
  | waiting errand within ticket => exact ticketedSet h stays fits
  | exchanging errand a => exact ticketedSet h stays fits
  | reading id => exact ticketedSet h stays (Keeper.honoursNone rfl)
  | finished answer => exact ticketedSet h stays fits

theorem ticketedUnder {t : Traffic ω τ} (h : t.Ticketed) (x : Turn) : (t.under x).Ticketed := by
  intro caller member
  obtain ⟨other,old,rfl⟩ := List.mem_map.mp member
  exact Keeper.honoursReread (h other old) x

variable [Vault ω]

theorem ticketedStep {t : Traffic ω τ} (flights : t.Flights) (h : t.Ticketed) (now : Instant) (e : Event) :
    (t.step now e).Ticketed := by
  have aged := Keeper.ages (t.moves now e)
  have carried : (t.step now e).callers = t.callers → (t.step now e).Ticketed := by
    intro same caller member
    rw [same] at member
    exact Keeper.honoursAged (h caller member) aged
  have entered : ∀ caller : Caller τ, caller.ticket? = none → (t.enter caller).Ticketed := by
    intro caller none other member
    rcases List.mem_append.mp member with old | new
    · exact h other old
    · cases List.mem_singleton.mp new
      exact Keeper.honoursNone none
  have stepped := t.steps now e
  generalize t.step now e = u at stepped aged carried ⊢
  cases stepped with
  | rests => exact h
  | registers e => exact carried rfl
  | stores id access refresh lifetime => exact carried rfl
  | deletes id => exact carried rfl
  | refreshes id => exact entered _ rfl
  | reads id => exact entered _ (Caller.ticketStartToken ..)
  | sweeps => exact entered _ (Caller.ticketStartSweep ..)
  | advances there moving => exact ticketedProceed flights h now there
  | settles there => exact ticketedSet h aged (Keeper.honoursNone (Caller.ticketAfter ..))
  | abandons there => exact ticketedSet h aged (Keeper.honoursNone rfl)
  | stirs n =>
    intro caller member
    obtain ⟨i,there⟩ := List.mem_iff_getElem?.mp member
    obtain ⟨other,old,rfl | rfl⟩ := stirred there
    · exact h _ (List.mem_of_getElem? old)
    · exact Keeper.honoursWake (h other (List.mem_of_getElem? old))
  | notifies due =>
    intro caller member
    obtain ⟨other,old,rfl⟩ := List.mem_map.mp member
    exact Keeper.honoursWake (h other old)

theorem ticketedTurn (t : Traffic ω τ) (x : Turn) (h : t.Flights ∧ t.Ticketed) :
    (t.turn x).Flights ∧ (t.turn x).Ticketed :=
  ⟨flightsTurn t x h.1,ticketedStep (flightsUnder h.1 x) (ticketedUnder h.2 x) x.now x.event⟩

theorem ticketedPlay (k : Keeper ω τ) (xs : List Turn) : ((start k).play xs).Ticketed := by
  refine (playKeeps ticketedTurn xs ⟨flightsStart k,?_⟩).2
  intro caller member
  cases member

theorem waitersJoin (k : Keeper ω τ) (xs : List Turn) :
    let t := (start k).play xs
    ∀ n errand within ticket slot, t.callers[n]? = some (.opening errand within (some ticket)) →
      t.keeper.roster.slot? errand.id = some slot → slot.inFlight = false →
      (slot.epoch = ticket.epoch → ∃ told, (t.endedOn errand.id slot.epoch).getLast? = some told ∧
        ticket.ended < (t.endedOn errand.id slot.epoch).length ∧
        ∀ x, x.event = .proceed n → t.turn x = (t.under x).advance n
          (.after errand (if succeeded told then .ok () else .error (.sharedRefreshFailed errand.id)),
            t.keeper.under x)) ∧
      (slot.epoch ≠ ticket.epoch → ∀ x, x.event = .proceed n → t.turn x =
        (t.under x).advance n ((Caller.opening errand within none).step (t.keeper.under x) x.now)) := by
  intro t n errand within ticket slot there found idle
  have tallied := (flightsPlay k xs).slots errand.id slot found
  have fits := (ticketedPlay k xs _ (List.mem_of_getElem? there) _ ticket rfl).2 slot found
  have present (x : Turn) : (t.under x).callers[n]? = some (.opening errand within (some ticket)) := by
    rw [under,List.getElem?_map,there,Option.map_some,Caller.rereadTicketed (by rfl)]
  have kept (x : Turn) : (t.keeper.under x).roster.slot? errand.id = some slot := found
  refine ⟨?_,?_⟩
  · intro mine
    have more : ticket.ended < slot.ended := by
      rcases fits mine with ended | ⟨-,flight⟩
      · exact ended
      · rw [idle] at flight
        cases flight
    rw [← tallied.ended] at more
    have last := List.getLast?_eq_some_getLast (List.ne_nil_of_length_pos (Nat.zero_lt_of_lt more))
    generalize (t.endedOn errand.id slot.epoch).getLast _ = told at last
    refine ⟨told,last,more,?_⟩
    intro x proceeds
    have shared := tallied.last
    rw [last,Option.any_some] at shared
    rw [tallied.ended] at more
    rw [turn,proceeds,step,present]
    simp [under,Caller.rests,Caller.step,Keeper.openRefresh,kept,Keeper.joinedResult?,mine,idle,
      Nat.ne_of_gt more,shared]
  · intro other x proceeds
    rw [turn,proceeds,step,present]
    simp [under,Caller.rests,Caller.step,Keeper.openRefresh,kept,Keeper.joinedResult?,other,idle]

-- caller 1 waits, and again after the account was deleted and enrolled anew. The exchange of caller 2
-- ends well, and yet caller 1 begins another.
example : let t := (start Sample.keeper).play (Sample.turns (Sample.arrival ++
      [.refresh "a",.proceed 0,.refresh "a",.proceed 1,.delete "a"] ++ Sample.arrival ++
      [.refresh "a",.proceed 2,.notify,.proceed 1,.settle 2 (.ok Sample.reply),.notify,.proceed 1]))
    (t.attemptOf? 1).isSome = true ∧ t.begunOn "a" 1 = 2 := by
  decide

end Traffic

end GrantKeeper
