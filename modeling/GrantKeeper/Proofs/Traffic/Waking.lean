import GrantKeeper.Proofs.Traffic.Flights

/-! Nobody waits in vain. Whoever waits does so for an exchange that is under way,
or a notice is due from whoever took the mark off the slot. -/
namespace GrantKeeper
open Time (Instant Span)
variable {ω τ : Type}

def Caller.waitsFor? : Caller τ → Option String
  | .waiting errand _ _ => some errand.id
  | _ => none

namespace Caller

theorem waitsForAfter (errand : Errand) (result : Except Fault Unit) :
    (after errand result : Caller τ).waitsFor? = none := by
  unfold after
  split <;> rfl

theorem waitsForStartToken (k : Keeper ω τ) (now : Instant) (id : String) :
    (startToken k now id).waitsFor? = none := by
  unfold startToken
  split
  · split <;> rfl
  · rfl

theorem waitsForStartSweep (k : Keeper ω τ) (now : Instant) : (startSweep k now).waitsFor? = none := by
  unfold startSweep
  split <;> rfl

theorem waitsForWake (caller : Caller τ) : caller.wake.waitsFor? = none := by
  cases caller <;> rfl

theorem waitsForReread (buffer : Span) (caller : Caller τ) :
    (caller.reread buffer).waitsFor? = caller.waitsFor? := by
  rcases caller.rereads buffer with kept | ⟨id,old,rfl,anew⟩
  · rw [kept]
  · rw [anew]
    rfl

end Caller

namespace Keeper

def Marked (k : Keeper ω τ) (id : String) : Prop :=
  ∃ slot, k.roster.slot? id = some slot ∧ slot.inFlight = true

theorem markedPut {k : Keeper ω τ} {id other : String} {old new : Slot} (h : k.Marked other)
    (found : k.roster.slot? id = some old) (kept : old.inFlight = true → new.inFlight = true)
    (vault : ω) : Marked { k with vault, roster := k.roster.put id new } other := by
  obtain ⟨slot,there,flight⟩ := h
  by_cases same : id = other
  · subst same
    cases found.symm.trans there
    exact ⟨new,by rw [Roster.slotPut,if_pos rfl],kept flight⟩
  · exact ⟨slot,by rw [Roster.slotPut,if_neg same]; exact there,flight⟩

theorem markedEnroll {k : Keeper ω τ} {id : String} (h : k.Marked id) (e : Enrollment)
    (stored : Option Grant) (vault : ω) :
    Marked { k with vault, roster := k.roster.enroll e stored } id := by
  cases known : k.roster.slot? e.id with
  | some old =>
    simp only [Roster.enroll,known]
    exact markedPut h known (by exact fun flight => flight) vault
  | none =>
    obtain ⟨slot,there,flight⟩ := h
    have other : e.id ≠ id := by
      rintro rfl
      rw [known] at there
      cases there
    exact ⟨slot,(Roster.slotEnrollOther k.roster other stored).trans there,flight⟩

theorem markedOpen {k : Keeper ω τ} {id : String} (h : k.Marked id) (now : Instant) (other : String)
    (within : Option Span) (ticket : Option Ticket) :
    (k.openRefresh now other within ticket).2.Marked id := by
  have opened := k.opens now other within ticket
  generalize k.openRefresh now other within ticket = result at opened ⊢
  cases opened with
  | begins found => exact markedPut h found (fun _ => rfl) _
  | _ => exact h

theorem markedWait {k : Keeper ω τ} (now : Instant) {caller : Caller τ} (moving : caller.rests = false)
    {id : String} (waits : (caller.step k now).1.waitsFor? = some id) :
    (caller.step k now).2.Marked id := by
  cases caller with
  | opening errand within ticket =>
    simp only [Caller.step] at waits ⊢
    have opened := k.opens now errand.id within ticket
    generalize k.openRefresh now errand.id within ticket = result at opened waits ⊢
    cases opened with
    | waits found flight =>
      cases Option.some.inj waits
      exact ⟨_,found,flight⟩
    | begins => cases waits
    | _ =>
      rw [Caller.waitsForAfter] at waits
      cases waits
  | reading other => cases waits
  | waiting => cases moving
  | exchanging => cases moving
  | finished => cases moving

variable [Vault ω]

theorem markedRegister {k : Keeper ω τ} {id : String} (h : k.Marked id) (e : Enrollment) :
    (k.register e).2.Marked id := by
  have registered := k.registers e
  generalize k.register e = result at registered ⊢
  cases registered with
  | refused unusable => exact h
  | enrolled usable load => exact markedEnroll h e _ _

theorem markedStore {k : Keeper ω τ} {id : String} (h : k.Marked id) (now : Instant)
    (other access refresh : String) (lifetime : Int) :
    (k.storeTokens now other access refresh lifetime).2.Marked id := by
  have stored := k.stores now other access refresh lifetime
  generalize k.storeTokens now other access refresh lifetime = result at stored ⊢
  cases stored with
  | unknown absent => exact h
  | saved found save => exact markedPut h found (by exact fun flight => flight) _
  | unsaved found save => exact h

end Keeper

namespace Traffic
variable [Vault ω]

theorem markedStep (t : Traffic ω τ) (now : Instant) (e : Event) {id : String} (h : t.keeper.Marked id) :
    (t.step now e).keeper.Marked id ∨ (t.step now e).notices = t.notices + 1 := by
  have moved := t.moves now e
  have stepped := t.steps now e
  generalize t.step now e = u at moved stepped ⊢
  cases stepped with
  | registers e => exact .inl (Keeper.markedRegister h e)
  | stores other access refresh lifetime => exact .inl (Keeper.markedStore h now other access refresh lifetime)
  | deletes other => exact .inr rfl
  | @advances n caller there moving =>
    refine .inl ?_
    generalize (t.advance n (caller.step t.keeper now)).keeper = next at moved ⊢
    cases moved with
    | opens n other within ticket => exact Keeper.markedOpen h now other within ticket
    | stays e => exact h
  | settles there => exact .inr rfl
  | abandons there => exact .inr rfl
  | _ => exact .inl h

theorem noticesGrow (t : Traffic ω τ) (now : Instant) {e : Event} (other : e ≠ .notify) :
    t.notices ≤ (t.step now e).notices := by
  have stepped := t.steps now e
  generalize t.step now e = u at stepped ⊢
  cases stepped with
  | deletes id => exact Nat.le_succ _
  | settles there => exact Nat.le_succ _
  | abandons there => exact Nat.le_succ _
  | notifies due => exact absurd rfl other
  | _ => exact Nat.le_refl _

theorem waitersStep (t : Traffic ω τ) (now : Instant) (e : Event) {caller : Caller τ} {id : String}
    (member : caller ∈ (t.step now e).callers) (waits : caller.waitsFor? = some id) :
    (t.step now e).keeper.Marked id ∨
      (∃ old ∈ t.callers, old.waitsFor? = some id) ∧ (e = .notify → t.notices = 0) := by
  have entered : ∀ new : Caller τ, new.waitsFor? = none → caller ∈ (t.enter new).callers →
      ∃ old ∈ t.callers, old.waitsFor? = some id := by
    intro new free member
    rcases List.mem_append.mp member with old | last
    · exact ⟨caller,old,waits⟩
    · cases List.mem_singleton.mp last
      rw [free] at waits
      cases waits
  have replaced : ∀ (n : Nat) (new : Caller τ), new.waitsFor? = none → caller ∈ t.callers.set n new →
      ∃ old ∈ t.callers, old.waitsFor? = some id := by
    intro n new free member
    rcases List.mem_or_eq_of_mem_set member with old | rfl
    · exact ⟨caller,old,waits⟩
    · rw [free] at waits
      cases waits
  have stepped := t.steps now e
  generalize t.step now e = u at stepped member ⊢
  cases stepped with
  | rests unheard => exact .inr ⟨⟨caller,member,waits⟩,unheard⟩
  | registers e => exact .inr ⟨⟨caller,member,waits⟩,nofun⟩
  | stores other access refresh lifetime => exact .inr ⟨⟨caller,member,waits⟩,nofun⟩
  | deletes other => exact .inr ⟨⟨caller,member,waits⟩,nofun⟩
  | refreshes other => exact .inr ⟨entered _ rfl member,nofun⟩
  | reads other => exact .inr ⟨entered _ (Caller.waitsForStartToken ..) member,nofun⟩
  | sweeps => exact .inr ⟨entered _ (Caller.waitsForStartSweep ..) member,nofun⟩
  | advances there moving =>
    rcases List.mem_or_eq_of_mem_set member with old | rfl
    · exact .inr ⟨⟨caller,old,waits⟩,nofun⟩
    · exact .inl (Keeper.markedWait now moving waits)
  | settles there => exact .inr ⟨replaced _ _ (Caller.waitsForAfter ..) member,nofun⟩
  | abandons there => exact .inr ⟨replaced _ _ rfl member,nofun⟩
  | stirs n =>
    obtain ⟨i,there⟩ := List.mem_iff_getElem?.mp member
    obtain ⟨old,was,rfl | rfl⟩ := stirred there
    · exact .inr ⟨⟨_,List.mem_of_getElem? was,waits⟩,nofun⟩
    · rw [Caller.waitsForWake] at waits
      cases waits
  | notifies due =>
    obtain ⟨old,was,rfl⟩ := List.mem_map.mp member
    rw [Caller.waitsForWake] at waits
    cases waits

theorem markedTurn (t : Traffic ω τ) (x : Turn) {id : String} (h : t.keeper.Marked id) :
    (t.turn x).keeper.Marked id ∨ (t.turn x).notices = t.notices + 1 :=
  markedStep (t.under x) x.now x.event h

theorem noticesTurn (t : Traffic ω τ) {x : Turn} (other : x.event ≠ .notify) :
    t.notices ≤ (t.turn x).notices :=
  noticesGrow (t.under x) x.now other

theorem waitersTurn (t : Traffic ω τ) (x : Turn) {caller : Caller τ} {id : String}
    (member : caller ∈ (t.turn x).callers) (waits : caller.waitsFor? = some id) :
    (t.turn x).keeper.Marked id ∨
      (∃ old ∈ t.callers, old.waitsFor? = some id) ∧ (x.event = .notify → t.notices = 0) := by
  rcases waitersStep (t.under x) x.now x.event member waits with marked | ⟨⟨old,there,waited⟩,notice⟩
  · exact .inl marked
  · obtain ⟨before,was,rfl⟩ := List.mem_map.mp there
    rw [Caller.waitsForReread] at waited
    exact .inr ⟨⟨before,was,waited⟩,notice⟩

def NoticeDue (k : Keeper ω τ) (xs : List Turn) (id : String) : Prop :=
  ∃ before x after, xs = before ++ x :: after ∧
    ((start k).play before).keeper.Marked id ∧
    ¬ ((start k).play (before ++ [x])).keeper.Marked id ∧
    ((start k).play (before ++ [x])).notices = ((start k).play before).notices + 1 ∧
    ∀ y ∈ after, y.event ≠ .notify

def Awaited (k : Keeper ω τ) (xs : List Turn) : Prop :=
  ∀ caller ∈ ((start k).play xs).callers, ∀ id, caller.waitsFor? = some id →
    ((start k).play xs).keeper.Marked id ∨ NoticeDue k xs id ∧ 0 < ((start k).play xs).notices

theorem awaitedNext {k : Keeper ω τ} {xs : List Turn} (h : Awaited k xs) (x : Turn) :
    Awaited k (xs ++ [x]) := by
  intro caller member id waits
  rw [playNext] at member ⊢
  rcases waitersTurn _ x member waits with marked | ⟨⟨old,was,waited⟩,notice⟩
  · exact .inl marked
  · rcases h old was id waited with marked | ⟨due,some⟩
    · -- the mark was there, so it is `x` that took it away
      by_cases still : (((start k).play xs).turn x).keeper.Marked id
      · exact .inl still
      · have more : (((start k).play xs).turn x).notices = ((start k).play xs).notices + 1 :=
          (markedTurn _ x marked).resolve_left still
        refine .inr ⟨⟨xs,x,[],rfl,marked,?_,?_,?_⟩,by omega⟩
        · rw [playNext]
          exact still
        · rw [playNext]
          exact more
        · intro y member
          cases member
    · have other : x.event ≠ .notify := fun event => by
        have none := notice event
        omega
      obtain ⟨before,y,after,rfl,marked,gone,more,quiet⟩ := due
      refine .inr ⟨⟨before,y,after ++ [x],by simp,marked,gone,more,?_⟩,?_⟩
      · intro z member
        rcases List.mem_append.mp member with old | last
        · exact quiet z old
        · cases List.mem_singleton.mp last
          exact other
      · exact Nat.lt_of_lt_of_le some (noticesTurn _ other)

theorem awaitedAppend {k : Keeper ω τ} {xs : List Turn} (h : Awaited k xs) (ys : List Turn) :
    Awaited k (xs ++ ys) := by
  induction ys generalizing xs with
  | nil => rwa [List.append_nil]
  | cons y ys ih =>
    have next := ih (awaitedNext h y)
    rwa [List.append_assoc] at next

theorem awaited (k : Keeper ω τ) (xs : List Turn) : Awaited k xs := by
  have first : Awaited k [] := by
    intro caller member
    cases member
  exact awaitedAppend first xs

/-- Whoever waits for an account waits for an exchange of its slot that is under way, or the notice
of whoever took the mark of the account away is still due. Once neither is the case nobody waits. -/
theorem noneStranded (k : Keeper ω τ) (xs : List Turn) :
    let t := (start k).play xs
    (∀ caller ∈ t.callers, ∀ id, caller.waitsFor? = some id →
      (∃ slot, t.keeper.roster.slot? id = some slot ∧ slot.inFlight = true ∧
        t.outstanding id slot.epoch = 1) ∨
      NoticeDue k xs id ∧ 0 < t.notices) ∧
    ((∀ id epoch, t.outstanding id epoch = 0) → t.notices = 0 →
      ∀ caller ∈ t.callers, caller.waitsFor? = none) := by
  intro t
  have one : ∀ caller ∈ t.callers, ∀ id, caller.waitsFor? = some id →
      (∃ slot, t.keeper.roster.slot? id = some slot ∧ slot.inFlight = true ∧
        t.outstanding id slot.epoch = 1) ∨ NoticeDue k xs id ∧ 0 < t.notices := by
    intro caller member id waits
    rcases awaited k xs caller member id waits with ⟨slot,found,flight⟩ | due
    · have tallied := ((flightsPlay k xs).slots id slot found).flight
      rw [flight] at tallied
      exact .inl ⟨slot,found,flight,tallied⟩
    · exact .inr due
  refine ⟨one,?_⟩
  intro idle quiet caller member
  cases waits : caller.waitsFor? with
  | none => rfl
  | some id =>
    rcases one caller member id waits with ⟨slot,-,-,under⟩ | ⟨-,due⟩
    · rw [idle] at under
      cases under
    · omega

theorem deletionNoticed :
    let xs := Sample.turns (Sample.arrival ++ [.refresh "a",.proceed 0,.refresh "a",.proceed 1,.delete "a"])
    let later := xs ++ Sample.turns [.abandon 0,.notify,.notify]
    (((start Sample.keeper).play xs).callers.map Caller.waitsFor? = [none,some "a"] ∧
      NoticeDue Sample.keeper xs "a") ∧
    ∀ caller ∈ ((start Sample.keeper).play later).callers, caller.waitsFor? = none := by
  intro xs later
  constructor
  · have shown : ((start Sample.keeper).play xs).callers.map Caller.waitsFor? = [none,some "a"] := by decide
    obtain ⟨caller,member,waits⟩ := List.mem_map.mp (show some "a" ∈ List.map _ _ by rw [shown]; simp)
    refine ⟨shown,?_⟩
    rcases (noneStranded Sample.keeper xs).1 caller member "a" waits with ⟨slot,found,-⟩ | ⟨due,-⟩
    · cases found
    · exact due
  · have free : ((start Sample.keeper).play later).callers.all (·.attempt?.isNone) = true := by decide
    refine (noneStranded Sample.keeper later).2 ?_ (by decide)
    intro id epoch
    refine List.countP_eq_zero.mpr ?_
    intro caller member on
    rw [Caller.isOnFree (Option.isNone_iff_eq_none.mp (List.all_eq_true.mp free caller member))] at on
    cases on

end Traffic

end GrantKeeper
