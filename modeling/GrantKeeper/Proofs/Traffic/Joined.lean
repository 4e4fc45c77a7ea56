import GrantKeeper.Proofs.Traffic.Failures
import GrantKeeper.Proofs.Traffic.Joining

/-! What those are told who waited. Whoever is told how another's exchange ended came while an
exchange of the slot was under way, and did nothing but wait since then. What it is told is how
the last exchange of the slot ended, and that has ended in the meantime. -/
namespace GrantKeeper
open Time (Instant Span)
variable {ω τ : Type}

inductive Caller.Attends (errand : Errand) (within : Option Span) (ticket : Ticket) : Caller τ → Prop
  | waiting : Attends errand within ticket (.waiting errand within ticket)
  | woken : Attends errand within ticket (.opening errand within (some ticket))

namespace Caller
variable {errand : Errand} {within : Option Span} {ticket : Ticket} {caller : Caller τ}

theorem attendsWake (attends : caller.wake.Attends errand within ticket) :
    caller.Attends errand within ticket := by
  cases caller with
  | waiting => cases attends; exact .waiting
  | opening => exact attends
  | _ => cases attends

theorem attendsReread {buffer : Span} (attends : (caller.reread buffer).Attends errand within ticket) :
    caller.Attends errand within ticket := by
  rcases caller.rereads buffer with kept | ⟨id,old,rfl,anew⟩
  · rwa [kept] at attends
  · rw [anew] at attends
    cases attends

theorem rereadAttends (attends : caller.Attends errand within ticket) (buffer : Span) :
    caller.reread buffer = caller := by
  cases attends <;> exact rereadTicketed (by rfl) buffer

theorem freeAttends (attends : caller.Attends errand within ticket) : caller.attempt? = none := by
  cases attends <;> rfl

theorem attendsAfter {other : Errand} {result : Except Fault Unit}
    (attends : (after other result : Caller τ).Attends errand within ticket) : False := by
  unfold after at attends
  split at attends <;> cases attends

theorem attendsStartRefresh {id : String}
    (attends : (startRefresh id : Caller τ).Attends errand within ticket) : False := by
  cases attends

theorem attendsStartToken {k : Keeper ω τ} {now : Instant} {id : String}
    (attends : (startToken k now id).Attends errand within ticket) : False := by
  unfold startToken at attends
  split at attends
  · split at attends <;> cases attends
  · cases attends

theorem attendsStartSweep {k : Keeper ω τ} {now : Instant}
    (attends : (startSweep k now).Attends errand within ticket) : False := by
  unfold startSweep at attends
  split at attends <;> cases attends

theorem attendsStep {k : Keeper ω τ} {now : Instant} (moving : caller.rests = false)
    (attends : (caller.step k now).1.Attends errand within ticket) : (caller.step k now).2 = k ∧
      (caller.Attends errand within ticket ∨ caller = .opening errand within none ∧
        ∃ slot, k.roster.slot? errand.id = some slot ∧ slot.inFlight = true ∧
          ticket = ⟨slot.epoch,slot.ended⟩) := by
  cases caller with
  | opening other buffer shown =>
    have opened := k.opens now other.id buffer shown
    simp only [step] at attends ⊢
    generalize k.openRefresh now other.id buffer shown = result at opened attends ⊢
    cases opened with
    | @waits slot found flight =>
      cases attends
      refine ⟨rfl,?_⟩
      cases shown with
      | none => exact .inr ⟨rfl,slot,found,flight,rfl⟩
      | some ticket => exact .inl .woken
    | begins found => cases attends
    | _ => exact (attendsAfter attends).elim
  | reading id => cases attends
  | _ => cases moving

end Caller

namespace Traffic

def Attends (t : Traffic ω τ) (n : Nat) (errand : Errand) (within : Option Span) (ticket : Ticket) :
    Prop :=
  ∃ caller, t.callers[n]? = some caller ∧ caller.Attends errand within ticket

structure Conducts (t : Traffic ω τ) (n : Nat) (a : Attempt τ) (slot : Slot) (id : String)
    (epoch : Nat) : Prop where
  there : ∃ errand, t.callers[n]? = some (.exchanging errand a)
  on : a.isOn id epoch = true
  found : t.keeper.slotOf? a = some slot

inductive Closes [Vault ω] (t : Traffic ω τ) (now : Instant) (id : String) (epoch : Nat) :
    Event → Option (Except Fault Unit) → Prop
  | settled {n outcome errand a} (there : t.callers[n]? = some (.exchanging errand a))
      (on : a.isOn id epoch = true) :
      Closes t now id epoch (.settle n outcome) (some (t.keeper.settle now a outcome).1)
  | broken {n errand a} (there : t.callers[n]? = some (.exchanging errand a))
      (on : a.isOn id epoch = true) : Closes t now id epoch (.abandon n) none

inductive Concludes [Vault ω] (t : Traffic ω τ) (now : Instant) (id : String) (epoch : Nat) :
    Event → Option (Except Fault Unit) → Prop
  | committed {n a slot reply vault} (conducts : t.Conducts n a slot id epoch)
      (same : slot.account.grant = a.previous)
      (save : Vault.save t.keeper.vault id (a.previous.refreshed now reply) = (.ok (),vault)) :
      Concludes t now id epoch (.settle n (.ok reply)) (some (.ok ()))
  | kept {n a slot reply} (conducts : t.Conducts n a slot id epoch)
      (other : slot.account.grant ≠ a.previous) :
      Concludes t now id epoch (.settle n (.ok reply)) (some (.ok ()))
  | refused {n a slot fault} (conducts : t.Conducts n a slot id epoch) :
      Concludes t now id epoch (.settle n (.error fault)) (some (.error (.exchange fault)))
  | unsaved {n a slot reply fault vault} (conducts : t.Conducts n a slot id epoch)
      (same : slot.account.grant = a.previous)
      (save : Vault.save t.keeper.vault id (a.previous.refreshed now reply) = (.error fault,vault)) :
      Concludes t now id epoch (.settle n (.ok reply)) (some (.error fault))
  | broken {n a slot} (conducts : t.Conducts n a slot id epoch) :
      Concludes t now id epoch (.abandon n) none

variable {t : Traffic ω τ} {n : Nat} {errand : Errand} {within : Option Span} {ticket : Ticket}

theorem attendsUnder {x : Turn} (attends : (t.under x).Attends n errand within ticket) :
    t.Attends n errand within ticket := by
  obtain ⟨caller,there,waits⟩ := attends
  obtain ⟨old,was,rfl⟩ := Option.map_eq_some_iff.mp ((List.getElem?_map ..).symm.trans there)
  exact ⟨old,was,Caller.attendsReread waits⟩

theorem underAttends (x : Turn) (attends : t.Attends n errand within ticket) :
    (t.under x).Attends n errand within ticket := by
  obtain ⟨caller,there,waits⟩ := attends
  refine ⟨caller,?_,waits⟩
  rw [under,List.getElem?_map,there,Option.map_some,Caller.rereadAttends waits]

theorem attendsEnter {caller : Caller τ} (apart : caller.Attends errand within ticket → False)
    (attends : (t.enter caller).Attends n errand within ticket) : t.Attends n errand within ticket := by
  obtain ⟨found,there,waits⟩ := attends
  rw [enter,List.getElem?_append] at there
  split at there
  · exact ⟨found,there,waits⟩
  · cases List.mem_singleton.mp (List.mem_of_getElem? there)
    exact (apart waits).elim

theorem attendsSet {u : Traffic ω τ} {m : Nat} {next : Caller τ} (set : u.callers = t.callers.set m next)
    (attends : u.Attends n errand within ticket) :
    m ≠ n ∧ t.Attends n errand within ticket ∨ m = n ∧ next.Attends errand within ticket := by
  obtain ⟨caller,there,waits⟩ := attends
  rw [set,List.getElem?_set] at there
  split at there
  · rename_i same
    cases (Option.ite_none_right_eq_some.mp there).2
    exact .inr ⟨same,waits⟩
  · rename_i apart
    exact .inl ⟨apart,caller,there,waits⟩

theorem conductsOn {id : String} {epoch : Nat} {a : Attempt τ} {slot : Slot}
    (there : t.callers[n]? = some (.exchanging errand a)) (on : a.isOn id epoch = true)
    (found : t.keeper.roster.slot? id = some slot) (mine : slot.epoch = epoch) :
    a.id = id ∧ t.Conducts n a slot id epoch := by
  have same := on
  simp only [Attempt.isOn,Bool.and_eq_true,beq_iff_eq] at same
  refine ⟨same.1,⟨errand,there⟩,on,?_⟩
  rw [Keeper.slotOf?,same.1,found,Option.filter_some,if_pos]
  exact beq_iff_eq.mpr (mine.trans same.2.symm)

structure Idles [Vault ω] (t : Traffic ω τ) (x : Turn) : Prop where
  keeper : (t.turn x).keeper = t.keeper.under x
  begun : (t.turn x).begun = t.begun

structure Joins (t : Traffic ω τ) (x : Turn) (n : Nat) (errand : Errand) (within : Option Span)
    (ticket : Ticket) (result : Except Fault Unit) : Prop where
  event : x.event = .proceed n
  opens : t.callers[n]? = some (.opening errand within (some ticket))
  shared : ∃ slot, t.keeper.roster.slot? errand.id = some slot ∧
    Keeper.joinedResult? slot errand.id (some ticket) = some result

theorem Joins.turns {x : Turn} {result : Except Fault Unit} [Vault ω]
    (joins : t.Joins x n errand within ticket result) :
    (t.turn x).callers[n]? = some (.after errand result) ∧ t.Idles x := by
  obtain ⟨event,opens,slot,found,shared⟩ := joins
  have there : (t.under x).callers[n]? = some (.opening errand within (some ticket)) := by
    rw [under,List.getElem?_map,opens,Option.map_some,Caller.rereadAttends .woken]
  have opened : (t.under x).keeper.openRefresh x.now errand.id within (some ticket) =
      (.closed result,t.keeper.under x) := by
    have found : (t.under x).keeper.roster.slot? errand.id = some slot := found
    simp only [Keeper.openRefresh,found,shared]
    rfl
  have stepped : t.turn x = (t.under x).advance n (.after errand result,t.keeper.under x) := by
    simp only [turn,event,step,there,Caller.rests,Bool.false_eq_true,if_false,Caller.step,opened]
  refine ⟨?_,?_,?_⟩
  · rw [stepped]
    exact List.getElem?_set_self (List.getElem?_eq_some_iff.mp there).1
  · rw [stepped]
    rfl
  · rw [stepped,advance,Caller.attemptAfter]
    exact List.append_nil _

variable [Vault ω]

structure FirstWaits (t : Traffic ω τ) (x : Turn) (n : Nat) (errand : Errand) (within : Option Span)
    (ticket : Ticket) : Prop where
  event : x.event = .proceed n
  opens : (t.under x).callers[n]? = some (.opening errand within none)
  flight : ∃ slot, t.keeper.roster.slot? errand.id = some slot ∧ slot.inFlight = true ∧
    ticket = ⟨slot.epoch,slot.ended⟩
  idles : t.Idles x

inductive Waits (n : Nat) (errand : Errand) (within : Option Span) (ticket : Ticket) :
    Traffic ω τ → List Turn → Prop
  | still {t : Traffic ω τ} (attends : t.Attends n errand within ticket) :
      Waits n errand within ticket t []
  | goes {t : Traffic ω τ} {x xs} (attends : t.Attends n errand within ticket)
      (own : x.event.isOf n = true → t.Idles x)
      (rest : Waits n errand within ticket (t.turn x) xs) : Waits n errand within ticket t (x :: xs)

inductive Unended (id : String) (epoch : Nat) : Traffic ω τ → List Turn → Prop
  | still {t : Traffic ω τ} : Unended id epoch t []
  | goes {t : Traffic ω τ} {x xs} (none : ∀ told, ¬ (t.under x).Closes x.now id epoch x.event told)
      (rest : Unended id epoch (t.turn x) xs) : Unended id epoch t (x :: xs)

theorem attendsStep {now : Instant} {e : Event} (attends : (t.step now e).Attends n errand within ticket) :
    t.Attends n errand within ticket ∧
        (e.isOf n = true → (t.step now e).keeper = t.keeper ∧ (t.step now e).begun = t.begun) ∨
      e = .proceed n ∧ ((t.step now e).keeper = t.keeper ∧ (t.step now e).begun = t.begun) ∧
        t.callers[n]? = some (.opening errand within none) ∧
        ∃ slot, t.keeper.roster.slot? errand.id = some slot ∧ slot.inFlight = true ∧
          ticket = ⟨slot.epoch,slot.ended⟩ := by
  have stepped := t.steps now e
  generalize t.step now e = u at stepped attends ⊢
  cases stepped with
  | rests => exact .inl ⟨attends,fun _ => ⟨rfl,rfl⟩⟩
  | registers e => exact .inl ⟨attends,fun own => by cases own⟩
  | stores id access refresh lifetime => exact .inl ⟨attends,fun own => by cases own⟩
  | deletes id => exact .inl ⟨attends,fun own => by cases own⟩
  | refreshes id => exact .inl ⟨attendsEnter Caller.attendsStartRefresh attends,fun own => by cases own⟩
  | reads id => exact .inl ⟨attendsEnter Caller.attendsStartToken attends,fun own => by cases own⟩
  | sweeps => exact .inl ⟨attendsEnter Caller.attendsStartSweep attends,fun own => by cases own⟩
  | @advances m caller there moving =>
    rcases attendsSet rfl attends with ⟨apart,before⟩ | ⟨rfl,next⟩
    · exact .inl ⟨before,fun own => absurd (beq_iff_eq.mp own) apart⟩
    · have none : (t.advance m (caller.step t.keeper now)).begun = t.begun := by
        rw [advance,Caller.freeAttends next]
        exact List.append_nil _
      obtain ⟨kept,before | ⟨rfl,flight⟩⟩ := Caller.attendsStep moving next
      · exact .inl ⟨⟨caller,there,before⟩,fun _ => ⟨kept,none⟩⟩
      · exact .inr ⟨rfl,⟨kept,none⟩,there,flight⟩
  | settles there =>
    rcases attendsSet rfl attends with ⟨apart,before⟩ | ⟨rfl,next⟩
    · exact .inl ⟨before,fun own => absurd (beq_iff_eq.mp own) apart⟩
    · exact (Caller.attendsAfter next).elim
  | abandons there =>
    rcases attendsSet rfl attends with ⟨apart,before⟩ | ⟨rfl,next⟩
    · exact .inl ⟨before,fun own => absurd (beq_iff_eq.mp own) apart⟩
    · cases next
  | stirs m =>
    obtain ⟨caller,there,waits⟩ := attends
    obtain ⟨old,was,rfl | rfl⟩ := stirred there
    · exact .inl ⟨⟨_,was,waits⟩,fun _ => ⟨rfl,rfl⟩⟩
    · exact .inl ⟨⟨old,was,Caller.attendsWake waits⟩,fun _ => ⟨rfl,rfl⟩⟩
  | notifies due =>
    obtain ⟨caller,there,waits⟩ := attends
    obtain ⟨old,was,rfl⟩ := Option.map_eq_some_iff.mp ((List.getElem?_map ..).symm.trans there)
    exact .inl ⟨⟨old,was,Caller.attendsWake waits⟩,fun own => by cases own⟩

theorem attendsTurn {x : Turn} (attends : (t.turn x).Attends n errand within ticket) :
    t.Attends n errand within ticket ∧ (x.event.isOf n = true → t.Idles x) ∨
      t.FirstWaits x n errand within ticket := by
  rcases attendsStep attends with ⟨before,own⟩ | ⟨event,⟨kept,none⟩,opens,flight⟩
  · exact .inl ⟨attendsUnder before,fun mine => ⟨(own mine).1,(own mine).2⟩⟩
  · exact .inr ⟨event,opens,flight,kept,none⟩

theorem waitsSince {xs : List Turn} (attends : (t.play xs).Attends n errand within ticket) :
    Waits n errand within ticket t xs ∨ ∃ before x since, xs = before ++ x :: since ∧
      (t.play before).FirstWaits x n errand within ticket ∧
      Waits n errand within ticket (t.play (before ++ [x])) since := by
  induction xs generalizing t with
  | nil => exact .inl (.still attends)
  | cons y ys ih =>
    rcases ih attends with waits | ⟨before,x,since,rfl,first,waits⟩
    · have now : (t.turn y).Attends n errand within ticket := by cases waits <;> assumption
      rcases attendsTurn now with ⟨earlier,own⟩ | first
      · exact .inl (.goes earlier own waits)
      · exact .inr ⟨[],y,ys,rfl,first,waits⟩
    · exact .inr ⟨y :: before,x,since,rfl,first,waits⟩

theorem closesOwn {now : Instant} {id : String} {epoch : Nat} {e : Event} {told : Option (Except Fault Unit)}
    (closes : t.Closes now id epoch e told) (own : e.isOf n = true) :
    ∃ errand a, t.attemptOf? n = some (errand,a) ∧ a.isOn id epoch = true := by
  cases closes with
  | settled there on =>
    cases beq_iff_eq.mp own
    exact ⟨_,_,by rw [attemptOf?,there],on⟩
  | broken there on =>
    cases beq_iff_eq.mp own
    exact ⟨_,_,by rw [attemptOf?,there],on⟩

theorem endedClosing {now : Instant} {e : Event} (own : e.isOf n = true) (id : String) (epoch : Nat)
    (idle : t.attemptOf? n = none → t.step now e = t)
    (ends : ∀ errand a, t.attemptOf? n = some (errand,a) → ∃ told next,
      t.step now e = t.close n a told next ∧ (a.isOn id epoch = true → t.Closes now id epoch e told)) :
    (t.step now e).endedOn id epoch = t.endedOn id epoch ∧ (∀ told, ¬ t.Closes now id epoch e told) ∨
      ∃ told, t.Closes now id epoch e told ∧
        (t.step now e).endedOn id epoch = t.endedOn id epoch ++ [told] := by
  cases begun : t.attemptOf? n with
  | none =>
    refine .inl ⟨by rw [idle begun],?_⟩
    intro told closes
    obtain ⟨errand,a,there,-⟩ := closesOwn closes own
    cases begun.symm.trans there
  | some conducted =>
    obtain ⟨errand,a⟩ := conducted
    obtain ⟨told,next,same,closes⟩ := ends errand a begun
    rw [same,endedOnClose]
    cases on : a.isOn id epoch with
    | true => exact .inr ⟨told,closes on,rfl⟩
    | false =>
      refine .inl ⟨List.append_nil _,?_⟩
      intro told closes
      obtain ⟨errand,b,there,mine⟩ := closesOwn closes own
      cases begun.symm.trans there
      rw [on] at mine
      cases mine

theorem endedStep (t : Traffic ω τ) (now : Instant) (e : Event) (id : String) (epoch : Nat) :
    (t.step now e).endedOn id epoch = t.endedOn id epoch ∧ (∀ told, ¬ t.Closes now id epoch e told) ∨
      ∃ told, t.Closes now id epoch e told ∧
        (t.step now e).endedOn id epoch = t.endedOn id epoch ++ [told] := by
  cases e with
  | proceed n =>
    refine .inl ⟨?_,fun _ closes => by cases closes⟩
    simp only [step]
    split
    · split <;> rfl
    · rfl
  | settle n outcome =>
    refine endedClosing (n := n) (beq_iff_eq.mpr rfl) id epoch ?_ ?_
    · intro idle
      simp only [step,idle]
    · intro errand a begun
      exact ⟨_,Caller.settle t.keeper now errand a outcome,by simp only [step,begun],
        .settled (attemptThere begun)⟩
  | abandon n =>
    refine endedClosing (n := n) (beq_iff_eq.mpr rfl) id epoch ?_ ?_
    · intro idle
      simp only [step,idle]
    · intro errand a begun
      exact ⟨_,Caller.abandon t.keeper a,by simp only [step,begun],.broken (attemptThere begun)⟩
  | notify =>
    refine .inl ⟨?_,fun _ closes => by cases closes⟩
    simp only [step]
    split <;> rfl
  | _ => exact .inl ⟨rfl,fun _ closes => by cases closes⟩

theorem lastEnded (id : String) (epoch : Nat) (t : Traffic ω τ) (xs : List Turn) :
    (t.play xs).endedOn id epoch = t.endedOn id epoch ∧ Unended id epoch t xs ∨
      ∃ between x after told, xs = between ++ x :: after ∧
        ((t.play between).under x).Closes x.now id epoch x.event told ∧
        Unended id epoch (t.play (between ++ [x])) after ∧
        ((t.play xs).endedOn id epoch).getLast? = some told := by
  induction xs generalizing t with
  | nil => exact .inl ⟨rfl,.still⟩
  | cons y ys ih =>
    -- the first turn matters only if no exchange of the slot ends with a later one
    rcases ih (t.turn y) with ⟨same,rest⟩ | ⟨between,x,after,told,rfl,closes,rest,last⟩
    · rcases (t.under y).endedStep y.now y.event id epoch with ⟨still,none⟩ | ⟨told,closes,more⟩
      · exact .inl ⟨same.trans still,.goes none rest⟩
      · refine .inr ⟨[],y,ys,told,rfl,closes,rest,?_⟩
        rw [play,same,turn,more,List.getLast?_concat]
    · exact .inr ⟨y :: between,x,after,told,rfl,closes,rest,last⟩

theorem thereBefore {id : String} {slot : Slot} {xs : List Turn}
    (found : (t.play xs).keeper.roster.slot? id = some slot)
    (early : slot.epoch < t.keeper.roster.nextEpoch) :
    ∃ old, t.keeper.roster.slot? id = some old ∧ old.epoch = slot.epoch := by
  induction xs generalizing t with
  | nil => exact ⟨slot,found,rfl⟩
  | cons x xs ih =>
    have aged := Keeper.ages ((t.under x).moves x.now x.event)
    obtain ⟨next,there,epoch⟩ := ih found (Nat.lt_of_lt_of_le early aged.grown)
    -- no epoch is given out twice, so the turn cannot have made the slot
    rcases aged.slots id next there with ⟨old,was,follows⟩ | new
    · exact ⟨old,was,follows.1.symm.trans epoch⟩
    · exact absurd (Nat.lt_of_le_of_lt new (epoch ▸ early)) (Nat.lt_irrefl _)

theorem epochsGrow (t : Traffic ω τ) (xs : List Turn) :
    t.keeper.roster.nextEpoch ≤ (t.play xs).keeper.roster.nextEpoch := by
  induction xs generalizing t with
  | nil => exact Nat.le_refl _
  | cons x xs ih => exact Nat.le_trans (Keeper.ages ((t.under x).moves x.now x.event)).grown (ih (t.turn x))

theorem closesConcludes {now : Instant} {id : String} {epoch : Nat} {e : Event}
    {told : Option (Except Fault Unit)} {slot : Slot} (closes : t.Closes now id epoch e told)
    (found : t.keeper.roster.slot? id = some slot) (mine : slot.epoch = epoch) :
    t.Concludes now id epoch e told := by
  cases closes with
  | @settled n outcome errand a there on =>
    obtain ⟨rfl,conducts⟩ := conductsOn there on found mine
    have settled := t.keeper.settles now a outcome
    generalize t.keeper.settle now a outcome = result at settled ⊢
    cases settled with
    | gone absent => cases absent.symm.trans conducts.found
    | refused other => exact .refused conducts
    | kept present other =>
      cases conducts.found.symm.trans present
      exact .kept conducts other
    | saved present same save =>
      cases conducts.found.symm.trans present
      exact .committed conducts same save
    | unsaved present same save =>
      cases conducts.found.symm.trans present
      exact .unsaved conducts same save
  | broken there on => exact .broken (conductsOn there on found mine).2

theorem Waits.upTo {between late : List Turn} {last : Turn}
    (waits : Waits n errand within ticket t (between ++ last :: late)) :
    (t.play between).Attends n errand within ticket := by
  induction between generalizing t with
  | nil => cases waits; assumption
  | cons x xs ih =>
    cases waits with
    | goes attends own rest => exact ih rest

/-- In the run caller `n` came at the turn `wait`, and has only waited since then. The last exchange
of its slot to end is another caller's and ended later, at the turn `last`. -/
structure Shares (k : Keeper ω τ) (xs : List Turn) (n : Nat) (errand : Errand) (within : Option Span)
    (ticket : Ticket) (before between after : List Turn) (wait last : Turn)
    (told : Option (Except Fault Unit)) : Prop where
  split : xs = before ++ wait :: between ++ last :: after
  came : ((start k).play before).FirstWaits wait n errand within ticket
  waits : Waits n errand within ticket ((start k).play (before ++ [wait])) (between ++ last :: after)
  another : last.event.isOf n = false
  ended : (((start k).play (before ++ wait :: between)).under last).Concludes last.now errand.id
    ticket.epoch last.event told
  newest : Unended errand.id ticket.epoch ((start k).play (before ++ wait :: between ++ [last])) after

theorem closesAnother {now : Instant} {id : String} {epoch : Nat} {e : Event}
    {told : Option (Except Fault Unit)} (closes : t.Closes now id epoch e told)
    (attends : t.Attends n errand within ticket) : e.isOf n = false := by
  obtain ⟨caller,there,waits⟩ := attends
  cases own : e.isOf n with
  | false => rfl
  | true =>
    obtain ⟨other,a,begun,-⟩ := closesOwn closes own
    cases there.symm.trans (attemptThere begun)
    cases waits

theorem firstWaitsEnded {x : Turn} (first : t.FirstWaits x n errand within ticket) (id : String)
    (epoch : Nat) : (t.turn x).endedOn id epoch = t.endedOn id epoch := by
  rcases (t.under x).endedStep x.now x.event id epoch with ⟨same,-⟩ | ⟨told,closes,-⟩
  · exact same
  · rw [first.event] at closes
    cases closes

theorem playBehind (t : Traffic ω τ) (before : List Turn) (x : Turn) (since : List Turn) :
    t.play (before ++ x :: since) = (t.play (before ++ [x])).play since := by
  rw [playNext,playAppend]
  rfl

theorem joinedShares (k : Keeper ω τ) {xs : List Turn} {x : Turn} {result : Except Fault Unit}
    (joins : ((start k).play xs).Joins x n errand within ticket result) :
    ∃ before between after wait last told,
      Shares k xs n errand within ticket before between after wait last told ∧
        result = if succeeded told then .ok () else .error (.sharedRefreshFailed errand.id) := by
  obtain ⟨-,opens,slot,found,shared⟩ := joins
  rcases waitsSince (t := start k) ⟨_,opens,.woken⟩ with waits | ⟨before,wait,since,rfl,came,waits⟩
  · -- nobody waits at the start
    have none : (start k).Attends n errand within ticket := by cases waits <;> assumption
    obtain ⟨caller,there,-⟩ := none
    cases there
  obtain ⟨old,was,flight,rfl⟩ := came.flight
  have first := (flightsPlay k before).slots errand.id old was
  have tallied := (flightsPlay k (before ++ wait :: since)).slots errand.id slot found
  simp only [Keeper.joinedResult?,Option.ite_none_right_eq_some,Option.some.injEq] at shared
  obtain ⟨⟨epoch,more,-⟩,rfl⟩ := shared
  have then' : ((start k).play (before ++ [wait])).endedOn errand.id old.epoch =
      ((start k).play before).endedOn errand.id old.epoch := by
    rw [playNext]
    exact firstWaitsEnded came _ _
  rcases lastEnded errand.id old.epoch ((start k).play (before ++ [wait])) since with
    ⟨same,-⟩ | ⟨between,last,after,told,rfl,closes,rest,newest⟩
  · -- the ticket counts the exchanges that had ended, and the slot counts more of them by now
    refine absurd ?_ more
    have count := congrArg List.length (same.trans then')
    rw [← playBehind,first.ended] at count
    rw [← tallied.ended,epoch]
    exact count
  · have upTo := playBehind (start k) before wait between
    have early : slot.epoch < ((start k).play (before ++ wait :: between)).keeper.roster.nextEpoch := by
      rw [epoch,playAppend]
      exact Nat.lt_of_lt_of_le first.early (epochsGrow _ _)
    have found' : (((start k).play (before ++ wait :: between)).play (last :: after)).keeper.roster.slot? errand.id =
        some slot := by
      rw [← playAppend,List.append_assoc]
      exact found
    obtain ⟨present,there,mine⟩ := thereBefore found' early
    rw [← upTo] at closes
    have ended := closesConcludes closes there (mine.trans epoch)
    refine ⟨before,between,after,wait,last,told,⟨?_,came,waits,?_,ended,?_⟩,?_⟩
    · rw [List.append_assoc]
      rfl
    · rw [upTo] at closes
      exact closesAnother closes (underAttends last waits.upTo)
    · rw [playAppend,upTo,← playAppend]
      exact rest
    · rw [tallied.last,epoch,playBehind,newest]
      rfl

/-- Whoever is told how another's exchange ended came while an exchange of the slot was under way,
and has since done nothing but wait. At least one exchange of the slot, another caller's, has ended
in the meantime, and it is told how the last of them did. The slot is there still. -/
theorem joinedTold (k : Keeper ω τ) {xs : List Turn} {x : Turn} {result : Except Fault Unit}
    (joins : ((start k).play xs).Joins x n errand within ticket result) :
    let t := (start k).play xs
    (∃ before between after wait last told,
      Shares k xs n errand within ticket before between after wait last told ∧
        result = if succeeded told then .ok () else .error (.sharedRefreshFailed errand.id)) ∧
      (∃ slot, t.keeper.roster.slot? errand.id = some slot ∧ slot.epoch = ticket.epoch) ∧
      (t.turn x).callers[n]? = some (.after errand result) ∧ t.Idles x := by
  intro t
  refine ⟨joinedShares k joins,?_,joins.turns⟩
  obtain ⟨-,-,slot,found,shared⟩ := joins
  simp only [Keeper.joinedResult?,Option.ite_none_right_eq_some] at shared
  exact ⟨slot,found,shared.1.1⟩

theorem joinedRejected :
    let xs := Sample.turns (Sample.arrival ++ [.refresh "a",.proceed 0,.refresh "a",.proceed 1,
      .settle 0 (.error .noRefreshToken),.notify])
    let result : Except Fault Unit := .error (.sharedRefreshFailed "a")
    let t := (start Sample.keeper).play xs
    t.Joins (Sample.turn (.proceed 1)) 1 (.refresh "a") none ⟨0,0⟩ result ∧
      (t.turn (Sample.turn (.proceed 1))).callers[1]? = some (.after (.refresh "a") result) := by
  intro xs result t
  have joins : t.Joins (Sample.turn (.proceed 1)) 1 (.refresh "a") none ⟨0,0⟩ result :=
    ⟨rfl,rfl,_,rfl,rfl⟩
  exact ⟨joins,(joinedTold Sample.keeper joins).2.2.1⟩

theorem refusedTold {m epoch : Nat} {now : Instant} {a : Attempt τ} {slot : Slot} {id : String}
    {fault : Exchange.Fault} (conducts : t.Conducts m a slot id epoch) :
    ∃ errand, (t.step now (.settle m (.error fault))).callers[m]? =
      some (.after errand (.error (.exchange fault))) := by
  obtain ⟨⟨errand,there⟩,-,found⟩ := conducts
  have begun : t.attemptOf? m = some (errand,a) := by rw [attemptOf?,there]
  have told : (t.keeper.settle now a (.error fault)).1 = .error (.exchange fault) := by
    have settled := t.keeper.settles now a (.error fault)
    generalize t.keeper.settle now a (.error fault) = result at settled ⊢
    cases settled with
    | gone absent => cases absent.symm.trans found
    | refused => rfl
  refine ⟨errand,?_⟩
  simp only [step,begun,close,Caller.settle,told]
  exact List.getElem?_set_self (List.getElem?_eq_some_iff.mp there).1

/-- Whoever is told that another's exchange failed cannot tell whether a later try could succeed. The
caller whose exchange it was can, if it was refused: the verdicts agree on refusals that are not
final, and on no others. -/
theorem joinedVerdict (k : Keeper ω τ) {xs : List Turn} {x : Turn} {fault : Fault}
    (joins : ((start k).play xs).Joins x n errand within ticket (.error fault)) :
    fault.isFinal = false ∧ ∃ before between after wait last told,
      Shares k xs n errand within ticket before between after wait last told ∧
        succeeded told = false ∧ ∀ m refusal, last.event = .settle m (.error refusal) →
          (∃ other, ((start k).play (before ++ wait :: between ++ [last])).callers[m]? =
            some (.after other (.error (.exchange refusal)))) ∧
          (fault.isFinal = (Fault.exchange refusal).isFinal ↔ refusal.isFinal = false) := by
  obtain ⟨before,between,after,wait,last,told,shares,same⟩ := joinedShares k joins
  cases success : succeeded told with
  | true => simp [success] at same
  | false =>
    obtain rfl : fault = .sharedRefreshFailed errand.id := by simpa [success] using same
    refine ⟨rfl,before,between,after,wait,last,told,shares,success,?_⟩
    intro m refusal event
    refine ⟨?_,eq_comm⟩
    have ended := shares.ended
    rw [event] at ended
    cases ended with
    | refused conducts =>
      rw [playNext,turn,event]
      exact refusedTold conducts

theorem joinedVerdictPassing :
    let refusal : Exchange.Fault := .failed ⟨503⟩ "try later"
    let xs := Sample.turns (Sample.arrival ++ [.refresh "a",.proceed 0,.refresh "a",.proceed 1,
      .settle 0 (.error refusal),.notify])
    let t := (start Sample.keeper).play xs
    t.Joins (Sample.turn (.proceed 1)) 1 (.refresh "a") none ⟨0,0⟩ (.error (.sharedRefreshFailed "a")) ∧
      (Fault.sharedRefreshFailed "a").isFinal = (Fault.exchange refusal).isFinal := by
  intro refusal xs t
  have joins : t.Joins (Sample.turn (.proceed 1)) 1 (.refresh "a") none ⟨0,0⟩
      (.error (.sharedRefreshFailed "a")) := ⟨rfl,rfl,_,rfl,rfl⟩
  exact ⟨joins,(joinedVerdict Sample.keeper joins).1.trans (by decide)⟩

/-- The refresh token was rejected for good. Caller 0 is told so, and caller 1 may try again. -/
theorem rejectionSharedPassing :
    let refusal : Exchange.Fault := .refused ⟨400⟩ "invalid_grant" "expired"
    let t := (start Sample.keeper).play (Sample.turns (Sample.arrival ++ [.refresh "a",.proceed 0,
      .refresh "a",.proceed 1,.settle 0 (.error refusal),.notify,.proceed 1]))
    t.callers = [.finished (.refreshed (.error (.exchange refusal))),
      .finished (.refreshed (.error (.sharedRefreshFailed "a")))] ∧
    (Fault.exchange refusal).isFinal = true ∧ (Fault.sharedRefreshFailed "a").isFinal = false :=
  ⟨rfl,by decide,rfl⟩

end Traffic

end GrantKeeper
