import GrantKeeper.Proofs.Traffic.Flights
import GrantKeeper.Proofs.Vault.Unsteady

/-! Refreshes that come to nothing. Whatever the reason, no step of theirs touches a
grant, an enrollment or a record: all they leave are marks of the slot that their own
exchange was for. Of the vault nothing is asked but that a failed save changes no record. -/
namespace GrantKeeper
open Time (Instant Span)
variable {ω τ : Type}

def Event.isOf (n : Nat) : Event → Bool
  | .proceed m | .settle m _ | .abandon m | .stir m => m == n
  | _ => false

def Caller.closes? (k : Keeper ω τ) (now : Instant) : Caller τ → Option (Except Fault Unit)
  | .opening errand within ticket =>
    match (k.openRefresh now errand.id within ticket).1 with
    | .closed result => some result
    | _ => none
  | _ => none

namespace Traffic

def At (t : Traffic ω τ) (n : Nat) (id : String) (epoch : Nat) : Prop :=
  ∃ caller, t.callers[n]? = some caller ∧ caller.isOn id epoch = true

def ends? [Vault ω] (t : Traffic ω τ) (now : Instant) (n : Nat) :
    Event → Option (Option (Except Fault Unit))
  | .proceed m => if m = n then (t.callers[n]?.bind (·.closes? t.keeper now)).map some else none
  | .settle m outcome =>
    if m = n then (t.attemptOf? n).map fun begun => some (t.keeper.settle now begun.2 outcome).1
    else none
  | .abandon m => if m = n then (t.attemptOf? n).map fun _ => none else none
  | _ => none

inductive Fails [Vault ω] (n : Nat) : Traffic ω τ → List Turn → Prop
  | ends {t x} (failed : ((t.under x).ends? x.now n x.event).map succeeded = some false) : Fails n t [x]
  | goes {t x xs} (unended : (t.under x).ends? x.now n x.event = none) (rest : Fails n (t.turn x) xs) :
      Fails n t (x :: xs)

structure Spares {α : Type} (record : ω → String → α) (n : Nat) (t u : Traffic ω τ) : Prop where
  records : ∀ id, record u.keeper.vault id = record t.keeper.vault id
  counter : u.keeper.roster.nextEpoch = t.keeper.roster.nextEpoch
  slots : ∀ id, u.keeper.roster.slot? id = t.keeper.roster.slot? id ∨
    ∃ old new, t.keeper.roster.slot? id = some old ∧ u.keeper.roster.slot? id = some new ∧
      new.account = old.account ∧ new.epoch = old.epoch ∧
      (t.At n id old.epoch ∨ u.At n id old.epoch)

variable {α : Type} {record : ω → String → α} {n : Nat} {t u : Traffic ω τ}

theorem sparesKept (roster : u.keeper.roster = t.keeper.roster) (vault : u.keeper.vault = t.keeper.vault) :
    t.Spares record n u where
  records id := by rw [vault]
  counter := by rw [roster]
  slots id := .inl (by rw [roster])

theorem sparesPut {id : String} {old new : Slot} (found : t.keeper.roster.slot? id = some old)
    (roster : u.keeper.roster = t.keeper.roster.put id new) (account : new.account = old.account)
    (epoch : new.epoch = old.epoch) (own : t.At n id old.epoch ∨ u.At n id old.epoch)
    (records : ∀ other, record u.keeper.vault other = record t.keeper.vault other) :
    t.Spares record n u where
  records := records
  counter := by rw [roster]; rfl
  slots other := by
    rw [roster,Roster.slotPut]
    by_cases same : id = other
    · subst same
      exact .inr ⟨old,new,found,if_pos rfl,account,epoch,own⟩
    · exact .inl (if_neg same)

theorem atOfAttempt {errand : Errand} {a : Attempt τ} (there : t.callers[n]? = some (.exchanging errand a)) :
    t.At n a.id a.epoch :=
  ⟨_,there,by simp [Caller.isOn,Caller.attempt?,Attempt.isOn]⟩

theorem atUnder (t : Traffic ω τ) (x : Turn) (n : Nat) (id : String) (epoch : Nat) :
    (t.under x).At n id epoch ↔ t.At n id epoch := by
  unfold At under
  simp only [List.getElem?_map,Option.map_eq_some_iff]
  refine ⟨?_,?_⟩
  · rintro ⟨-,⟨caller,there,rfl⟩,on⟩
    rw [Caller.isOnReread] at on
    exact ⟨caller,there,on⟩
  · rintro ⟨caller,there,on⟩
    refine ⟨_,⟨caller,there,rfl⟩,?_⟩
    rw [Caller.isOnReread]
    exact on

theorem freeSet {next : Caller τ} (callers : u.callers = t.callers.set n next)
    (free : next.attempt? = none) (id : String) (epoch : Nat) : ¬ u.At n id epoch := by
  rintro ⟨caller,there,on⟩
  rw [callers,List.getElem?_set_self'] at there
  obtain ⟨old,-,same⟩ := Option.map_eq_some_iff.mp there
  change next = caller at same
  rw [← same,Caller.isOnFree free] at on
  cases on

theorem sparesAdvance {caller : Caller τ} (there : t.callers[n]? = some caller) (now : Instant) :
    t.Spares record n (t.advance n (caller.step t.keeper now)) := by
  cases caller with
  | opening errand within ticket =>
    simp only [Caller.step]
    have opened := t.keeper.opens now errand.id within ticket
    generalize t.keeper.openRefresh now errand.id within ticket = result at opened ⊢
    cases opened with
    | begins found =>
      have bound := (List.getElem?_eq_some_iff.mp there).1
      refine sparesPut found rfl rfl rfl (.inr ⟨_,List.getElem?_set_self bound,?_⟩) fun _ => rfl
      simp [Caller.isOn,Caller.attempt?,Attempt.isOn]
    | _ => exact sparesKept rfl rfl
  | _ => exact sparesKept rfl rfl

theorem sparesAbandon {errand : Errand} {a : Attempt τ} (there : t.callers[n]? = some (.exchanging errand a)) :
    t.Spares record n (t.close n a none (Caller.abandon t.keeper a)) := by
  simp only [close,Caller.abandon]
  have ended := t.keeper.abandons a
  generalize t.keeper.abandon a = next at ended ⊢
  cases ended with
  | gone absent => exact sparesKept rfl rfl
  | broken found =>
    obtain ⟨present,epoch⟩ := Keeper.slotOfFound found
    exact sparesPut present rfl rfl rfl (.inl (epoch ▸ atOfAttempt there)) fun _ => rfl

variable [Vault ω]

theorem freeEnded {now : Instant} {e : Event} {told : Option (Except Fault Unit)}
    (ended : t.ends? now n e = some told) (id : String) (epoch : Nat) :
    ¬ (t.step now e).At n id epoch := by
  cases e with
  | proceed m =>
    simp only [ends?] at ended
    split at ended
    · rename_i same
      subst same
      obtain ⟨result,closed,-⟩ := Option.map_eq_some_iff.mp ended
      obtain ⟨caller,there,closes⟩ := Option.bind_eq_some_iff.mp closed
      cases caller with
      | opening errand within ticket =>
        simp only [Caller.closes?] at closes
        simp only [step,there,Caller.rests,Bool.false_eq_true,if_false,Caller.step]
        generalize t.keeper.openRefresh now errand.id within ticket = opened at closes ⊢
        obtain ⟨opening,next⟩ := opened
        cases opening with
        | closed result => exact freeSet rfl (Caller.attemptAfter ..) id epoch
        | waiting ticket => cases closes
        | exchanging attempt => cases closes
      | _ => cases closes
    · cases ended
  | settle m outcome =>
    simp only [ends?] at ended
    split at ended
    · rename_i same
      subst same
      obtain ⟨begun,there,-⟩ := Option.map_eq_some_iff.mp ended
      simp only [step,there]
      exact freeSet rfl (Caller.attemptAfter ..) id epoch
    · cases ended
  | abandon m =>
    simp only [ends?] at ended
    split at ended
    · rename_i same
      subst same
      obtain ⟨begun,there,-⟩ := Option.map_eq_some_iff.mp ended
      simp only [step,there]
      exact freeSet rfl rfl id epoch
    · cases ended
  | _ => cases ended

section
variable (unsaved : ∀ (v v' : ω) (id : String) (g : Grant) (fault : Fault),
  Vault.save v id g = (.error fault,v') → ∀ other, record v' other = record v other)
include unsaved

theorem sparesSettle {now : Instant} {errand : Errand} {a : Attempt τ}
    {outcome : Except Exchange.Fault Reply} (there : t.callers[n]? = some (.exchanging errand a))
    (failed : succeeded (some (t.keeper.settle now a outcome).1) = false) :
    t.Spares record n (t.close n a (some (t.keeper.settle now a outcome).1)
      (Caller.settle t.keeper now errand a outcome)) := by
  simp only [close,Caller.settle]
  have settled := t.keeper.settles now a outcome
  generalize t.keeper.settle now a outcome = result at settled failed ⊢
  cases settled with
  | gone absent => exact sparesKept rfl rfl
  | refused found =>
    obtain ⟨present,epoch⟩ := Keeper.slotOfFound found
    exact sparesPut present rfl rfl rfl (.inl (epoch ▸ atOfAttempt there)) fun _ => rfl
  | kept found other => cases failed
  | saved found same save => cases failed
  | unsaved found same save =>
    obtain ⟨present,epoch⟩ := Keeper.slotOfFound found
    exact sparesPut present rfl rfl rfl (.inl (epoch ▸ atOfAttempt there)) (unsaved _ _ _ _ _ save)

theorem sparesStep {now : Instant} {e : Event} (own : e.isOf n = true)
    (failed : ∀ told, t.ends? now n e = some told → succeeded told = false) :
    t.Spares record n (t.step now e) := by
  have stepped := t.steps now e
  generalize t.step now e = u at stepped ⊢
  cases stepped with
  | rests => exact sparesKept rfl rfl
  | advances there moving =>
    cases beq_iff_eq.mp own
    exact sparesAdvance there now
  | settles there =>
    cases beq_iff_eq.mp own
    refine sparesSettle unsaved there (failed _ ?_)
    rw [ends?,if_pos rfl,attemptOf?,there]
    rfl
  | abandons there =>
    cases beq_iff_eq.mp own
    exact sparesAbandon there
  | stirs m => exact sparesKept rfl rfl
  | _ => cases own

theorem sparesTurn {x : Turn} (own : x.event.isOf n = true)
    (failed : ∀ told, (t.under x).ends? x.now n x.event = some told → succeeded told = false) :
    t.Spares record n (t.turn x) := by
  have spares := sparesStep unsaved own failed
  refine ⟨spares.records,spares.counter,?_⟩
  intro id
  rcases spares.slots id with same | ⟨old,new,was,is,account,epoch,mine⟩
  · exact .inl same
  · rw [atUnder] at mine
    exact .inr ⟨old,new,was,is,account,epoch,mine⟩

theorem sparesFails {xs : List Turn} (fails : Fails n t xs) {early late : List Turn} {x : Turn}
    (split : xs = early ++ x :: late) (own : x.event.isOf n = true) :
    (t.play early).Spares record n (t.play (early ++ [x])) := by
  rw [playNext]
  induction fails generalizing early with
  | @ends t y failed =>
    obtain ⟨told,ended,failed⟩ := Option.map_eq_some_iff.mp failed
    obtain ⟨rfl,rfl,rfl⟩ : early = [] ∧ y = x ∧ late = [] := by
      cases early with
      | nil => simpa using split
      | cons z zs => simp at split
    refine sparesTurn unsaved own ?_
    intro other told
    cases ended.symm.trans told
    exact failed
  | @goes t y ys unended rest ih =>
    cases early with
    | nil =>
      cases split
      refine sparesTurn unsaved own ?_
      intro other told
      cases unended.symm.trans told
    | cons z zs =>
      cases split
      exact ih rfl

end

theorem freeFailed {xs : List Turn} (fails : Fails n t xs) (id : String) (epoch : Nat) :
    ¬ (t.play xs).At n id epoch := by
  induction fails with
  | ends failed =>
    obtain ⟨told,ended,-⟩ := Option.map_eq_some_iff.mp failed
    exact freeEnded ended id epoch
  | goes unended rest ih => exact ih

/-- A refresh that fails takes no step that changes a grant, an enrollment or a record, and changes
no more of the roster than the marks of the slot that its own exchange was for. Once it has failed,
a slot that is marked as in flight is so for another caller's exchange. -/
theorem failuresSpare (unsaved : ∀ (v v' : ω) (id : String) (g : Grant) (fault : Fault),
      Vault.save v id g = (.error fault,v') → ∀ other, record v' other = record v other)
    (k : Keeper ω τ) (before after : List Turn) (fails : Fails n ((start k).play before) after) :
    let t := (start k).play before
    (∀ early x late, after = early ++ x :: late → x.event.isOf n = true →
      (t.play early).Spares record n (t.play (early ++ [x]))) ∧
    ∀ id slot, (t.play after).keeper.roster.slot? id = some slot → slot.inFlight = true →
      ∃ m, m ≠ n ∧ (t.play after).At m id slot.epoch := by
  intro t
  refine ⟨?_,?_⟩
  · intro early x late split own
    exact sparesFails unsaved fails split own
  · intro id slot found flight
    have flights : (t.play after).Flights := playKeeps flightsTurn after (flightsPlay k before)
    have one := (flights.slots id slot found).flight
    rw [flight] at one
    obtain ⟨caller,member,on⟩ := List.countP_pos_iff.mp (Nat.lt_of_lt_of_eq Nat.zero_lt_one one.symm)
    obtain ⟨m,there⟩ := List.mem_iff_getElem?.mp member
    refine ⟨m,?_,caller,there,on⟩
    rintro rfl
    exact freeFailed fails id slot.epoch ⟨caller,there,on⟩

theorem unsavedSpares :
    let k : Keeper (Vault.Unsteady Vault.Memory) Unit :=
      .new ⟨.empty,[none,none,some (.disk .other)]⟩ Sample.keeper.strategies
    let t := (start k).play (Sample.turns (Sample.arrival ++ [.refresh "a"]))
    let begins := Sample.turn (.proceed 0)
    let settles := Sample.turn (.settle 0 (.ok Sample.reply))
    Fails 0 t [begins,settles] ∧
      (t.play [begins]).Spares Vault.Lawful.record? 0 (t.play [begins,settles]) ∧
      (t.play [begins]).keeper.roster.slot? "a" ≠ (t.play [begins,settles]).keeper.roster.slot? "a" := by
  intro k t begins settles
  have fails : Fails 0 t [begins,settles] := .goes (by decide) (.ends (by decide))
  have spared := failuresSpare (fun _ _ _ _ _ save => Vault.Lawful.unsaved save) k _ _ fails
  exact ⟨fails,spared.1 [begins] settles [] rfl rfl,by decide⟩

end Traffic

end GrantKeeper
