import GrantKeeper.Proofs.Settings.Taking
import GrantKeeper.Proofs.Traffic.Renewal

/-! The roster as a map from ids to enrollments. Whatever callers do in between, it has for each id
what was enrolled last, unless the account was deleted since; its slot is the same all the while. -/
namespace GrantKeeper
open Time (Instant Span)
variable {ω τ : Type}

def Slot.badge (slot : Slot) : Nat × Enrollment := (slot.epoch,slot.account.enrollment)

def Event.entry? (id : String) : Event → Option (Option Enrollment)
  | .register e => if e.id = id ∧ Enrollment.isUsableId e.id = true then some (some e) else none
  | .delete other => if other = id then some none else none
  | _ => none

def latest? (id : String) (xs : List Turn) : Option Enrollment :=
  (xs.filterMap (·.event.entry? id)).getLast?.join

namespace Keeper

def badge? (k : Keeper ω τ) (id : String) : Option (Nat × Enrollment) :=
  (k.roster.slot? id).map Slot.badge

inductive Enlists (k : Keeper ω τ) : Event → Keeper ω τ → Prop
  | stays {e next} (silent : ∀ id, e.entry? id = none) (badges : ∀ id, next.badge? id = k.badge? id)
      (counter : next.roster.nextEpoch = k.roster.nextEpoch) : Enlists k e next
  | renews {e epoch old next} (usable : Enrollment.isUsableId e.id = true)
      (known : k.badge? e.id = some (epoch,old))
      (badges : ∀ id, next.badge? id = if e.id = id then some (epoch,e) else k.badge? id)
      (counter : next.roster.nextEpoch = k.roster.nextEpoch) : Enlists k (.register e) next
  | enters {e next} (usable : Enrollment.isUsableId e.id = true) (new : k.badge? e.id = none)
      (badges : ∀ id, next.badge? id =
        if e.id = id then some (k.roster.nextEpoch,e) else k.badge? id)
      (counter : next.roster.nextEpoch = k.roster.nextEpoch + 1) : Enlists k (.register e) next
  | leaves {other next} (badges : ∀ id, next.badge? id = if other = id then none else k.badge? id)
      (counter : next.roster.nextEpoch = k.roster.nextEpoch) : Enlists k (.delete other) next

section
variable (k : Keeper ω τ) (now : Instant)

theorem enlistsNothing {e : Event} (silent : ∀ id, e.entry? id = none) : k.Enlists e k :=
  .stays silent (fun _ => rfl) rfl

theorem enlistsPut {k : Keeper ω τ} {e : Event} (silent : ∀ id, e.entry? id = none) {id : String}
    {slot new : Slot} (found : k.roster.slot? id = some slot) (same : new.badge = slot.badge) (vault : ω) :
    k.Enlists e { k with vault, roster := k.roster.put id new } :=
  .stays silent (Roster.mapPut found Slot.badge same) rfl

theorem enlistsOpen (n : Nat) (id : String) (within : Option Span) (ticket : Option Ticket) :
    k.Enlists (.proceed n) (k.openRefresh now id within ticket).2 := by
  have opened := k.opens now id within ticket
  generalize k.openRefresh now id within ticket = result at opened ⊢
  cases opened with
  | begins found => exact enlistsPut (fun _ => rfl) found (by rfl) _
  | _ => exact k.enlistsNothing fun _ => rfl

theorem enlistsAbandon (n : Nat) (a : Attempt τ) : k.Enlists (.abandon n) (k.abandon a) := by
  have ended := k.abandons a
  generalize k.abandon a = next at ended ⊢
  cases ended with
  | gone absent => exact k.enlistsNothing fun _ => rfl
  | broken found => exact enlistsPut (fun _ => rfl) (slotOfFound found).1 (by rfl) _

variable [Vault ω]

theorem enlistsSettle (n : Nat) (outcome : Except Exchange.Fault Reply) (a : Attempt τ) :
    k.Enlists (.settle n outcome) (k.settle now a outcome).2 := by
  have settled := k.settles now a outcome
  generalize k.settle now a outcome = result at settled ⊢
  cases settled with
  | gone absent => exact k.enlistsNothing fun _ => rfl
  | refused found => exact enlistsPut (fun _ => rfl) (slotOfFound found).1 (by rfl) _
  | kept found other => exact enlistsPut (fun _ => rfl) (slotOfFound found).1 (by rfl) _
  | saved found same save => exact enlistsPut (fun _ => rfl) (slotOfFound found).1 (by rfl) _
  | unsaved found same save => exact enlistsPut (fun _ => rfl) (slotOfFound found).1 (by rfl) _

theorem enlistsStore (id access refresh : String) (lifetime : Int) :
    k.Enlists (.storeTokens id access refresh lifetime)
      (k.storeTokens now id access refresh lifetime).2 := by
  have stored := k.stores now id access refresh lifetime
  generalize k.storeTokens now id access refresh lifetime = result at stored ⊢
  cases stored with
  | unknown absent => exact k.enlistsNothing fun _ => rfl
  | saved found save => exact enlistsPut (fun _ => rfl) found (by rfl) _
  | unsaved found save => exact .stays (fun _ => rfl) (fun _ => rfl) rfl

theorem enlistsDelete (id : String) : k.Enlists (.delete id) (k.delete id).2 := by
  refine .leaves ?_ rfl
  intro other
  rw [badge?,deleteSlot]
  split <;> rfl

theorem enlistsRegister (e : Enrollment) : k.Enlists (.register e) (k.register e).2 := by
  have registered := k.registers e
  generalize k.register e = result at registered ⊢
  cases registered with
  | refused unusable => exact k.enlistsNothing fun id => if_neg (by simp [unusable])
  | @enrolled loaded vault usable load =>
    cases known : k.roster.slot? e.id with
    | some slot =>
      refine .renews usable (by rw [badge?,known]; rfl) ?_ (by simp only [Roster.enroll,known]; rfl)
      intro id
      rw [badge?,Roster.slotEnrollKnown known]
      split <;> rfl
    | none =>
      refine .enters usable (by rw [badge?,known]; rfl) ?_ (by simp only [Roster.enroll,known])
      intro id
      rw [badge?,Roster.slotEnrollNew known]
      split <;> rfl

theorem registerMarks {e : Enrollment} {slot : Slot} (found : k.roster.slot? e.id = some slot) :
    ∃ next, (k.register e).2.roster.slot? e.id = some next ∧ next.marks = slot.marks := by
  have registered := k.registers e
  generalize k.register e = result at registered ⊢
  cases registered with
  | refused unusable => exact ⟨slot,found,rfl⟩
  | enrolled usable load => exact ⟨_,(Roster.slotEnrollKnown found _ e.id).trans (if_pos rfl),rfl⟩

theorem enlistsMoved {k next : Keeper ω τ} {now : Instant} {e : Event} (moved : Traffic.Moves k now e next)
    (silent : ∀ id, e.entry? id = none) : k.Enlists e next := by
  cases moved with
  | register e => exact k.enlistsRegister e
  | storeTokens id access refresh lifetime => exact k.enlistsStore now id access refresh lifetime
  | delete id => exact k.enlistsDelete id
  | opens n id within ticket => exact k.enlistsOpen now n id within ticket
  | settle n outcome a => exact k.enlistsSettle now n outcome a
  | abandon n a => exact k.enlistsAbandon n a
  | stays e => exact k.enlistsNothing silent

end

structure Numbered (k : Keeper ω τ) : Prop where
  keyed {id epoch e} (found : k.badge? id = some (epoch,e)) : e.id = id
  early {id epoch e} (found : k.badge? id = some (epoch,e)) : epoch < k.roster.nextEpoch
  apart {id other epoch one two} (found : k.badge? id = some (epoch,one))
    (second : k.badge? other = some (epoch,two)) : id = other

variable {k next : Keeper ω τ} {event : Event}

theorem badgeOf {id : String} {slot : Slot} (found : k.roster.slot? id = some slot) :
    k.badge? id = some (slot.epoch,slot.account.enrollment) := by
  rw [badge?,found]
  rfl

theorem enrollmentBadge (k : Keeper ω τ) (id : String) : k.enrollment? id = (k.badge? id).map (·.2) := by
  unfold enrollment? account? badge?
  cases k.roster.slot? id <;> rfl

theorem enlistsEnrollment (enlists : k.Enlists event next) (id : String) :
    next.enrollment? id = (event.entry? id).getD (k.enrollment? id) := by
  rw [enrollmentBadge,enrollmentBadge]
  cases enlists with
  | stays silent badges counter => rw [badges,silent,Option.getD_none]
  | @renews e epoch old next usable known badges counter =>
    rw [badges]
    by_cases here : e.id = id
    · subst here
      simp [Event.entry?,usable]
    · simp [Event.entry?,here]
  | @enters e next usable new badges counter =>
    rw [badges]
    by_cases here : e.id = id
    · subst here
      simp [Event.entry?,usable]
    · simp [Event.entry?,here]
  | @leaves other next badges counter =>
    rw [badges]
    by_cases here : other = id <;> simp [Event.entry?,here]

theorem enlistsEpoch (enlists : k.Enlists event next) {id : String} (there : event.deletes id = false)
    {epoch : Nat} (found : (k.badge? id).map (·.1) = some epoch) : (next.badge? id).map (·.1) = some epoch := by
  cases enlists with
  | stays silent badges counter => rw [badges,found]
  | @renews e same old next usable known badges counter =>
    rw [badges]
    by_cases here : e.id = id
    · subst here
      rw [known] at found
      rw [if_pos rfl]
      exact found
    · rw [if_neg here,found]
  | @enters e next usable new badges counter =>
    rw [badges]
    by_cases here : e.id = id
    · subst here
      rw [new] at found
      cases found
    · rw [if_neg here,found]
  | @leaves other next badges counter =>
    rw [badges,if_neg (by simpa [Event.deletes] using there),found]

theorem Enlists.ofUnder {x : Turn} (enlists : (k.under x).Enlists event next) : k.Enlists event next := by
  cases enlists with
  | stays silent badges counter => exact .stays silent badges counter
  | renews usable known badges counter => exact .renews usable known badges counter
  | enters usable new badges counter => exact .enters usable new badges counter
  | leaves badges counter => exact .leaves badges counter

theorem Enlists.grown (enlists : k.Enlists event next) : k.roster.nextEpoch ≤ next.roster.nextEpoch := by
  cases enlists <;> omega

theorem Enlists.origin (enlists : k.Enlists event next) {id : String} {epoch : Nat} {e : Enrollment}
    (found : next.badge? id = some (epoch,e)) :
    (∃ old, k.badge? id = some (epoch,old) ∧ (e = old ∨ e.id = id)) ∨
      event = .register e ∧ e.id = id ∧ epoch = k.roster.nextEpoch ∧
        k.roster.nextEpoch < next.roster.nextEpoch := by
  cases enlists with
  | stays silent badges counter => exact .inl ⟨e,(badges id).symm.trans found,.inl rfl⟩
  | renews usable known badges counter =>
    rw [badges] at found
    split at found
    · rename_i here
      subst here
      cases found
      exact .inl ⟨_,known,.inr rfl⟩
    · exact .inl ⟨e,found,.inl rfl⟩
  | enters usable new badges counter =>
    rw [badges] at found
    split at found
    · rename_i here
      cases found
      exact .inr ⟨rfl,here,rfl,by omega⟩
    · exact .inl ⟨e,found,.inl rfl⟩
  | leaves badges counter =>
    rw [badges] at found
    split at found
    · cases found
    · exact .inl ⟨e,found,.inl rfl⟩

theorem numberedEnlists (h : k.Numbered) (enlists : k.Enlists event next) : next.Numbered where
  keyed {id epoch e} found := by
    rcases enlists.origin found with ⟨old,was,rfl | own⟩ | ⟨-,own,-⟩
    · exact h.keyed was
    · exact own
    · exact own
  early {id epoch e} found := by
    rcases enlists.origin found with ⟨old,was,-⟩ | ⟨-,-,rfl,more⟩
    · exact Nat.lt_of_lt_of_le (h.early was) enlists.grown
    · exact more
  apart {id other epoch one two} found second := by
    rcases enlists.origin found with ⟨old,was,-⟩ | ⟨rfl,here,rfl,-⟩
    · rcases enlists.origin second with ⟨old',was',-⟩ | ⟨-,-,rfl,-⟩
      · exact h.apart was was'
      · exact absurd (h.early was) (Nat.lt_irrefl _)
    · rcases enlists.origin second with ⟨old,was,-⟩ | ⟨same,there,-⟩
      · exact absurd (h.early was) (Nat.lt_irrefl _)
      · cases same
        exact here.symm.trans there

theorem numberedStart (k : Keeper ω τ) : (Traffic.start k).keeper.Numbered := by
  have nothing : ∀ id, (Traffic.start k).keeper.badge? id = none := by
    intro id
    simp [badge?,Traffic.start]
  refine ⟨?_,?_,?_⟩
  · intro id epoch e found
    cases (nothing id).symm.trans found
  · intro id epoch e found
    cases (nothing id).symm.trans found
  · intro id other epoch one two found second
    cases (nothing id).symm.trans found

end Keeper

namespace Traffic
variable [Vault ω]

theorem enlistsStep (t : Traffic ω τ) (now : Instant) (e : Event) :
    t.keeper.Enlists e (t.step now e).keeper := by
  cases e with
  | register e => exact t.keeper.enlistsRegister e
  | delete id => exact t.keeper.enlistsDelete id
  | _ => exact Keeper.enlistsMoved (t.moves now _) fun id => rfl

theorem enlistsTurn (t : Traffic ω τ) (x : Turn) : t.keeper.Enlists x.event (t.turn x).keeper :=
  ((t.under x).enlistsStep x.now x.event).ofUnder

theorem enrollmentPlay (t : Traffic ω τ) (xs : List Turn) (id : String) :
    (t.play xs).keeper.enrollment? id =
      (xs.filterMap (·.event.entry? id)).getLast?.getD (t.keeper.enrollment? id) := by
  induction xs generalizing t with
  | nil => rfl
  | cons x xs ih =>
    refine (ih (t.turn x)).trans ?_
    rw [Keeper.enlistsEnrollment (t.enlistsTurn x)]
    cases entry : x.event.entry? id with
    | none => simp only [List.filterMap_cons,entry,Option.getD_none]
    | some put => simp only [List.filterMap_cons,entry,List.getLast?_cons,Option.getD_some]

theorem epochPlay {t : Traffic ω τ} {xs : List Turn} {id : String}
    (stays : ∀ x ∈ xs, x.event.deletes id = false) {epoch : Nat}
    (found : (t.keeper.badge? id).map (·.1) = some epoch) :
    ((t.play xs).keeper.badge? id).map (·.1) = some epoch := by
  induction xs generalizing t with
  | nil => exact found
  | cons x xs ih =>
    obtain ⟨there,stays⟩ := List.forall_mem_cons.mp stays
    exact ih stays (Keeper.enlistsEpoch (t.enlistsTurn x) there found)

theorem numberedPlay (k : Keeper ω τ) (xs : List Turn) : ((start k).play xs).keeper.Numbered := by
  have turns : ∀ (t : Traffic ω τ) x, t.keeper.Numbered → (t.turn x).keeper.Numbered :=
    fun t x h => Keeper.numberedEnlists h (t.enlistsTurn x)
  exact playKeeps turns xs k.numberedStart

structure KeepsRoll (t : Traffic ω τ) (xs : List Turn) : Prop where
  ascend : t.keeper.ids.Pairwise (· < ·)
  listed {id} : id ∈ t.keeper.ids ↔ ∃ e, latest? id xs = some e
  enrolled (id) : t.keeper.enrollment? id = latest? id xs
  keyed {id slot} (found : t.keeper.roster.slot? id = some slot) : slot.account.enrollment.id = id
  early {id slot} (found : t.keeper.roster.slot? id = some slot) : slot.epoch < t.keeper.roster.nextEpoch
  apart {id other one two} (found : t.keeper.roster.slot? id = some one)
    (second : t.keeper.roster.slot? other = some two) (same : one.epoch = two.epoch) : id = other
  steady {ys id slot} (stays : ∀ y ∈ ys, y.event.deletes id = false)
    (found : t.keeper.roster.slot? id = some slot) :
    ∃ later, (t.play ys).keeper.roster.slot? id = some later ∧ later.epoch = slot.epoch
  again {e slot} (found : t.keeper.roster.slot? e.id = some slot) :
    ∃ next, (t.keeper.register e).2.roster.slot? e.id = some next ∧ next.marks = slot.marks
  accepts (e) : (t.keeper.register e).1 = Enrollment.isUsableId e.id

theorem latestPlay (k : Keeper ω τ) (xs : List Turn) (id : String) :
    ((start k).play xs).keeper.enrollment? id = latest? id xs := by
  have nothing : (start k).keeper.enrollment? id = none := by
    simp [Keeper.enrollment?,Keeper.account?,start]
  rw [enrollmentPlay,nothing,latest?]
  cases (xs.filterMap (·.event.entry? id)).getLast? <;> rfl

theorem keepsRoll (k : Keeper ω τ) (xs : List Turn) : ((start k).play xs).KeepsRoll xs where
  ascend := Roster.idsAscend _
  listed {id} := by
    have there : id ∈ ((start k).play xs).keeper.ids ↔ _ := Roster.inIds
    rw [there,← latestPlay k xs id,Keeper.enrollment?,Keeper.account?]
    cases ((start k).play xs).keeper.roster.slot? id <;> simp
  enrolled := latestPlay k xs
  keyed found := (numberedPlay k xs).keyed (Keeper.badgeOf found)
  early found := (numberedPlay k xs).early (Keeper.badgeOf found)
  apart {id other one two} found second same := by
    have mine := Keeper.badgeOf second
    rw [← same] at mine
    exact (numberedPlay k xs).apart (Keeper.badgeOf found) mine
  steady {ys id slot} stays found := by
    have before : (((start k).play xs).keeper.badge? id).map (·.1) = some slot.epoch := by
      rw [Keeper.badgeOf found]
      rfl
    obtain ⟨badge,shown,epoch⟩ := Option.map_eq_some_iff.mp (epochPlay stays before)
    obtain ⟨later,there,rfl⟩ := Option.map_eq_some_iff.mp shown
    exact ⟨later,there,epoch⟩
  again found := Keeper.registerMarks _ found
  accepts e := by
    have registered := ((start k).play xs).keeper.registers e
    generalize ((start k).play xs).keeper.register e = result at registered ⊢
    cases registered with
    | refused unusable => exact unusable.symm
    | enrolled usable load => exact usable.symm

theorem enrolledTwice :
    let xs := Sample.turns (Sample.arrival ++ [.refresh "a",.proceed 0])
    let t := (start Sample.keeper).play xs
    "a" ∈ t.keeper.ids ∧ t.keeper.enrollment? "a" = some Sample.enrollment ∧
    (∃ slot, (t.keeper.register Sample.enrollment).2.roster.slot? "a" = some slot ∧
      slot.marks = (0,true,0,false)) ∧
    ∃ slot, (t.play (Sample.turns [.abandon 0,.register Sample.enrollment])).keeper.roster.slot? "a" =
      some slot ∧ slot.epoch = 0 := by
  intro xs t
  have roll : t.KeepsRoll xs := keepsRoll Sample.keeper xs
  have latest : latest? "a" xs = some Sample.enrollment := by rfl
  obtain ⟨slot,found,marks⟩ : ∃ slot, t.keeper.roster.slot? "a" = some slot ∧ slot.marks = (0,true,0,false) :=
    Option.map_eq_some_iff.mp (by decide)
  refine ⟨roll.listed.mpr ⟨_,latest⟩,(roll.enrolled "a").trans latest,?_,?_⟩
  · obtain ⟨next,there,kept⟩ := roll.again (e := Sample.enrollment) found
    exact ⟨next,there,kept.trans marks⟩
  · have stays : ∀ x ∈ Sample.turns [.abandon 0,.register Sample.enrollment],
        x.event.deletes "a" = false := by decide
    obtain ⟨later,there,epoch⟩ := roll.steady stays found
    exact ⟨later,there,epoch.trans (congrArg (·.1) marks)⟩

end Traffic

end GrantKeeper
