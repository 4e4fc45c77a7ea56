import GrantKeeper.Proofs.Grant.Sound
import GrantKeeper.Proofs.Traffic.Flights
import GrantKeeper.Proofs.Vault.Candid

/-! Where the grants come from that are held or recorded. Each was there at the start, is the
absent one, or was made from another by a call or by the reply to an exchange. -/
namespace GrantKeeper
open Time (Instant Span)
open Vault (Lawful Candid)
open Vault.Lawful (record?)
variable {ω τ : Type}

inductive Event.Makes (now : Instant) (g : Grant) : Event → Grant → Prop
  | stored (id access refresh lifetime) : Makes now g (.storeTokens id access refresh lifetime)
      { Grant.issued now access refresh lifetime with scope := g.scope }
  | renewed (n reply) : Makes now g (.settle n (.ok reply)) (g.refreshed now reply)

namespace Keeper
variable [Vault ω] [Lawful ω]

structure All (P : Grant → Prop) (k : Keeper ω τ) : Prop where
  held : ∀ id slot, k.roster.slot? id = some slot → P slot.account.grant
  recorded : ∀ id g, record? k.vault id = some (some g) → P g

variable {P : Grant → Prop} {k : Keeper ω τ} {vault : ω}

theorem allRecorded (h : k.All P) (kept : ∀ id, record? vault id = record? k.vault id) :
    All P { k with vault } := by
  refine ⟨h.held,?_⟩
  intro id g there
  rw [kept] at there
  exact h.recorded id g there

theorem allPut (h : k.All P) {slot : Slot} (own : P slot.account.grant) (id : String) :
    All P { k with roster := k.roster.put id slot } := by
  refine ⟨?_,h.recorded⟩
  intro other found there
  change (k.roster.put id slot).slot? other = some found at there
  rw [Roster.slotPut] at there
  split at there
  · cases Option.some.inj there
    exact own
  · exact h.held other found there

theorem allMarked (h : k.All P) {id : String} {slot next : Slot} (found : k.roster.slot? id = some slot)
    (account : next.account = slot.account) : All P { k with roster := k.roster.put id next } := by
  refine allPut h ?_ id
  rw [account]
  exact h.held id slot found

theorem allSaved (h : k.All P) {id : String} {g : Grant} (own : P g) (whole : g.IsWhole)
    (save : Vault.save k.vault id g = (.ok (),vault)) : All P { k with vault } := by
  refine ⟨h.held,?_⟩
  intro other stored there
  rw [Lawful.saved whole save] at there
  split at there
  · cases there
    exact own
  · exact h.recorded other stored there

theorem allEnrolled (h : k.All P) {stored : Option Grant} (e : Enrollment)
    (own : ∀ held, P held → P (stored.getD held)) (absent : P .absent) :
    All P { k with roster := k.roster.enroll e stored } := by
  refine ⟨?_,h.recorded⟩
  intro other found there
  change (k.roster.enroll e stored).slot? other = some found at there
  cases known : k.roster.slot? e.id with
  | some slot =>
    rw [Roster.slotEnrollKnown known] at there
    split at there
    · cases Option.some.inj there
      exact own _ (h.held e.id slot known)
    · exact h.held other found there
  | none =>
    rw [Roster.slotEnrollNew known] at there
    split at there
    · cases Option.some.inj there
      exact own _ absent
    · exact h.held other found there

variable {now : Instant}

theorem allStored (h : k.All P) {id access refresh : String} {lifetime : Int}
    (makes : ∀ g g', P g → Event.Makes now g (.storeTokens id access refresh lifetime) g' → P g') :
    (k.storeTokens now id access refresh lifetime).2.All P := by
  have stored := k.stores now id access refresh lifetime
  generalize k.storeTokens now id access refresh lifetime = result at stored ⊢
  cases stored with
  | unknown absent => exact h
  | @saved slot vault found save =>
    have own := makes _ _ (h.held id slot found) (.stored id access refresh lifetime)
    have whole := Grant.scopedWhole (Grant.issuedWhole now access refresh lifetime) slot.account.grant.scope
    exact allPut (allSaved h own whole save) own id
  | unsaved found save => exact allRecorded h (Lawful.unsaved save)

theorem allSettled (h : k.All P) (n : Nat) (a : Attempt τ) {outcome : Except Exchange.Fault Reply}
    (makes : ∀ g g', P g → Event.Makes now g (.settle n outcome) g' → P g') :
    (k.settle now a outcome).2.All P := by
  have settled := k.settles now a outcome
  generalize k.settle now a outcome = result at settled ⊢
  cases settled with
  | gone absent => exact h
  | refused found => exact allMarked h (slotOfFound found).1 (by rfl)
  | kept found other => exact allMarked h (slotOfFound found).1 (by rfl)
  | @saved slot reply vault found same save =>
    -- what the exchange renews is what its slot still holds
    have previous := h.held _ slot (slotOfFound found).1
    rw [same] at previous
    have own := makes _ _ previous (.renewed n reply)
    exact allPut (allSaved h own (Grant.refreshedWhole a.previous now reply) save) own a.id
  | unsaved found same save =>
    exact allMarked (allRecorded h (Lawful.unsaved save)) (slotOfFound found).1 (by rfl)

theorem allAbandoned (h : k.All P) (a : Attempt τ) : (k.abandon a).All P := by
  have ended := k.abandons a
  generalize k.abandon a = next at ended ⊢
  cases ended with
  | gone absent => exact h
  | broken found => exact allMarked h (slotOfFound found).1 (by rfl)

theorem allOpened (h : k.All P) (id : String) (within : Option Span) (ticket : Option Ticket) :
    (k.openRefresh now id within ticket).2.All P := by
  have opened := k.opens now id within ticket
  generalize k.openRefresh now id within ticket = result at opened ⊢
  cases opened with
  | begins found => exact allMarked h found (by rfl)
  | _ => exact h

theorem allDeleted (h : k.All P) (id : String) : (k.delete id).2.All P := by
  refine ⟨?_,?_⟩
  · intro other slot there
    change (k.roster.remove id).slot? other = some slot at there
    rw [Roster.slotRemove] at there
    split at there
    · cases there
    · exact h.held other slot there
  · intro other g there
    change record? (Vault.erase k.vault id).2 other = some (some g) at there
    rcases Lawful.eraseKeeps k.vault id other with kept | ⟨-,gone⟩
    · rw [kept] at there
      exact h.recorded other g there
    · cases gone.symm.trans there

variable [Candid ω]

theorem allRegistered (h : k.All P) (absent : P .absent) (e : Enrollment) : (k.register e).2.All P := by
  have registered := k.registers e
  generalize k.register e = result at registered ⊢
  cases registered with
  | refused unusable => exact h
  | @enrolled loaded vault usable load =>
    have kept := Lawful.loadKeeps k.vault e.id
    rw [load] at kept
    refine allEnrolled (allRecorded h kept) e ?_ absent
    intro held own
    cases loaded with
    | error fault => exact own
    | ok stored =>
      cases stored with
      | none => exact own
      | some g => exact h.recorded e.id g (Candid.found load)

end Keeper

namespace Traffic
variable [Vault ω] {P : Grant → Prop} {t : Traffic ω τ}

theorem playKeepsOver {holds : Traffic ω τ → Prop} {xs : List Turn}
    (keeps : ∀ t, ∀ x ∈ xs, holds t → holds (t.turn x)) (first : holds t) : holds (t.play xs) := by
  induction xs generalizing t with
  | nil => exact first
  | cons x xs ih =>
    exact ih (fun t y member => keeps t y (List.mem_cons_of_mem x member))
      (keeps t x List.mem_cons_self first)

variable [Lawful ω]

theorem allStart {k : Keeper ω τ} (first : ∀ id g, record? k.vault id = some (some g) → P g) :
    (start k).keeper.All P := by
  refine ⟨?_,first⟩
  intro id slot there
  simp [start] at there

variable [Candid ω]

theorem allStep (h : t.keeper.All P) (absent : P .absent) {now : Instant} {e : Event}
    (makes : ∀ g g', P g → e.Makes now g g' → P g') : (t.step now e).keeper.All P := by
  have moved := t.moves now e
  generalize (t.step now e).keeper = next at moved ⊢
  cases moved with
  | register e => exact Keeper.allRegistered h absent e
  | storeTokens id access refresh lifetime => exact Keeper.allStored h makes
  | delete id => exact Keeper.allDeleted h id
  | opens n id within ticket => exact Keeper.allOpened h id within ticket
  | settle n outcome a => exact Keeper.allSettled h n a makes
  | abandon n a => exact Keeper.allAbandoned h a
  | stays e => exact h

theorem allTurn (h : t.keeper.All P) (absent : P .absent) {x : Turn}
    (makes : ∀ g g', P g → x.event.Makes x.now g g' → P g') : (t.turn x).keeper.All P :=
  allStep (t := t.under x) ⟨h.held,h.recorded⟩ absent makes

end Traffic

theorem Event.makesSound {now : Instant} {g g' : Grant} {e : Event} (made : e.Makes now g g') :
    g'.Sound := by
  cases made with
  | stored id access refresh lifetime => exact Grant.madeSound now lifetime rfl rfl
  | renewed n reply => exact Grant.madeSound now (reply.lifetime.getD Grant.defaultLifetime) rfl rfl

/-- If all records are sound at the start, every grant is in every state of every run, however
long a life it is given and at whatever time. No end of a life is ever out of range. -/
theorem Traffic.grantsStaySound [Vault ω] [Lawful ω] [Candid ω] (k : Keeper ω τ)
    (first : ∀ id g, record? k.vault id = some (some g) → g.Sound) (xs : List Turn) :
    let t := (start k).play xs
    (∀ id slot, t.keeper.roster.slot? id = some slot → slot.account.grant.Sound) ∧
    (∀ id g, record? t.keeper.vault id = some (some g) → g.Sound) ∧
    ∀ x ∈ xs, ∀ lifetime, Grant.Ends x.now.floorSecond lifetime := by
  intro t
  have all : t.keeper.All Grant.Sound := by
    have keeps : ∀ (t : Traffic ω τ), ∀ x ∈ xs, t.keeper.All Grant.Sound → (t.turn x).keeper.All Grant.Sound :=
      fun t x _ h => allTurn h Grant.absentSound fun _ _ _ => Event.makesSound
    exact playKeepsOver keeps (allStart first)
  exact ⟨all.held,all.recorded,fun x _ lifetime => Grant.ends x.now.floorSecond lifetime⟩

theorem lastGrantSound :
    let stored := (Vault.save Vault.Memory.empty "a" (Grant.issued .epoch "A" "R" 60)).2
    let k := { Sample.keeper with vault := stored }
    let last : Instant := ⟨Time.latest,by decide,by decide⟩
    let xs := Sample.arrival.map fun e => { Sample.turn e with now := last }
    (∀ id g, record? k.vault id = some (some g) → g.Sound) ∧
    ∃ slot, ((Traffic.start k).play xs).keeper.roster.slot? "a" = some slot ∧ slot.account.grant.Sound ∧
      slot.account.grant.expiresAt = last.floorSecond := by
  intro stored k last xs
  have first : ∀ id g, record? k.vault id = some (some g) → g.Sound := by
    intro id g there
    change record? stored id = _ at there
    rw [Lawful.saved (Grant.issuedWhole .epoch "A" "R" 60) rfl] at there
    split at there
    · cases there
      exact Grant.madeSound .epoch 60 rfl rfl
    · cases there
  obtain ⟨held,-,-⟩ := Traffic.grantsStaySound k first xs
  exact ⟨first,_,rfl,held "a" _ rfl,rfl⟩

end GrantKeeper
