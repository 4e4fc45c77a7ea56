import GrantKeeper.Proofs.Keeper.Deeds
import GrantKeeper.Proofs.Traffic.Renewal

/-! What a grant becomes by any number of refreshes, of which some fail, some break off and some
leave out what the endpoint has said before. No refresh token is lost on the way. -/
namespace GrantKeeper
open Time (Instant)
open Vault (Lawful)
open Vault.Lawful (record?)
variable {ω τ : Type}

namespace Grant

def lastSaid (said : List (Option String)) (kept : String) : String :=
  ((said.filterMap id).filter (· ≠ "")).getLast?.getD kept

def renewed (g : Grant) (replies : List (Instant × Reply)) : Grant :=
  replies.foldl (fun g said => g.refreshed said.1 said.2) g

theorem lastSaidNext (said : Option String) (rest : List (Option String)) (kept : String) :
    lastSaid (said :: rest) kept = lastSaid rest (orKept said kept) := by
  unfold lastSaid orKept
  cases said with
  | none => rfl
  | some s =>
    by_cases empty : s = ""
    · simp [empty]
    · simp [empty,List.getLast?_cons]

theorem lastSaidFilled {kept : String} (filled : kept ≠ "") (said : List (Option String)) :
    lastSaid said kept ≠ "" := by
  unfold lastSaid
  cases last : ((said.filterMap id).filter (· ≠ "")).getLast? with
  | none => exact filled
  | some s => simpa using (List.mem_filter.mp (List.mem_of_getLast? last)).2

theorem renewedKeeps {part : Grant → String} {said : Reply → Option String}
    (takes : ∀ g now reply, part (refreshed g now reply) = orKept (said reply) (part g)) (g : Grant)
    (replies : List (Instant × Reply)) :
    part (g.renewed replies) = lastSaid (replies.map fun reply => said reply.2) (part g) := by
  induction replies generalizing g with
  | nil => rfl
  | cons reply rest ih =>
    rw [List.map_cons,lastSaidNext,← takes g reply.1 reply.2]
    exact ih (g.refreshed reply.1 reply.2)

theorem renewedRefresh (g : Grant) (replies : List (Instant × Reply)) :
    (g.renewed replies).refresh = lastSaid (replies.map (·.2.refresh)) g.refresh :=
  renewedKeeps (fun _ _ _ => rfl) g replies

theorem renewedScope (g : Grant) (replies : List (Instant × Reply)) :
    (g.renewed replies).scope = lastSaid (replies.map (·.2.scope)) g.scope :=
  renewedKeeps (fun _ _ _ => rfl) g replies

end Grant

theorem Keeper.grantOfHeld (k : Keeper ω τ) (id : String) : k.grant? id = (k.held? id).map (·.1) := by
  unfold grant? held? Roster.grant?
  cases k.roster.slot? id <;> rfl

variable [Vault ω]

namespace Keeper

def commits (k : Keeper ω τ) (now : Instant) (a : Attempt τ) (reply : Reply) : Bool :=
  (k.slotOf? a).any fun slot => slot.account.grant == a.previous &&
    (Vault.save k.vault a.id (a.previous.refreshed now reply)).1.isOk

structure Rotates [Lawful ω] (k next : Keeper ω τ) (now : Instant) (id : String) (said : Option Reply) :
    Prop where
  grant : next.grant? id = (k.grant? id).map fun g => (said.map (g.refreshed now)).getD g
  record : record? next.vault id = if said.isSome then (next.grant? id).map some else record? k.vault id

variable [Lawful ω] {k next : Keeper ω τ} {now : Instant} {id : String}

theorem rotatesNone (grant : next.grant? id = k.grant? id)
    (record : record? next.vault id = record? k.vault id) : Rotates k next now id none where
  grant := by
    rw [grant]
    cases k.grant? id <;> rfl
  record := record

theorem Rotates.ofUnder {x : Turn} {said : Option Reply} (rotates : Rotates (k.under x) next now id said) :
    Rotates k next now id said :=
  ⟨rotates.grant,rotates.record⟩

theorem rotatesApart (slot : next.roster.slot? id = k.roster.slot? id)
    (record : record? next.vault id = record? k.vault id) : Rotates k next now id none :=
  rotatesNone (by rw [grant?,Roster.grant?,slot]; rfl) record

theorem rotatesMarked {a : Attempt τ} {old slot : Slot} (found : k.slotOf? a = some old)
    (same : slot.account = old.account) {vault : ω}
    (record : record? vault id = record? k.vault id) :
    Rotates k { k with vault, roster := k.roster.put a.id slot } now id none :=
  rotatesNone (Roster.mapPut (slotOfFound found).1 (·.account.grant) (by rw [same]) id) record

theorem rotatesRefused {k : Keeper ω τ} (a : Attempt τ) (fault : Exchange.Fault) (id : String) :
    Rotates k (k.settle now a (.error fault)).2 now id none := by
  have settled := k.settles now a (.error fault)
  generalize k.settle now a (.error fault) = result at settled ⊢
  cases settled with
  | gone absent => exact rotatesNone rfl rfl
  | refused found => exact rotatesMarked found (by rfl) rfl

theorem rotatesSettle (k : Keeper ω τ) (now : Instant) (a : Attempt τ) (reply : Reply) (id : String) :
    Rotates k (k.settle now a (.ok reply)).2 now id
      (if a.id = id ∧ k.commits now a reply = true then some reply else none) := by
  have settled := k.settles now a (.ok reply)
  unfold commits
  generalize k.settle now a (.ok reply) = result at settled ⊢
  cases settled with
  | gone absent =>
    rw [absent,if_neg (by simp)]
    exact rotatesNone rfl rfl
  | kept found other =>
    rw [found,if_neg (by simp [other])]
    exact rotatesMarked found (by rfl) rfl
  | @saved slot _ vault found same save =>
    have written := Lawful.saved (Grant.refreshedWhole a.previous now reply) save id
    obtain ⟨there,-⟩ := slotOfFound found
    by_cases mine : a.id = id
    · subst mine
      rw [found,if_pos (by simp [same,save,Except.isOk,Except.toBool])]
      have held : ((k.roster.setGrant a.id (endExchange slot true) (a.previous.refreshed now reply)).grant?
          a.id) = some (a.previous.refreshed now reply) := by
        rw [Roster.grant?,Roster.setGrant,Roster.slotPut,if_pos rfl]
        rfl
      refine ⟨held.trans ?_,?_⟩
      · rw [grant?,Roster.grant?,there,Option.map_some,Option.map_some,same]
        rfl
      · rw [Option.isSome_some,if_pos rfl]
        exact written.trans ((if_pos rfl).trans (congrArg (Option.map some) held).symm)
    · rw [if_neg fun both => mine both.1]
      exact rotatesApart (putApart mine _) (written.trans (if_neg mine))
  | unsaved found same save =>
    rw [found,if_neg (by simp [save,Except.isOk,Except.toBool])]
    exact rotatesMarked found (by rfl) (Lawful.unsaved save id)

theorem rotatesStored {other : String} (apart : other ≠ id) (now : Instant) (access refresh : String)
    (lifetime : Int) : Rotates k (k.storeTokens now other access refresh lifetime).2 now id none := by
  have whole := Grant.scopedWhole (Grant.issuedWhole now access refresh lifetime)
  have slot := k.storeApart apart now access refresh lifetime
  have stored := k.stores now other access refresh lifetime
  generalize k.storeTokens now other access refresh lifetime = result at stored slot ⊢
  cases stored with
  | unknown absent => exact rotatesNone rfl rfl
  | saved found save => exact rotatesApart slot ((Lawful.saved (whole _) save id).trans (if_neg apart))
  | unsaved found save => exact rotatesApart slot (Lawful.unsaved save id)

theorem rotatesRegistered {e : Enrollment} (apart : e.id ≠ id) :
    Rotates k (k.register e).2 now id none := by
  have slot := k.registerApart apart
  have registered := k.registers e
  generalize k.register e = result at registered slot ⊢
  cases registered with
  | refused unusable => exact rotatesNone rfl rfl
  | @enrolled loaded vault usable load =>
    have kept := Lawful.loadKeeps k.vault e.id id
    rw [load] at kept
    exact rotatesApart slot kept

theorem rotatesDeleted {other : String} (apart : other ≠ id) : Rotates k (k.delete other).2 now id none := by
  refine rotatesApart ((k.deleteSlot other id).trans (if_neg apart)) ?_
  exact (Lawful.eraseKeeps k.vault other id).resolve_right fun gone => apart gone.1

theorem rotatesHeld (held : next.held? id = k.held? id) (vault : next.vault = k.vault) :
    Rotates k next now id none :=
  rotatesNone (by rw [grantOfHeld,grantOfHeld,held]) (by rw [vault])

end Keeper

namespace Traffic
variable {t : Traffic ω τ} {id : String}

def committed? (t : Traffic ω τ) (id : String) (x : Turn) : Option Reply :=
  match x.event with
  | .settle n (.ok reply) =>
    match t.attemptOf? n with
    | some (_,a) => if a.id = id ∧ t.keeper.commits x.now a reply = true then some reply else none
    | none => none
  | _ => none

def committed (t : Traffic ω τ) (id : String) : List Turn → List (Instant × Reply)
  | [] => []
  | x :: xs => ((t.committed? id x).map (x.now,·)).toList ++ (t.turn x).committed id xs

theorem begunHeld {now : Instant} {e : Event} {a : Attempt τ} (begun : (t.step now e).begun = t.begun ++ [a]) :
    t.keeper.grant? a.id = some a.previous := by
  have stepped := t.steps now e
  generalize t.step now e = u at stepped begun
  cases stepped with
  | @advances n caller there moving =>
    have attempt := List.append_cancel_left begun
    cases caller with
    | opening errand within ticket =>
      simp only [Caller.step] at attempt
      have opened := t.keeper.opens now errand.id within ticket
      generalize t.keeper.openRefresh now errand.id within ticket = result at opened attempt
      cases opened with
      | begins found =>
        cases attempt
        rw [Keeper.grant?,Roster.grant?,found,Option.map_some]
      | waits => cases attempt
      | _ => simp [Caller.attemptAfter] at attempt
    | reading other => cases attempt
    | _ => cases moving
  | _ => simp [enter,close] at begun

variable [Lawful ω]

theorem rotatesMoved {k next : Keeper ω τ} {now : Instant} {e : Event} (moved : Moves k now e next)
    (quiet : e.gives id = false) (stays : e.deletes id = false)
    (unsettled : ∀ n reply, e ≠ .settle n (.ok reply)) : Keeper.Rotates k next now id none := by
  cases moved with
  | register e => exact Keeper.rotatesRegistered (by simpa [Event.gives] using quiet)
  | storeTokens => exact Keeper.rotatesStored (by simpa [Event.gives] using quiet) now _ _ _
  | delete => exact Keeper.rotatesDeleted (by simpa [Event.deletes] using stays)
  | opens n other within ticket =>
    exact Keeper.rotatesHeld (k.heldOpen now other within ticket id) (k.openConfined now other within ticket).2
  | settle n outcome a =>
    cases outcome with
    | ok reply => exact absurd rfl (unsettled n reply)
    | error fault => exact Keeper.rotatesRefused a fault id
  | abandon n a =>
    refine Keeper.rotatesHeld (k.heldAbandon a id) ?_
    have ended := k.abandons a
    generalize k.abandon a = next at ended ⊢
    cases ended <;> rfl
  | stays => exact Keeper.rotatesNone rfl rfl

theorem rotatesTurn {x : Turn} (quiet : x.event.gives id = false) (stays : x.event.deletes id = false) :
    Keeper.Rotates t.keeper (t.turn x).keeper x.now id (t.committed? id x) := by
  unfold committed?
  split
  · rename_i n reply closes
    rw [turn,closes]
    simp only [step]
    rw [attemptOfUnder]
    cases there : t.attemptOf? n with
    | none => exact Keeper.rotatesNone rfl rfl
    | some pair =>
      obtain ⟨errand,a⟩ := pair
      exact (Keeper.rotatesSettle (t.keeper.under x) x.now a reply id).ofUnder
  · rename_i unsettled
    exact (rotatesMoved ((t.under x).moves x.now x.event) quiet stays unsettled).ofUnder

theorem rotatesPlay {xs : List Turn} (quiet : ∀ x ∈ xs, x.event.gives id = false)
    (stays : ∀ x ∈ xs, x.event.deletes id = false) {g : Grant} (held : t.keeper.grant? id = some g) :
    (t.play xs).keeper.grant? id = some (g.renewed (t.committed id xs)) ∧
      (record? t.keeper.vault id = some (some g) →
        record? (t.play xs).keeper.vault id = some (some (g.renewed (t.committed id xs)))) := by
  induction xs generalizing t g with
  | nil => exact ⟨held,fun recorded => recorded⟩
  | cons x xs ih =>
    obtain ⟨silent,quiet⟩ := List.forall_mem_cons.mp quiet
    obtain ⟨there,stays⟩ := List.forall_mem_cons.mp stays
    obtain ⟨grant,record⟩ := rotatesTurn (t := t) silent there
    rw [committed]
    rw [held,Option.map_some] at grant
    cases said : t.committed? id x with
    | none =>
      rw [said] at grant record
      obtain ⟨last,recorded⟩ := ih quiet stays grant
      exact ⟨last,fun before => recorded (record.trans before)⟩
    | some reply =>
      rw [said] at grant record
      obtain ⟨last,recorded⟩ := ih quiet stays grant
      refine ⟨last,fun _ => recorded (record.trans ?_)⟩
      rw [Option.isSome_some,if_pos rfl,grant]
      rfl

structure KeepsRotating (t : Traffic ω τ) (id : String) (g : Grant) (xs : List Turn) : Prop where
  grant : (t.play xs).keeper.grant? id = some (g.renewed (t.committed id xs))
  refresh : (g.renewed (t.committed id xs)).refresh =
    Grant.lastSaid ((t.committed id xs).map (·.2.refresh)) g.refresh
  scope : (g.renewed (t.committed id xs)).scope =
    Grant.lastSaid ((t.committed id xs).map (·.2.scope)) g.scope
  refreshable : (g.renewed (t.committed id xs)).isRefreshable = true
  recorded : record? t.keeper.vault id = some (some g) →
    record? (t.play xs).keeper.vault id = some (some (g.renewed (t.committed id xs)))
  sends {early x late a} (parts : xs = early ++ x :: late)
    (begun : ((t.play early).turn x).begun = (t.play early).begun ++ [a]) (own : a.id = id) :
    a.previous = g.renewed (t.committed id early) ∧
      a.order.refresh = Grant.lastSaid ((t.committed id early).map (·.2.refresh)) g.refresh

/-- Whatever refreshes come to, the refresh token and the scope are the last ones that a renewal of
the grant brought along, and never lost. -/
theorem keepsRotating (t : Traffic ω τ) {id : String} {g : Grant} (held : t.keeper.grant? id = some g)
    (refreshable : g.refresh ≠ "") {xs : List Turn} (quiet : ∀ x ∈ xs, x.event.gives id = false)
    (stays : ∀ x ∈ xs, x.event.deletes id = false) : t.KeepsRotating id g xs where
  grant := (rotatesPlay quiet stays held).1
  refresh := g.renewedRefresh _
  scope := g.renewedScope _
  refreshable := by
    have filled := Grant.lastSaidFilled refreshable ((t.committed id xs).map (·.2.refresh))
    rw [← Grant.renewedRefresh] at filled
    simpa [Grant.isRefreshable] using filled
  recorded := (rotatesPlay quiet stays held).2
  sends {early x late a} parts begun own := by
    subst parts
    have silent : ∀ y ∈ early, y.event.gives id = false := fun y member =>
      quiet y (List.mem_append_left _ member)
    have lasts : ∀ y ∈ early, y.event.deletes id = false := fun y member =>
      stays y (List.mem_append_left _ member)
    have before := (rotatesPlay silent lasts held).1
    have there : (t.play early).keeper.grant? a.id = some a.previous :=
      begunHeld (t := (t.play early).under x) begun
    rw [own,before] at there
    have same := (Option.some.inj there).symm
    refine ⟨same,?_⟩
    rw [Attempt.order,same]
    exact g.renewedRefresh _

theorem rotatedTwice :
    let t := (start Sample.keeper).play (Sample.turns Sample.arrival)
    let g := Grant.issued .epoch "A" "R" 3600
    let xs := Sample.turns [.refresh "a",.proceed 0,.settle 0 (.ok { Sample.reply with refresh := some "S" }),
      .refresh "a",.proceed 1,.settle 1 (.ok { Sample.reply with refresh := some "" }),
      .refresh "a",.proceed 2,.abandon 2]
    t.keeper.grant? "a" = some g ∧ g.refresh ≠ "" ∧ (∀ x ∈ xs, x.event.gives "a" = false) ∧
      (∀ x ∈ xs, x.event.deletes "a" = false) ∧ t.KeepsRotating "a" g xs ∧
      (t.committed "a" xs).map (·.2.refresh) = [some "S",some ""] ∧
      ((t.play xs).keeper.grant? "a").map (·.refresh) = some "S" := by
  intro t g xs
  have held : t.keeper.grant? "a" = some g := rfl
  have refreshable : g.refresh ≠ "" := by decide
  have quiet : ∀ x ∈ xs, x.event.gives "a" = false := by decide
  have stays : ∀ x ∈ xs, x.event.deletes "a" = false := by decide
  exact ⟨held,refreshable,quiet,stays,keepsRotating t held refreshable quiet stays,by decide +kernel,
    by decide +kernel⟩

end Traffic

end GrantKeeper
