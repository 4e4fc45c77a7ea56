import Mathlib.Logic.Equiv.Basic
import GrantKeeper.Keeper.Caller
import GrantKeeper.Keeper.Solo
import GrantKeeper.Proofs.Keeper.Apart
import GrantKeeper.Proofs.Keeper.Due
import GrantKeeper.Proofs.Vault.Parted

/-! What is done for two accounts can be done in either order. What is done for one is confined to
its slot and its record, and rests on nothing but these and the settings. -/
namespace GrantKeeper
open Time (Instant Span)
open Vault (Access Parted answer)

inductive Deed (τ : Type)
  | register (e : Enrollment)
  | storeTokens (id access refresh : String) (lifetime : Int)
  | delete (id : String)
  | opens (id : String) (within : Option Span) (ticket : Option Ticket)
  | settle (a : Attempt τ) (outcome : Except Exchange.Fault Reply)
  | abandon (a : Attempt τ)
  | look (id : String)
  | read (id : String)
  | refreshAlone (ask : Keeper.Ask τ) (id : String) (within : Option Span)
  | tokenAlone (ask : Keeper.Ask τ) (id : String)

inductive Yield (τ : Type)
  | nothing
  | known (flag : Bool)
  | done (result : Except Fault Unit)
  | opened (opening : Opening τ)
  | caller (next : Caller τ)
  | token (value : Option String)

def Deed.id {τ : Type} : Deed τ → String
  | .register e => e.id
  | .storeTokens id .. | .delete id | .opens id .. | .look id | .read id => id
  | .refreshAlone _ id _ | .tokenAlone _ id => id
  | .settle a _ | .abandon a => a.id

def Keeper.Write.id : Keeper.Write → String
  | .record id _ | .hold id _ => id

variable {ω τ : Type}

def Deed.perform [Vault ω] (k : Keeper ω τ) (now : Instant) : Deed τ → Yield τ × Keeper ω τ
  | .register e => let (flag,k) := k.register e; (.known flag,k)
  | .storeTokens id access refresh lifetime =>
    let (result,k) := k.storeTokens now id access refresh lifetime; (.done result,k)
  | .delete id => let (flag,k) := k.delete id; (.known flag,k)
  | .opens id within ticket => let (opening,k) := k.openRefresh now id within ticket; (.opened opening,k)
  | .settle a outcome => let (result,k) := k.settle now a outcome; (.done result,k)
  | .abandon a => (.nothing,k.abandon a)
  | .look id => (.caller (.startToken k now id),k)
  | .read id => (.token (k.usableToken? now id),k)
  | .refreshAlone ask id within => let (result,k) := k.refreshSolo ask now id within; (.done result,k)
  | .tokenAlone ask id => let (value,k) := k.tokenSolo ask now id; (.token value,k)

namespace Keeper

variable [Vault ω]

structure Confined (id : String) (new : Nat) (k next : Keeper ω τ) : Prop where
  slots : ∀ other, id ≠ other → next.roster.slot? other = k.roster.slot? other
  vault : next.vault = k.vault ∨ ∃ a : Access, next.vault = (answer k.vault (a.by id)).2
  counter : next.roster.nextEpoch = k.roster.nextEpoch + new
  settings : next.settings = k.settings

variable {k l next : Keeper ω τ} {id : String}

theorem confinedSelf (id : String) (k : Keeper ω τ) : Confined id 0 k k :=
  ⟨fun _ _ => rfl,.inl rfl,rfl,rfl⟩

theorem confinedPut (id : String) (slot : Slot) {vault : ω}
    (access : vault = k.vault ∨ ∃ a : Access, vault = (answer k.vault (a.by id)).2) :
    Confined id 0 k { k with vault, roster := k.roster.put id slot } :=
  ⟨fun _ apart => putApart apart slot,access,rfl,rfl⟩

theorem Confined.goesOn (first : Confined id 0 k l) (kept : l.vault = k.vault)
    (second : Confined id 0 l next) : Confined id 0 k next where
  slots other apart := (second.slots other apart).trans (first.slots other apart)
  vault := by
    rw [← kept]
    exact second.vault
  counter := second.counter.trans first.counter
  settings := second.settings.trans first.settings

theorem openConfined (k : Keeper ω τ) (now : Instant) (id : String) (within : Option Span)
    (ticket : Option Ticket) : Confined id 0 k (k.openRefresh now id within ticket).2 ∧
      (k.openRefresh now id within ticket).2.vault = k.vault := by
  have opened := k.opens now id within ticket
  generalize k.openRefresh now id within ticket = result at opened ⊢
  cases opened with
  | begins found => exact ⟨confinedPut id _ (.inl rfl),rfl⟩
  | _ => exact ⟨confinedSelf id k,rfl⟩

theorem abandonConfined (k : Keeper ω τ) (a : Attempt τ) : Confined a.id 0 k (k.abandon a) := by
  have ended := k.abandons a
  generalize k.abandon a = next at ended ⊢
  cases ended with
  | gone absent => exact confinedSelf a.id k
  | broken found => exact confinedPut a.id _ (.inl rfl)

theorem settleConfined (k : Keeper ω τ) (now : Instant) (a : Attempt τ)
    (outcome : Except Exchange.Fault Reply) : Confined a.id 0 k (k.settle now a outcome).2 := by
  have settled := k.settles now a outcome
  generalize k.settle now a outcome = result at settled ⊢
  cases settled with
  | gone absent => exact confinedSelf a.id k
  | refused found => exact confinedPut a.id _ (.inl rfl)
  | kept found other => exact confinedPut a.id _ (.inl rfl)
  | saved found same save => exact confinedPut a.id _ (.inr ⟨.save _,(congrArg Prod.snd save).symm⟩)
  | unsaved found same save => exact confinedPut a.id _ (.inr ⟨.save _,(congrArg Prod.snd save).symm⟩)

theorem storeConfined (k : Keeper ω τ) (now : Instant) (id access refresh : String) (lifetime : Int) :
    Confined id 0 k (k.storeTokens now id access refresh lifetime).2 := by
  have stored := k.stores now id access refresh lifetime
  generalize k.storeTokens now id access refresh lifetime = result at stored ⊢
  cases stored with
  | unknown absent => exact confinedSelf id k
  | saved found save => exact confinedPut id _ (.inr ⟨.save _,(congrArg Prod.snd save).symm⟩)
  | unsaved found save =>
    exact ⟨fun _ _ => rfl,.inr ⟨.save _,(congrArg Prod.snd save).symm⟩,rfl,rfl⟩

theorem deleteConfined (k : Keeper ω τ) (id : String) : Confined id 0 k (k.delete id).2 where
  slots other apart := by rw [deleteSlot,if_neg apart]
  vault := .inr ⟨.erase,rfl⟩
  counter := rfl
  settings := rfl

theorem registerConfined (k : Keeper ω τ) (e : Enrollment) :
    ∃ new, Confined e.id new k (k.register e).2 := by
  have registered := k.registers e
  generalize k.register e = result at registered ⊢
  cases registered with
  | refused unusable => exact ⟨0,confinedSelf e.id k⟩
  | @enrolled loaded vault usable load =>
    have access : vault = (answer k.vault (Access.load.by e.id)).2 := (congrArg Prod.snd load).symm
    have apart := fun other (apart : e.id ≠ other) =>
      Roster.slotEnrollOther k.roster apart (loaded.toOption.getD none)
    cases known : k.roster.slot? e.id with
    | some slot => exact ⟨0,apart,.inr ⟨_,access⟩,by simp only [Roster.enroll,known]; rfl,rfl⟩
    | none => exact ⟨1,apart,.inr ⟨_,access⟩,by simp only [Roster.enroll,known],rfl⟩

theorem refreshConfined (ask : Ask τ) (k : Keeper ω τ) (now : Instant) (id : String)
    (within : Option Span) : Confined id 0 k (k.refreshSolo ask now id within).2 := by
  have opened := k.opens now id within none
  obtain ⟨opens,kept⟩ := k.openConfined now id within none
  unfold refreshSolo
  generalize k.openRefresh now id within none = result at opened opens kept ⊢
  cases opened with
  | @begins slot strategy found =>
    let a : Attempt τ := ⟨id,slot.epoch,slot.account.grant,slot.account.enrollment.clientId,
      slot.account.enrollment.clientSecret,strategy⟩
    exact opens.goesOn kept (settleConfined _ now a (ask a.strategy a.order))
  | _ => exact opens

theorem tokenConfined (ask : Ask τ) (k : Keeper ω τ) (now : Instant) (id : String) :
    Confined id 0 k (k.tokenSolo ask now id).2 := by
  unfold tokenSolo
  split
  · exact refreshConfined ask k now id _
  · exact confinedSelf id k

end Keeper

theorem Deed.confined [Vault ω] (k : Keeper ω τ) (now : Instant) (deed : Deed τ) :
    ∃ new, Keeper.Confined deed.id new k (deed.perform k now).2 := by
  cases deed with
  | register e => exact k.registerConfined e
  | storeTokens id access again lifetime => exact ⟨0,k.storeConfined now id access again lifetime⟩
  | delete id => exact ⟨0,k.deleteConfined id⟩
  | opens id within ticket => exact ⟨0,(k.openConfined now id within ticket).1⟩
  | settle a outcome => exact ⟨0,k.settleConfined now a outcome⟩
  | abandon a => exact ⟨0,k.abandonConfined a⟩
  | look id => exact ⟨0,Keeper.confinedSelf id k⟩
  | read id => exact ⟨0,Keeper.confinedSelf id k⟩
  | refreshAlone ask id within => exact ⟨0,k.refreshConfined ask now id within⟩
  | tokenAlone ask id => exact ⟨0,k.tokenConfined ask now id⟩

namespace Keeper
variable [Vault ω] [Parted ω] {k l : Keeper ω τ} {id : String} (now : Instant)

structure SameFor (k l : Keeper ω τ) (id : String) : Prop where
  slot : k.roster.slot? id = l.roster.slot? id
  cell : Parted.cell k.vault id = Parted.cell l.vault id
  left : Parted.Sound k.vault
  right : Parted.Sound l.vault
  settings : k.settings = l.settings

theorem agreesPut (agrees : k.SameFor l id) (slot : Slot) {v w : ω} (left : Parted.Sound v)
    (right : Parted.Sound w) (cell : Parted.cell v id = Parted.cell w id) :
    SameFor { k with vault := v, roster := k.roster.put id slot }
      { l with vault := w, roster := l.roster.put id slot } id :=
  ⟨by rw [Roster.slotPut,Roster.slotPut,if_pos rfl,if_pos rfl],cell,left,right,agrees.settings⟩

theorem SameFor.put (agrees : k.SameFor l id) (slot : Slot) :
    SameFor { k with roster := k.roster.put id slot } { l with roster := l.roster.put id slot } id :=
  agreesPut agrees slot agrees.left agrees.right agrees.cell

theorem openAgrees (agrees : k.SameFor l id) (within : Option Span) (ticket : Option Ticket) :
    (k.openRefresh now id within ticket).1 = (l.openRefresh now id within ticket).1 ∧
      (k.openRefresh now id within ticket).2.SameFor (l.openRefresh now id within ticket).2 id := by
  obtain ⟨told,⟨one,two⟩ | ⟨begun,one,two⟩⟩ := openAlike agrees.slot agrees.settings now within ticket
  · rw [one,two]
    exact ⟨told,agrees⟩
  · rw [one,two]
    exact ⟨told,agrees.put begun⟩

theorem endAgrees {a : Attempt τ} (agrees : k.SameFor l a.id) (succeeded : Bool) :
    (k.endAttempt a succeeded).SameFor (l.endAttempt a succeeded) a.id := by
  unfold endAttempt slotOf?
  rw [agrees.slot]
  split
  · exact agrees
  · exact agrees.put _

theorem abandonAgrees {a : Attempt τ} (agrees : k.SameFor l a.id) : (k.abandon a).SameFor (l.abandon a) a.id :=
  endAgrees agrees false

theorem recordAgrees (agrees : k.SameFor l id) (g : Grant) :
    (k.write (.record id g)).1 = (l.write (.record id g)).1 ∧
      (k.write (.record id g)).2.SameFor (l.write (.record id g)).2 id := by
  obtain ⟨result,v,w,one,two,left,right,cells⟩ := Parted.saveAlike agrees.left agrees.right agrees.cell g
  simp only [write,one,two]
  exact ⟨rfl,agrees.slot,cells,left,right,agrees.settings⟩

theorem holdAgrees (agrees : k.SameFor l id) (g : Grant) :
    (k.write (.hold id g)).2.SameFor (l.write (.hold id g)).2 id := by
  simp only [write,Roster.hold,agrees.slot]
  split
  · exact agrees.put _
  · exact agrees

theorem writeAgrees {w : Write} (agrees : k.SameFor l w.id) :
    (k.write w).1 = (l.write w).1 ∧ (k.write w).2.SameFor (l.write w).2 w.id := by
  cases w with
  | record id g => exact recordAgrees agrees g
  | hold id g => exact ⟨rfl,holdAgrees agrees g⟩

theorem writeAllAgrees {ws : List Write} (mine : ∀ w ∈ ws, w.id = id) (agrees : k.SameFor l id) :
    (k.writeAll ws).1 = (l.writeAll ws).1 ∧ (k.writeAll ws).2.SameFor (l.writeAll ws).2 id := by
  induction ws generalizing k l with
  | nil => exact ⟨rfl,agrees⟩
  | cons w ws ih =>
    obtain ⟨rfl,others⟩ := List.forall_mem_cons.mp mine
    obtain ⟨told,next⟩ := writeAgrees agrees
    simp only [writeAll]
    generalize k.write w = one at told next ⊢
    generalize l.write w = two at told next ⊢
    obtain ⟨result,k'⟩ := one
    obtain ⟨_,l'⟩ := two
    cases told
    cases result with
    | error fault => exact ⟨rfl,next⟩
    | ok done => exact ih others next

theorem keepingMine (id : String) (g : Grant) : ∀ w ∈ Write.keeping id g, w.id = id := by
  simp [Write.keeping,Write.id]

theorem writesMine (a : Attempt τ) (slot : Slot) (reply : Reply) :
    ∀ w ∈ writesOf now a slot reply, w.id = a.id := by
  unfold writesOf
  split
  · simp
  · exact keepingMine _ _

theorem commitAgrees {a : Attempt τ} (agrees : k.SameFor l a.id) (slot : Slot)
    (outcome : Except Exchange.Fault Reply) :
    (k.commit now a slot outcome).1 = (l.commit now a slot outcome).1 ∧
      (k.commit now a slot outcome).2.SameFor (l.commit now a slot outcome).2 a.id := by
  cases outcome with
  | error fault => exact ⟨rfl,agrees⟩
  | ok reply => exact writeAllAgrees (writesMine now a slot reply) agrees

theorem settleAgrees {a : Attempt τ} (agrees : k.SameFor l a.id) (outcome : Except Exchange.Fault Reply) :
    (k.settle now a outcome).1 = (l.settle now a outcome).1 ∧
      (k.settle now a outcome).2.SameFor (l.settle now a outcome).2 a.id := by
  unfold settle slotOf?
  rw [agrees.slot]
  split
  · exact ⟨rfl,agrees⟩
  · rename_i slot found
    obtain ⟨told,next⟩ := commitAgrees now agrees slot outcome
    refine ⟨told,?_⟩
    simp only [told]
    exact endAgrees next _

theorem storeAgrees (agrees : k.SameFor l id) (access again : String) (lifetime : Int) :
    (k.storeTokens now id access again lifetime).1 = (l.storeTokens now id access again lifetime).1 ∧
      (k.storeTokens now id access again lifetime).2.SameFor (l.storeTokens now id access again lifetime).2 id := by
  unfold storeTokens
  rw [agrees.slot]
  split
  · exact ⟨rfl,agrees⟩
  · exact writeAllAgrees (keepingMine id _) agrees

theorem deleteAgrees (agrees : k.SameFor l id) :
    (k.delete id).1 = (l.delete id).1 ∧ (k.delete id).2.SameFor (l.delete id).2 id := by
  refine ⟨?_,?_,?_,?_,?_,agrees.settings⟩
  · simp only [delete,knows,agrees.slot]
  · rw [deleteSlot,deleteSlot,if_pos rfl,if_pos rfl]
  · exact Parted.eraseAlike agrees.left agrees.right agrees.cell
  · exact Parted.remains agrees.left id .erase
  · exact Parted.remains agrees.right id .erase

theorem refreshAgrees (ask : Ask τ) (agrees : k.SameFor l id) (within : Option Span) :
    (k.refreshSolo ask now id within).1 = (l.refreshSolo ask now id within).1 ∧
      (k.refreshSolo ask now id within).2.SameFor (l.refreshSolo ask now id within).2 id := by
  obtain ⟨same,next⟩ := openAgrees now agrees within none
  have opened := k.opens now id within none
  unfold refreshSolo
  generalize k.openRefresh now id within none = one at *
  generalize l.openRefresh now id within none = two at *
  obtain ⟨opening,k'⟩ := one
  obtain ⟨opening',l'⟩ := two
  cases same
  cases opening with
  | closed result => exact ⟨rfl,next⟩
  | waiting ticket => exact ⟨rfl,next⟩
  | exchanging a =>
    have mine : a.id = id := by
      cases opened
      rfl
    subst mine
    exact settleAgrees now next _

theorem grantAgrees (agrees : k.SameFor l id) : k.grant? id = l.grant? id := by
  unfold grant? Roster.grant?
  rw [agrees.slot]

theorem usableAgrees (agrees : k.SameFor l id) : k.usableToken? now id = l.usableToken? now id := by
  unfold usableToken?
  rw [grantAgrees agrees]

theorem bufferAgrees (agrees : k.SameFor l id) : k.buffer = l.buffer := by
  unfold buffer
  rw [show k.bufferMinutes = l.bufferMinutes from congrArg (·.2.2) agrees.settings]

theorem wantsAgrees (agrees : k.SameFor l id) : k.wantsRefresh now id = l.wantsRefresh now id := by
  unfold wantsRefresh
  rw [grantAgrees agrees,bufferAgrees agrees,
    show k.autoRefresh = l.autoRefresh from congrArg (·.2.1) agrees.settings]

theorem tokenAgrees (ask : Ask τ) (agrees : k.SameFor l id) :
    (k.tokenSolo ask now id).1 = (l.tokenSolo ask now id).1 ∧
      (k.tokenSolo ask now id).2.SameFor (l.tokenSolo ask now id).2 id := by
  unfold tokenSolo
  rw [wantsAgrees now agrees,bufferAgrees agrees]
  split
  · obtain ⟨-,next⟩ := refreshAgrees now ask agrees (some l.buffer)
    exact ⟨usableAgrees now next,next⟩
  · exact ⟨usableAgrees now agrees,agrees⟩

theorem lookAgrees (agrees : k.SameFor l id) :
    (Caller.startToken k now id : Caller τ) = Caller.startToken l now id := by
  unfold Caller.startToken knows
  rw [agrees.slot,wantsAgrees now agrees,bufferAgrees agrees]

structure Matches (k l next other : Keeper ω τ) (id : String) : Prop where
  cell : Parted.cell next.vault id = Parted.cell other.vault id
  slot : next.roster.slot? id = other.roster.slot? id ∧ next.roster.nextEpoch = k.roster.nextEpoch ∧
      other.roster.nextEpoch = l.roster.nextEpoch ∨
    ∃ account, next.roster.slot? id = some ⟨account,k.roster.nextEpoch,false,0,false⟩ ∧
      other.roster.slot? id = some ⟨account,l.roster.nextEpoch,false,0,false⟩ ∧
      next.roster.nextEpoch = k.roster.nextEpoch + 1 ∧ other.roster.nextEpoch = l.roster.nextEpoch + 1

theorem SameFor.matches {next other : Keeper ω τ} (agrees : next.SameFor other id)
    (first : Confined id 0 k next) (second : Confined id 0 l other) : Matches k l next other id :=
  ⟨agrees.cell,.inl ⟨agrees.slot,first.counter,second.counter⟩⟩

theorem registerMatches {e : Enrollment} (agrees : k.SameFor l e.id) :
    (k.register e).1 = (l.register e).1 ∧ Matches k l (k.register e).2 (l.register e).2 e.id := by
  unfold register
  split
  · obtain ⟨loaded,v,w,one,two,left,right,cells⟩ := Parted.loadAlike agrees.left agrees.right agrees.cell
    rw [one,two]
    refine ⟨rfl,cells,?_⟩
    have found := agrees.slot
    cases known : l.roster.slot? e.id with
    | some slot =>
      rw [known] at found
      refine .inl ⟨?_,?_,?_⟩
      · simp only [Roster.slotEnrollKnown found,Roster.slotEnrollKnown known,if_pos]
      · simp only [Roster.enroll,found]
        rfl
      · simp only [Roster.enroll,known]
        rfl
    | none =>
      rw [known] at found
      refine .inr ⟨⟨e,(loaded.toOption.getD none).getD .absent⟩,?_,?_,?_,?_⟩
      · rw [Roster.slotEnrollNew found,if_pos rfl]
      · rw [Roster.slotEnrollNew known,if_pos rfl]
      · simp only [Roster.enroll,found]
      · simp only [Roster.enroll,known]
  · exact ⟨rfl,agrees.cell,.inl ⟨agrees.slot,rfl,rfl⟩⟩

end Keeper

theorem Deed.matches [Vault ω] [Parted ω] {k l : Keeper ω τ} {deed : Deed τ} (agrees : k.SameFor l deed.id)
    (now : Instant) : (deed.perform k now).1 = (deed.perform l now).1 ∧
      Keeper.Matches k l (deed.perform k now).2 (deed.perform l now).2 deed.id := by
  cases deed with
  | register e =>
    obtain ⟨same,matches'⟩ := Keeper.registerMatches agrees
    exact ⟨congrArg Yield.known same,matches'⟩
  | storeTokens id access again lifetime =>
    obtain ⟨same,next⟩ := Keeper.storeAgrees now agrees access again lifetime
    exact ⟨congrArg Yield.done same,next.matches (k.storeConfined ..) (l.storeConfined ..)⟩
  | delete id =>
    obtain ⟨same,next⟩ := Keeper.deleteAgrees agrees
    exact ⟨congrArg Yield.known same,next.matches (k.deleteConfined id) (l.deleteConfined id)⟩
  | opens id within ticket =>
    obtain ⟨same,next⟩ := Keeper.openAgrees now agrees within ticket
    exact ⟨congrArg Yield.opened same,next.matches (k.openConfined ..).1 (l.openConfined ..).1⟩
  | settle a outcome =>
    obtain ⟨same,next⟩ := Keeper.settleAgrees now agrees outcome
    exact ⟨congrArg Yield.done same,next.matches (k.settleConfined ..) (l.settleConfined ..)⟩
  | abandon a =>
    exact ⟨rfl,(Keeper.abandonAgrees agrees).matches (k.abandonConfined a) (l.abandonConfined a)⟩
  | look id =>
    exact ⟨congrArg Yield.caller (Keeper.lookAgrees now agrees),
      agrees.matches (Keeper.confinedSelf id k) (Keeper.confinedSelf id l)⟩
  | read id =>
    exact ⟨congrArg Yield.token (Keeper.usableAgrees now agrees),
      agrees.matches (Keeper.confinedSelf id k) (Keeper.confinedSelf id l)⟩
  | refreshAlone ask id within =>
    obtain ⟨same,next⟩ := Keeper.refreshAgrees now ask agrees within
    exact ⟨congrArg Yield.done same,next.matches (k.refreshConfined ..) (l.refreshConfined ..)⟩
  | tokenAlone ask id =>
    obtain ⟨same,next⟩ := Keeper.tokenAgrees now ask agrees
    exact ⟨congrArg Yield.token same,next.matches (k.tokenConfined ..) (l.tokenConfined ..)⟩

def Slot.renumbered (σ : Equiv.Perm Nat) (slot : Slot) : Slot := { slot with epoch := σ slot.epoch }

namespace Keeper
variable [Vault ω]

/-- In whichever order the deeds are done, both give the same, and all accounts have the same slots
and records in the end. Only the epochs of slots that are new may be given out in another order. -/
structure Commutes (k : Keeper ω τ) (now : Instant) (one two : Deed τ) : Prop where
  first : (one.perform (two.perform k now).2 now).1 = (one.perform k now).1
  second : (two.perform (one.perform k now).2 now).1 = (two.perform k now).1
  slots : ∃ σ : Equiv.Perm Nat, (∀ epoch < k.roster.nextEpoch, σ epoch = epoch) ∧
    ∀ id, (one.perform (two.perform k now).2 now).2.roster.slot? id =
      ((two.perform (one.perform k now).2 now).2.roster.slot? id).map (·.renumbered σ)
  records : ∀ id, (Vault.load (one.perform (two.perform k now).2 now).2.vault id).1 =
    (Vault.load (two.perform (one.perform k now).2 now).2.vault id).1
  counter : (one.perform (two.perform k now).2 now).2.roster.nextEpoch =
    (two.perform (one.perform k now).2 now).2.roster.nextEpoch
  settings : (one.perform (two.perform k now).2 now).2.settings =
    (two.perform (one.perform k now).2 now).2.settings

variable [Parted ω] {k next : Keeper ω τ} {id : String} {new : Nat}

theorem Confined.sound (confined : Confined id new k next) (sound : Parted.Sound k.vault) :
    Parted.Sound next.vault := by
  rcases confined.vault with same | ⟨a,same⟩
  · rwa [same]
  · rw [same]
    exact Parted.remains sound id a

theorem Confined.cell (confined : Confined id new k next) (sound : Parted.Sound k.vault) {other : String}
    (apart : id ≠ other) : Parted.cell next.vault other = Parted.cell k.vault other := by
  rcases confined.vault with same | ⟨a,same⟩
  · rw [same]
  · rw [same]
    exact Parted.apart sound apart a

theorem Confined.agrees (confined : Confined id new k next) (sound : Parted.Sound k.vault) {other : String}
    (apart : id ≠ other) : k.SameFor next other :=
  ⟨(confined.slots other apart).symm,(confined.cell sound apart).symm,sound,confined.sound sound,
    confined.settings.symm⟩

structure Square (a b : String) (k left right ends goal : Keeper ω τ) : Prop where
  apart : a ≠ b
  toLeft : ∃ new, Confined a new k left
  toRight : ∃ new, Confined b new k right
  leftOn : ∃ new, Confined b new left ends
  rightOn : ∃ new, Confined a new right goal
  own : Matches k right left goal a
  other : Matches k left right ends b

section
variable {a b : String} {left right ends goal : Keeper ω τ} (square : Square a b k left right ends goal)
include square

theorem Square.counter : goal.roster.nextEpoch = ends.roster.nextEpoch := by
  rcases square.own.slot with ⟨-,one,two⟩ | ⟨-,-,-,one,two⟩ <;>
    rcases square.other.slot with ⟨-,three,four⟩ | ⟨-,-,-,three,four⟩ <;> omega

theorem Square.settings : goal.settings = ends.settings := by
  obtain ⟨-,⟨_,first⟩,⟨_,second⟩,⟨_,later⟩,⟨_,sooner⟩,-,-⟩ := square
  rw [sooner.settings,second.settings,later.settings,first.settings]

theorem Square.cells (sound : Parted.Sound k.vault) (id : String) :
    Parted.cell goal.vault id = Parted.cell ends.vault id := by
  obtain ⟨apart,⟨_,first⟩,⟨_,second⟩,⟨_,later⟩,⟨_,sooner⟩,own,other⟩ := square
  by_cases mine : a = id
  · subst mine
    rw [later.cell (first.sound sound) apart.symm,own.cell]
  · rw [sooner.cell (second.sound sound) mine]
    by_cases theirs : b = id
    · subst theirs
      exact other.cell
    · rw [later.cell (first.sound sound) theirs,first.cell sound mine,second.cell sound theirs]

theorem Square.slotsSame (mine : left.roster.slot? a = goal.roster.slot? a)
    (theirs : right.roster.slot? b = ends.roster.slot? b) (id : String) :
    goal.roster.slot? id = ends.roster.slot? id := by
  obtain ⟨apart,⟨_,first⟩,⟨_,second⟩,⟨_,later⟩,⟨_,sooner⟩,-,-⟩ := square
  by_cases here : a = id
  · subst here
    rw [later.slots a apart.symm,mine]
  · rw [sooner.slots id here]
    by_cases there : b = id
    · subst there
      exact theirs
    · rw [later.slots id there,first.slots id here,second.slots id there]

theorem Square.slots (early : ∀ id slot, k.roster.slot? id = some slot → slot.epoch < k.roster.nextEpoch) :
    ∃ σ : Equiv.Perm Nat, (∀ epoch < k.roster.nextEpoch, σ epoch = epoch) ∧
      ∀ id, goal.roster.slot? id = (ends.roster.slot? id).map (·.renumbered σ) := by
  have plain (mine : left.roster.slot? a = goal.roster.slot? a)
      (theirs : right.roster.slot? b = ends.roster.slot? b) :
      ∃ σ : Equiv.Perm Nat, (∀ epoch < k.roster.nextEpoch, σ epoch = epoch) ∧
        ∀ id, goal.roster.slot? id = (ends.roster.slot? id).map (·.renumbered σ) := by
    refine ⟨.refl Nat,fun _ _ => rfl,?_⟩
    intro id
    rw [square.slotsSame mine theirs id]
    exact Option.map_id'.symm
  rcases square.own.slot with ⟨mine,one,two⟩ | ⟨account,mine,mine',one,two⟩
  · rcases square.other.slot with ⟨theirs,-,-⟩ | ⟨account,theirs,theirs',-,-⟩
    · exact plain mine theirs
    · exact plain mine (by rw [theirs,theirs',one])
  · rcases square.other.slot with ⟨theirs,three,-⟩ | ⟨account',theirs,theirs',three,-⟩
    · exact plain (by rw [mine,mine',three]) theirs
    · -- both slots are new, and each order numbers them its own way
      refine ⟨Equiv.swap k.roster.nextEpoch (k.roster.nextEpoch + 1),?_,?_⟩
      · intro epoch old
        exact Equiv.swap_apply_of_ne_of_ne (Nat.ne_of_lt old) (Nat.ne_of_lt (Nat.lt_succ_of_lt old))
      · obtain ⟨apart,⟨_,first⟩,⟨_,second⟩,⟨_,later⟩,⟨_,sooner⟩,-,-⟩ := square
        intro id
        by_cases here : a = id
        · subst here
          rw [later.slots a apart.symm,mine,mine',three,Option.map_some,Slot.renumbered,
            Equiv.swap_apply_left]
        · rw [sooner.slots id here]
          by_cases there : b = id
          · subst there
            rw [theirs,theirs',one,Option.map_some,Slot.renumbered,Equiv.swap_apply_right]
          · rw [later.slots id there,first.slots id here,second.slots id there]
            cases found : k.roster.slot? id with
            | none => rfl
            | some slot =>
              have old := early id slot found
              rw [Option.map_some,Slot.renumbered,Equiv.swap_apply_of_ne_of_ne (Nat.ne_of_lt old)
                (Nat.ne_of_lt (Nat.lt_succ_of_lt old))]

end

theorem commutes (sound : Parted.Sound k.vault)
    (early : ∀ id slot, k.roster.slot? id = some slot → slot.epoch < k.roster.nextEpoch) (now : Instant)
    {one two : Deed τ} (apart : one.id ≠ two.id) : k.Commutes now one two := by
  obtain ⟨m,first⟩ := one.confined k now
  obtain ⟨n,second⟩ := two.confined k now
  obtain ⟨p,later⟩ := two.confined (one.perform k now).2 now
  obtain ⟨q,sooner⟩ := one.confined (two.perform k now).2 now
  obtain ⟨same,own⟩ := Deed.matches (second.agrees sound apart.symm) now
  obtain ⟨same',other⟩ := Deed.matches (first.agrees sound apart) now
  have square : Square one.id two.id k (one.perform k now).2 (two.perform k now).2
      (two.perform (one.perform k now).2 now).2 (one.perform (two.perform k now).2 now).2 :=
    ⟨apart,⟨m,first⟩,⟨n,second⟩,⟨p,later⟩,⟨q,sooner⟩,own,other⟩
  refine ⟨same.symm,same'.symm,square.slots early,?_,square.counter,square.settings⟩
  intro id
  obtain ⟨result,v,w,loads,loads',-⟩ := Parted.loadAlike (sooner.sound (second.sound sound))
    (later.sound (first.sound sound)) (square.cells sound id)
  rw [loads,loads']

end Keeper

end GrantKeeper
