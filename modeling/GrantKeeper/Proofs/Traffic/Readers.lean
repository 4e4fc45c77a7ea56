import GrantKeeper.Proofs.Keeper.Due
import GrantKeeper.Proofs.Traffic.Bystanders

/-! Readers of one stale token. The first of them to open begins an exchange. The others
wait for it, or come so late that they find its grant. -/
namespace GrantKeeper
open Time (Instant Span)
variable {ω τ : Type}

def Event.onlyReads (id : String) : Event → Bool
  | .register e => e.id != id
  | .storeTokens other .. | .delete other | .refresh other => other != id
  | .sweep => false
  | _ => true

inductive Stage
  | unread
  | led (n : Nat)
  | renewed (g : Grant)

namespace Stage

def given? : Stage → Option Grant
  | .renewed g => some g
  | _ => none

def begun : Stage → Nat
  | .unread => 0
  | _ => 1

def slot (old : Slot) : Stage → Slot
  | .unread => old
  | .led _ => { old with inFlight := true }
  | .renewed g =>
    let ended := Keeper.endExchange old true
    { ended with account := { ended.account with grant := g } }

def Timely (old : Slot) (buffer : Span) (now : Instant) : Stage → Prop
  | .renewed g => g.valid = true ∧ g.isExpired now buffer = false
  | _ => old.account.grant.isExpired now buffer = true

end Stage

inductive Reader (id : String) (old : Slot) (buffer : Span) : Stage → Nat → Caller τ → Prop
  | looked {stage n} : Reader id old buffer stage n (.opening (.token id) (some buffer) none)
  | waits {stage n} (begun : stage.begun = 1) :
      Reader id old buffer stage n (.waiting (.token id) (some buffer) ⟨old.epoch,old.ended⟩)
  | woken {stage n} (begun : stage.begun = 1) :
      Reader id old buffer stage n (.opening (.token id) (some buffer) (some ⟨old.epoch,old.ended⟩))
  | leads {n a} (own : a.id = id) (epoch : a.epoch = old.epoch) (previous : a.previous = old.account.grant) :
      Reader id old buffer (.led n) n (.exchanging (.token id) a)
  | reads {g n} : Reader id old buffer (.renewed g) n (.reading id)
  | done {g n} : Reader id old buffer (.renewed g) n (.finished (.token (some g.access)))

theorem readerWake {id : String} {old : Slot} {buffer : Span} {stage : Stage} {n : Nat} {caller : Caller τ}
    (reader : Reader id old buffer stage n caller) : Reader id old buffer stage n caller.wake := by
  cases reader with
  | waits begun => exact .woken begun
  | looked => exact .looked
  | woken begun => exact .woken begun
  | leads own epoch previous => exact .leads own epoch previous
  | reads => exact .reads
  | done => exact .done

namespace Keeper

theorem settingsMoved [Vault ω] {k next : Keeper ω τ} {now : Instant} {e : Event}
    (moved : Traffic.Moves k now e next) : next.settings = k.settings := by
  cases moved with
  | register e =>
    have registered := k.registers e
    generalize k.register e = result at registered ⊢
    cases registered <;> rfl
  | storeTokens id access refresh lifetime =>
    have stored := k.stores now id access refresh lifetime
    generalize k.storeTokens now id access refresh lifetime = result at stored ⊢
    cases stored <;> rfl
  | delete id => rfl
  | opens n id within ticket =>
    have opened := k.opens now id within ticket
    generalize k.openRefresh now id within ticket = result at opened ⊢
    cases opened <;> rfl
  | settle n outcome a =>
    have settled := k.settles now a outcome
    generalize k.settle now a outcome = result at settled ⊢
    cases settled <;> rfl
  | abandon n a =>
    have ended := k.abandons a
    generalize k.abandon a = next at ended ⊢
    cases ended <;> rfl
  | stays e => rfl

end Keeper

namespace Traffic

def endsFor (t : Traffic ω τ) (id : String) : Event → Bool
  | .settle n _ | .abandon n => (t.attemptOf? n).any (·.2.id == id)
  | _ => false

def arrives (t : Traffic ω τ) (id : String) : Event → List Nat
  | .token other => if other = id then [t.callers.length] else []
  | _ => []

def Placed (id : String) (old : Slot) (buffer : Span) (stage : Stage) (mine : List Nat) (n : Nat)
    (caller : Caller τ) : Prop :=
  n ∈ mine ∧ Reader id old buffer stage n caller ∨ n ∉ mine ∧ caller.minds id = false

structure Sharing (k : Keeper ω τ) (base : Nat) (id : String) (old : Slot) (stage : Stage)
    (mine : List Nat) (t : Traffic ω τ) : Prop where
  settings : t.keeper.settings = k.settings
  slot : t.keeper.roster.slot? id = some (stage.slot old)
  begun : t.begunFor id = base + stage.begun
  known : ∀ n ∈ mine, n < t.callers.length
  placed : ∀ n caller, t.callers[n]? = some caller → Placed id old k.buffer stage mine n caller

variable {k : Keeper ω τ} {base : Nat} {id : String} {old : Slot} {stage next : Stage} {mine : List Nat}
  {t u : Traffic ω τ} {n : Nat} {caller : Caller τ} {now first : Instant}

theorem sharingKept (h : t.Sharing k base id old stage mine) (callers : u.callers = t.callers)
    (begun : u.begun = t.begun) (settings : u.keeper.settings = t.keeper.settings)
    (slot : u.keeper.roster.slot? id = t.keeper.roster.slot? id) :
    u.Sharing k base id old stage mine where
  settings := settings.trans h.settings
  slot := slot.trans h.slot
  begun := by
    rw [begunFor,begun]
    exact h.begun
  known := by
    rw [callers]
    exact h.known
  placed := by
    rw [callers]
    exact h.placed

theorem sharingSet (h : t.Sharing k base id old stage mine) (settings : u.keeper.settings = t.keeper.settings)
    (slot : u.keeper.roster.slot? id = some (next.slot old)) (begun : u.begunFor id = base + next.begun)
    (callers : u.callers = t.callers.set n caller)
    (onward : ∀ m (other : Caller τ), m ≠ n → Reader id old k.buffer stage m other →
      Reader id old k.buffer next m other)
    (own : Placed id old k.buffer next mine n caller) : u.Sharing k base id old next mine where
  settings := settings.trans h.settings
  slot := slot
  begun := begun
  known := by
    rw [callers,List.length_set]
    exact h.known
  placed m other there := by
    rw [callers,List.getElem?_set] at there
    split at there
    · rename_i same
      subst same
      split at there
      · cases there
        exact own
      · cases there
    · rename_i apart
      rcases h.placed m other there with ⟨member,reader⟩ | bystands
      · exact .inl ⟨member,onward m other (Ne.symm apart) reader⟩
      · exact .inr bystands

theorem sharingEnter (h : t.Sharing k base id old stage mine) {new : List Nat}
    (place : ∀ n ∈ new, n = t.callers.length)
    (own : Placed id old k.buffer stage new t.callers.length caller) :
    (t.enter caller).Sharing k base id old stage (mine ++ new) where
  settings := h.settings
  slot := h.slot
  begun := h.begun
  known m member := by
    rw [enter,List.length_append,List.length_singleton]
    rcases List.mem_append.mp member with before | last
    · exact Nat.lt_succ_of_lt (h.known m before)
    · rw [place m last]
      exact Nat.lt_succ_self _
  placed m other there := by
    unfold Placed
    rw [List.mem_append]
    by_cases before : m < t.callers.length
    · have outside : m ∉ new := fun member => Nat.ne_of_lt before (place m member)
      simp only [outside,or_false]
      exact h.placed m other ((List.getElem?_append_left before).symm.trans there)
    · have bound := (List.getElem?_eq_some_iff.mp there).1
      rw [enter,List.length_append,List.length_singleton] at bound
      have last : m = t.callers.length := by omega
      subst last
      have outside : t.callers.length ∉ mine := fun member => before (h.known _ member)
      simp only [outside,false_or]
      rw [enter,List.getElem?_append_right (Nat.le_refl _),Nat.sub_self] at there
      cases there
      exact own

theorem placedWake (placed : Placed id old k.buffer stage mine n caller) :
    Placed id old k.buffer stage mine n caller.wake := by
  rcases placed with ⟨member,reader⟩ | ⟨outside,apart⟩
  · exact .inl ⟨member,readerWake reader⟩
  · exact .inr ⟨outside,(Caller.mindsWake ..).trans apart⟩

theorem sharingWoken (h : t.Sharing k base id old stage mine) {callers : List (Caller τ)} {notices : Nat}
    (length : callers.length = t.callers.length)
    (woken : ∀ (n : Nat) (caller : Caller τ), callers[n]? = some caller → ∃ before : Caller τ,
      t.callers[n]? = some before ∧ (caller = before ∨ caller = before.wake)) :
    Sharing k base id old stage mine { t with callers, notices } where
  settings := h.settings
  slot := h.slot
  begun := h.begun
  known n member := length ▸ h.known n member
  placed n caller there := by
    change callers[n]? = some caller at there
    obtain ⟨before,was,rfl | rfl⟩ := woken n caller there
    · exact h.placed n _ was
    · exact placedWake (h.placed n _ was)

theorem sharingStays (h : t.Sharing k base id old stage mine)
    (settings : u.keeper.settings = t.keeper.settings)
    (slot : u.keeper.roster.slot? id = t.keeper.roster.slot? id) (begun : u.begunFor id = t.begunFor id)
    (callers : u.callers = t.callers.set n caller) (own : Placed id old k.buffer stage mine n caller) :
    u.Sharing k base id old stage mine :=
  sharingSet h settings (slot.trans h.slot) (begun.trans h.begun) callers (fun _ _ _ reader => reader) own

theorem bufferSame (same : t.keeper.settings = k.settings) : t.keeper.buffer = k.buffer := by
  simp only [Keeper.settings,Prod.mk.injEq] at same
  rw [Keeper.buffer,same.2.2]
  rfl

theorem dueUnread (due : k.Due id old first) (h : t.Sharing k base id old .unread mine)
    (timely : Stage.unread.Timely old k.buffer now) : t.keeper.Due id old now where
  found := h.slot
  idle := due.idle
  refreshable := due.refreshable
  served := by
    have same : t.keeper.strategies = k.strategies := congrArg (·.1) h.settings
    exact same ▸ due.served
  automatic := (congrArg (·.2.1) h.settings).trans due.automatic
  stale := (bufferSame h.settings).symm ▸ timely

theorem sharingBegins (due : k.Due id old first) (h : t.Sharing k base id old .unread mine)
    (timely : Stage.unread.Timely old k.buffer now) (member : n ∈ mine) :
    (t.advance n (Caller.step t.keeper now (.opening (.token id) (some k.buffer) none))).Sharing
      k base id old (.led n) mine := by
  obtain ⟨strategy,opened⟩ := Keeper.openDue (dueUnread due h timely)
  rw [bufferSame h.settings] at opened
  simp only [Caller.step,Errand.id,opened]
  refine sharingSet h rfl ?_ ?_ rfl ?_ (.inl ⟨member,.leads rfl rfl rfl⟩)
  · exact (Roster.slotPut ..).trans (if_pos rfl)
  · rw [begunOwn (by rfl) (by rfl),h.begun]
    rfl
  · -- nobody has waited yet, there was nothing to wait for
    intro m other _ reader
    cases reader with
    | looked => exact .looked
    | waits begun => cases begun
    | woken begun => cases begun

theorem sharingWaits {leader : Nat} (h : t.Sharing k base id old (.led leader) mine)
    {ticket : Option Ticket} (mark : ticket.getD ⟨old.epoch,old.ended⟩ = ⟨old.epoch,old.ended⟩)
    (member : n ∈ mine) :
    (t.advance n (Caller.step t.keeper now (.opening (.token id) (some k.buffer) ticket))).Sharing
      k base id old (.led leader) mine := by
  have opened := Keeper.openFlight h.slot rfl now (some k.buffer) ticket
  simp only [Caller.step,Errand.id,opened]
  refine sharingStays h rfl rfl (begunFree rfl id) rfl (.inl ⟨member,?_⟩)
  change Reader id old k.buffer _ n (.waiting _ _ (ticket.getD ⟨old.epoch,old.ended⟩))
  rw [mark]
  exact .waits rfl

theorem sharingReads {g : Grant} (h : t.Sharing k base id old (.renewed g) mine)
    (timely : (Stage.renewed g).Timely old k.buffer now) (ticket : Option Ticket) (member : n ∈ mine) :
    (t.advance n (Caller.step t.keeper now (.opening (.token id) (some k.buffer) ticket))).Sharing
      k base id old (.renewed g) mine := by
  have opened := Keeper.openFresh h.slot rfl rfl timely.2 ticket
  simp only [Caller.step,Errand.id,opened]
  exact sharingStays h rfl rfl (begunFree rfl id) rfl (.inl ⟨member,.reads⟩)

theorem sharingDone {g : Grant} (h : t.Sharing k base id old (.renewed g) mine)
    (timely : (Stage.renewed g).Timely old k.buffer now) (member : n ∈ mine) :
    (t.advance n (Caller.step t.keeper now (.reading id))).Sharing k base id old (.renewed g) mine := by
  have token : t.keeper.usableToken? now id = some g.access := by
    have usable := Grant.usableCurrent timely.1 k.bufferLong timely.2
    have held : t.keeper.grant? id = some g := by
      rw [Keeper.grant?,Roster.grant?,h.slot]
      rfl
    rw [Keeper.usableToken?,held]
    exact if_pos usable
  simp only [Caller.step,token]
  exact sharingStays h rfl rfl (begunFree rfl id) rfl (.inl ⟨member,.done⟩)

theorem timelyStale (due : k.Due id old first) (ungiven : stage.given? = none) (later : first ≤ now) :
    stage.Timely old k.buffer now := by
  cases stage with
  | renewed g => cases ungiven
  | _ => exact Grant.expiredLater due.stale later

theorem readerArrives (due : k.Due id old first) (h : t.Sharing k base id old stage mine)
    (timely : stage.Timely old k.buffer now) (n : Nat) :
    Reader id old k.buffer stage n (Caller.startToken t.keeper now id) := by
  have buffer := bufferSame h.settings
  have known : t.keeper.knows id = true := by
    rw [Keeper.knows,h.slot]
    rfl
  have automatic : t.keeper.autoRefresh = true := (congrArg (·.2.1) h.settings).trans due.automatic
  have wants : t.keeper.wantsRefresh now id = (stage.slot old).account.grant.isExpired now k.buffer := by
    rw [Keeper.wantsRefresh,Keeper.grant?,Roster.grant?,h.slot,automatic,buffer]
    rfl
  rw [Caller.startToken,if_pos known,wants,buffer]
  cases stage with
  | renewed g =>
    rw [if_neg]
    · exact .reads
    · exact Bool.eq_false_iff.mp timely.2
  | _ =>
    rw [if_pos]
    · exact .looked
    · exact timely

theorem bystanderEnds (h : t.Sharing k base id old stage mine) {errand : Errand} {a : Attempt τ}
    (there : t.callers[n]? = some (.exchanging errand a))
    (unended : (t.attemptOf? n).any (·.2.id == id) = false) :
    n ∉ mine ∧ errand.minds id = false ∧ a.id ≠ id := by
  rw [attemptOf?,there] at unended
  have other : a.id ≠ id := beq_eq_false_iff_ne.mp unended
  rcases h.placed n _ there with ⟨-,reader⟩ | ⟨outside,apart⟩
  · cases reader with
    | leads own => exact absurd own other
  · exact ⟨outside,(Bool.or_eq_false_iff.mp apart).1,other⟩

theorem sharingProceed (due : k.Due id old first) (h : t.Sharing k base id old stage mine)
    (timely : stage.Timely old k.buffer now) (there : t.callers[n]? = some caller)
    (moving : caller.rests = false)
    (settings : (caller.step t.keeper now).2.settings = t.keeper.settings) :
    ∃ next : Stage, next.given? = stage.given? ∧
      (t.advance n (caller.step t.keeper now)).Sharing k base id old next mine := by
  rcases h.placed n caller there with ⟨member,reader⟩ | ⟨outside,apart⟩
  · cases reader with
    | looked =>
      cases stage with
      | unread => exact ⟨.led n,rfl,sharingBegins due h timely member⟩
      | led leader => exact ⟨.led leader,rfl,sharingWaits h rfl member⟩
      | renewed g => exact ⟨.renewed g,rfl,sharingReads h timely none member⟩
    | woken begun =>
      cases stage with
      | unread => cases begun
      | led leader => exact ⟨.led leader,rfl,sharingWaits h rfl member⟩
      | renewed g => exact ⟨.renewed g,rfl,sharingReads h timely _ member⟩
    | @reads g => exact ⟨.renewed g,rfl,sharingDone h timely member⟩
    | _ => cases moving
  · obtain ⟨still,kept⟩ := Caller.mindsStep apart t.keeper now
    exact ⟨stage,rfl,sharingStays h settings kept (begunApart still) rfl (.inr ⟨outside,still⟩)⟩

theorem sharingArrives (due : k.Due id old first) (h : t.Sharing k base id old stage mine)
    (timely : stage.Timely old k.buffer now) :
    (t.enter (.startToken t.keeper now id)).Sharing k base id old stage (mine ++ t.arrives id (.token id)) := by
  rw [arrives,if_pos rfl]
  refine sharingEnter h (fun n member => List.mem_singleton.mp member) (.inl ⟨List.mem_singleton_self _,?_⟩)
  exact readerArrives due h timely _

theorem arrivesNone {e : Event} (other : e ≠ .token id) : t.arrives id e = [] := by
  cases e with
  | token reads => exact if_neg fun same => other (congrArg Event.token same)
  | _ => rfl

variable [Vault ω]

theorem sharingOther (due : k.Due id old first) (h : t.Sharing k base id old stage mine)
    (timely : stage.Timely old k.buffer now) {e : Event} (other : e ≠ .token id)
    (reads : e.onlyReads id = true) (unended : t.endsFor id e = false) :
    ∃ next : Stage, next.given? = stage.given? ∧ (t.step now e).Sharing k base id old next mine := by
  have entered : ∀ {caller : Caller τ}, caller.minds id = false →
      (t.enter caller).Sharing k base id old stage mine := by
    intro caller apart
    have entered : (t.enter caller).Sharing k base id old stage (mine ++ []) :=
      sharingEnter h nofun (.inr ⟨nofun,apart⟩)
    rwa [List.append_nil] at entered
  have settings := Keeper.settingsMoved (t.moves now e)
  have stepped := t.steps now e
  generalize t.step now e = u at settings stepped ⊢
  cases stepped with
  | rests => exact ⟨stage,rfl,h⟩
  | registers e => exact ⟨stage,rfl,sharingKept h rfl rfl settings (Keeper.registerApart (bne_iff_ne.mp reads))⟩
  | stores account access refresh lifetime =>
    have apart : account ≠ id := bne_iff_ne.mp reads
    exact ⟨stage,rfl,sharingKept h rfl rfl settings (Keeper.storeApart apart ..)⟩
  | deletes account =>
    have apart : account ≠ id := bne_iff_ne.mp reads
    exact ⟨stage,rfl,sharingKept h rfl rfl settings ((Keeper.deleteSlot ..).trans (if_neg apart))⟩
  | refreshes account => exact ⟨stage,rfl,entered (beq_eq_false_iff_ne.mpr (bne_iff_ne.mp reads))⟩
  | reads account =>
    have apart : account ≠ id := fun same => other (congrArg Event.token same)
    exact ⟨stage,rfl,entered (Caller.mindsStartToken apart ..)⟩
  | sweeps => cases reads
  | advances there moving => exact sharingProceed due h timely there moving settings
  | settles there =>
    obtain ⟨outside,errands,apart⟩ := bystanderEnds h there unended
    exact ⟨stage,rfl,sharingStays h settings (Keeper.settleApart apart ..) rfl rfl
      (.inr ⟨outside,Caller.mindsAfter errands _⟩)⟩
  | abandons there =>
    obtain ⟨outside,-,apart⟩ := bystanderEnds h there unended
    exact ⟨stage,rfl,sharingStays h settings (Keeper.abandonApart apart) rfl rfl (.inr ⟨outside,rfl⟩)⟩
  | stirs n => exact ⟨stage,rfl,sharingWoken h (List.length_modify ..) fun _ _ => stirred⟩
  | notifies due =>
    refine ⟨stage,rfl,sharingWoken h (List.length_map ..) ?_⟩
    intro m caller there
    rw [List.getElem?_map] at there
    obtain ⟨before,was,same⟩ := Option.map_eq_some_iff.mp there
    exact ⟨before,was,.inr same.symm⟩

theorem sharingStep (due : k.Due id old first) (h : t.Sharing k base id old stage mine)
    (timely : stage.Timely old k.buffer now) {e : Event} (reads : e.onlyReads id = true)
    (unended : t.endsFor id e = false) : ∃ next : Stage, next.given? = stage.given? ∧
      (t.step now e).Sharing k base id old next (mine ++ t.arrives id e) := by
  by_cases arrival : e = .token id
  · subst arrival
    exact ⟨stage,rfl,sharingArrives due h timely⟩
  · rw [arrivesNone arrival,List.append_nil]
    exact sharingOther due h timely arrival reads unended

end Traffic

end GrantKeeper
