import GrantKeeper.Proofs.Grant.Expiry
import GrantKeeper.Proofs.Keeper.Outcomes

/-! What it comes to when a reader of a token opens an exchange: before anybody has begun one,
while one is in flight, and after one that gave a fresh grant. -/
namespace GrantKeeper.Keeper
open Time (Instant Span)
variable {ω τ : Type}

def settings (k : Keeper ω τ) : Exchange.Strategies τ × Bool × Nat :=
  (k.strategies,k.autoRefresh,k.bufferMinutes)

theorem bufferNanos (k : Keeper ω τ) : k.buffer.nanos = 60 * k.bufferMinutes * Time.second := rfl

theorem bufferLong (k : Keeper ω τ) : 0 ≤ k.buffer.nanos := by
  rw [bufferNanos]
  unfold Time.second
  omega

theorem minutesOfBuffer {k : Keeper ω τ} {buffer : Span}
    (whole : Span.ofMinutes? k.bufferMinutes = some buffer) : buffer = k.buffer := by
  unfold Span.ofMinutes? at whole
  split at whole
  · cases Option.some.inj whole
    rw [Int.mul_comm (k.bufferMinutes : Int)]
    rfl
  · cases whole

theorem bufferEndless {k : Keeper ω τ} (endless : Span.ofMinutes? k.bufferMinutes = none) (g : Grant)
    (now : Instant) : g.isExpired now k.buffer = true := by
  cases expired : g.isExpired now k.buffer with
  | true => rfl
  | false =>
    obtain ⟨-,before⟩ := Grant.currentIff.mp expired
    have lower := now.lower
    have upper := g.expiresAt.upper
    unfold Span.ofMinutes? at endless
    split at endless
    · cases endless
    · rename_i long
      rw [bufferNanos] at before
      simp only [Span.limitMillis,Text.wordMax] at long
      simp only [Time.earliest,Time.latest,Time.earliestSecond,Time.latestSecond,Time.second] at *
      omega

theorem expiredMinutes {k : Keeper ω τ} {id : String} {g : Grant} (held : k.grant? id = some g)
    (now : Instant) (minutes : Int) :
    k.isExpired now id minutes = ((Span.ofMinutes? minutes).map (g.isExpired now)).getD true := by
  unfold isExpired
  rw [held]
  cases Span.ofMinutes? minutes <;> rfl

theorem expiredBuffer {k : Keeper ω τ} {id : String} {g : Grant} (held : k.grant? id = some g)
    (now : Instant) : k.isExpired now id k.bufferMinutes = g.isExpired now k.buffer := by
  rw [expiredMinutes held]
  cases whole : Span.ofMinutes? k.bufferMinutes with
  | some buffer => rw [minutesOfBuffer whole,Option.map_some,Option.getD_some]
  | none => rw [bufferEndless whole,Option.map_none,Option.getD_none]

structure Due (k : Keeper ω τ) (id : String) (slot : Slot) (now : Instant) : Prop where
  found : k.roster.slot? id = some slot
  idle : slot.inFlight = false
  refreshable : slot.account.grant.isRefreshable = true
  served : ∃ strategy, k.strategies.get? slot.account.enrollment.provider = some strategy
  automatic : k.autoRefresh = true
  stale : slot.account.grant.isExpired now k.buffer = true

variable {k : Keeper ω τ} {id : String} {slot : Slot} {now : Instant}

theorem openServed (found : k.roster.slot? id = some slot) (idle : slot.inFlight = false)
    (refreshable : slot.account.grant.isRefreshable = true) {strategy : τ}
    (served : k.strategies.get? slot.account.enrollment.provider = some strategy) {buffer : Span}
    (stale : slot.account.grant.isExpired now buffer = true) : k.openRefresh now id (some buffer) none =
    (.exchanging ⟨id,slot.epoch,slot.account.grant,slot.account.enrollment.clientId,
      slot.account.enrollment.clientSecret,strategy⟩,
    { k with roster := k.roster.put id { slot with inFlight := true } }) := by
  simp [openRefresh,found,joinedResult?,idle,stale,served,refreshable]

theorem openDue (due : k.Due id slot now) : ∃ strategy, k.openRefresh now id (some k.buffer) none =
    (.exchanging ⟨id,slot.epoch,slot.account.grant,slot.account.enrollment.clientId,
      slot.account.enrollment.clientSecret,strategy⟩,
    { k with roster := k.roster.put id { slot with inFlight := true } }) := by
  obtain ⟨strategy,served⟩ := due.served
  exact ⟨strategy,openServed due.found due.idle due.refreshable served due.stale⟩

theorem openFlight (found : k.roster.slot? id = some slot) (flight : slot.inFlight = true) (now : Instant)
    (within : Option Span) (ticket : Option Ticket) :
    k.openRefresh now id within ticket = (.waiting (ticket.getD ⟨slot.epoch,slot.ended⟩),k) := by
  have apart : joinedResult? slot id ticket = none := by
    unfold joinedResult?
    cases ticket with
    | none => rfl
    | some ticket => simp [flight]
  simp [openRefresh,found,apart,flight]

theorem openFresh (found : k.roster.slot? id = some slot) (idle : slot.inFlight = false)
    (succeeded : slot.lastSucceeded = true) {buffer : Span}
    (fresh : slot.account.grant.isExpired now buffer = false) (ticket : Option Ticket) :
    k.openRefresh now id (some buffer) ticket = (.closed (.ok ()),k) := by
  cases shared : joinedResult? slot id ticket with
  | none => simp [openRefresh,found,shared,idle,fresh]
  | some result =>
    have ok : result = .ok () := by
      unfold joinedResult? at shared
      cases ticket with
      | none => cases shared
      | some ticket =>
        simp only [succeeded,if_true,Option.ite_none_right_eq_some,Option.some.injEq] at shared
        exact shared.2.symm
    simp [openRefresh,found,shared,ok]

theorem openAlike {l : Keeper ω τ} (slot : k.roster.slot? id = l.roster.slot? id) (settings : k.settings = l.settings)
    (now : Instant) (within : Option Span) (ticket : Option Ticket) :
    (k.openRefresh now id within ticket).1 = (l.openRefresh now id within ticket).1 ∧
      ((k.openRefresh now id within ticket).2 = k ∧ (l.openRefresh now id within ticket).2 = l ∨
        ∃ begun, (k.openRefresh now id within ticket).2 = { k with roster := k.roster.put id begun } ∧
          (l.openRefresh now id within ticket).2 = { l with roster := l.roster.put id begun }) := by
  obtain ⟨v,r,strategies,auto,minutes⟩ := k
  obtain ⟨w,q,strategies',auto',minutes'⟩ := l
  cases settings
  unfold openRefresh
  simp only at slot ⊢
  rw [slot]
  cases q.slot? id with
  | none => exact ⟨rfl,.inl ⟨rfl,rfl⟩⟩
  | some slot =>
    simp only
    split
    · exact ⟨rfl,.inl ⟨rfl,rfl⟩⟩
    · split
      · exact ⟨rfl,.inl ⟨rfl,rfl⟩⟩
      · split
        · exact ⟨rfl,.inl ⟨rfl,rfl⟩⟩
        · split
          · exact ⟨rfl,.inl ⟨rfl,rfl⟩⟩
          · split
            · exact ⟨rfl,.inr ⟨_,rfl,rfl⟩⟩
            · exact ⟨rfl,.inl ⟨rfl,rfl⟩⟩

end GrantKeeper.Keeper
