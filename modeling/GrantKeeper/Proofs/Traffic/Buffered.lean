import GrantKeeper.Proofs.Keeper.Due
import GrantKeeper.Proofs.Traffic.Readers

/-! The buffer that the keeper goes by. Minutes from outside count only as far as they are a span,
and those of the settings are cut to a year. Who comes after the settings were made decides by them
at each step, whatever else happens. -/
namespace GrantKeeper
open Time (Instant Span second)
variable {ω τ : Type}

namespace Time

theorem Span.minutesFit {n : Int} (low : shortest.nanos ≤ n * 60 * second)
    (high : n * 60 * second ≤ longest.nanos) : ofMinutes? n = some ⟨n * 60 * second⟩ := by
  simp only [shortest,longest,limitMillis,Text.wordMax,second] at low high
  refine if_pos ?_
  simp only [limitMillis,Text.wordMax]
  omega

theorem Span.minutesBeyond {n : Int}
    (beyond : n * 60 * second < shortest.nanos ∨ longest.nanos < n * 60 * second) : ofMinutes? n = none := by
  simp only [shortest,longest,limitMillis,Text.wordMax,second] at beyond
  refine if_neg ?_
  simp only [limitMillis,Text.wordMax]
  omega

end Time

namespace Keeper

structure AsksMinutes (k : Keeper ω τ) (id : String) (now : Instant) (minutes : Int) : Prop where
  unknown : k.grant? id = none → k.isExpired now id minutes = true
  fits : ∀ g, k.grant? id = some g → Span.shortest.nanos ≤ minutes * 60 * second →
    minutes * 60 * second ≤ Span.longest.nanos →
    k.isExpired now id minutes = g.isExpired now ⟨minutes * 60 * second⟩
  beyond : minutes * 60 * second < Span.shortest.nanos ∨ Span.longest.nanos < minutes * 60 * second →
    k.isExpired now id minutes = true

theorem asksMinutes (k : Keeper ω τ) (id : String) (now : Instant) (minutes : Int) :
    k.AsksMinutes id now minutes where
  unknown absent := by
    unfold isExpired
    rw [absent]
    cases Span.ofMinutes? minutes <;> rfl
  fits g held low high := by
    rw [expiredMinutes held,Span.minutesFit low high,Option.map_some,Option.getD_some]
  beyond far := by
    unfold isExpired
    rw [Span.minutesBeyond far]

def allowed (minutes : Int) : Int := min (max minutes 0) largestBuffer

def allowedSpan (minutes : Int) : Span := ⟨allowed minutes * 60 * second⟩

theorem bufferSet (k : Keeper ω τ) (minutes : Int) : (k.setBuffer minutes).buffer = allowedSpan minutes := by
  have same : ((min minutes.toNat largestBuffer : Nat) : Int) = allowed minutes := by
    unfold allowed
    omega
  unfold buffer setBuffer allowedSpan
  rw [same,Int.mul_comm 60]
  rfl

structure Decides (k : Keeper ω τ) (buffer : Span) : Prop where
  reads : ∀ now id, k.wantsRefresh now id = true ↔
    k.autoRefresh = true ∧ ∃ g, k.grant? id = some g ∧ g.expiresAt.nanos - buffer.nanos ≤ now.nanos
  sweeps : ∀ now id, id ∈ k.staleIds now ↔ id ∈ k.ids ∧ ∃ g, k.grant? id = some g ∧
    g.isRefreshable = true ∧ g.expiresAt.nanos - buffer.nanos ≤ now.nanos

theorem decides {k : Keeper ω τ} {buffer : Span} (same : k.buffer = buffer) : k.Decides buffer := by
  subst same
  refine ⟨fun now id => ?_,fun now id => ?_⟩
  · unfold wantsRefresh
    cases k.grant? id with
    | none => simp
    | some g => simp [Grant.expiredForward k.bufferLong]
  · unfold staleIds
    rw [List.mem_filter]
    cases k.grant? id with
    | none => simp
    | some g => simp [Grant.expiredForward k.bufferLong]

end Keeper

def Errand.shows (buffer : Span) : Errand → Option Span
  | .refresh _ => none
  | .token _ | .sweep .. => some buffer

def Errand.Carries (buffer : Span) : Errand → Prop
  | .sweep _ own _ _ => own = buffer
  | .refresh _ | .token _ => True

def Caller.GoesBy (buffer : Span) : Caller τ → Prop
  | .opening errand within _ | .waiting errand within _ => errand.Carries buffer ∧ within = errand.shows buffer
  | .exchanging errand _ => errand.Carries buffer
  | .reading _ | .finished _ => True

namespace Caller
variable {buffer : Span} {caller : Caller τ}

theorem goesWake (goes : caller.GoesBy buffer) : caller.wake.GoesBy buffer := by
  cases caller <;> exact goes

theorem goesAfter {errand : Errand} (carries : errand.Carries buffer) (result : Except Fault Unit) :
    (after errand result : Caller τ).GoesBy buffer := by
  cases errand with
  | refresh id => trivial
  | token id => trivial
  | sweep id own others done =>
    cases carries
    cases others with
    | nil => trivial
    | cons next others => exact ⟨rfl,rfl⟩

theorem goesStartToken (k : Keeper ω τ) (now : Instant) (id : String) :
    (startToken k now id).GoesBy k.buffer := by
  unfold startToken
  split
  · split
    · exact ⟨trivial,rfl⟩
    · trivial
  · trivial

theorem goesStartSweep (k : Keeper ω τ) (now : Instant) : (startSweep k now).GoesBy k.buffer := by
  unfold startSweep
  split
  · trivial
  · exact ⟨rfl,rfl⟩

theorem goesStep (k : Keeper ω τ) (now : Instant) (goes : caller.GoesBy buffer) :
    (caller.step k now).1.GoesBy buffer := by
  cases caller with
  | opening errand within ticket =>
    simp only [step]
    cases k.openRefresh now errand.id within ticket with
    | mk opened next =>
      cases opened with
      | closed result => exact goesAfter goes.1 result
      | waiting ticket => exact goes
      | exchanging attempt => exact goes.1
  | reading id => trivial
  | _ => exact goes

end Caller

namespace Traffic
variable {t : Traffic ω τ} {buffer : Span} {since : Nat}

structure Bound (t : Traffic ω τ) (buffer : Span) (since : Nat) : Prop where
  keeper : t.keeper.buffer = buffer
  early : since ≤ t.callers.length
  callers : ∀ n caller, since ≤ n → t.callers[n]? = some caller → caller.GoesBy buffer

variable {caller : Caller τ} {k : Keeper ω τ} {now : Instant}

theorem boundEnter (bound : t.Bound buffer since) (goes : caller.GoesBy buffer) :
    (t.enter caller).Bound buffer since where
  keeper := bound.keeper
  early := by
    rw [enter,List.length_append]
    exact Nat.le_add_right_of_le bound.early
  callers n other late there := by
    rw [enter,List.getElem?_append] at there
    split at there
    · exact bound.callers n other late there
    · cases List.mem_singleton.mp (List.mem_of_getElem? there)
      exact goes

theorem boundSet {u : Traffic ω τ} {m : Nat} (bound : t.Bound buffer since) (keeper : u.keeper.buffer = buffer)
    (callers : u.callers = t.callers.set m caller) (goes : since ≤ m → caller.GoesBy buffer) :
    u.Bound buffer since where
  keeper := keeper
  early := by
    rw [callers,List.length_set]
    exact bound.early
  callers n other late there := by
    rw [callers,List.getElem?_set] at there
    split at there
    · rename_i own
      split at there
      · cases Option.some.inj there
        exact goes (own ▸ late)
      · cases there
    · exact bound.callers n other late there

variable [Vault ω]

theorem bufferStep (t : Traffic ω τ) (now : Instant) (e : Event) :
    (t.step now e).keeper.buffer = t.keeper.buffer :=
  bufferSame (Keeper.settingsMoved (t.moves now e))

theorem boundStep (t : Traffic ω τ) (now : Instant) (e : Event) (bound : t.Bound buffer since) :
    (t.step now e).Bound buffer since := by
  have kept : (t.step now e).keeper.buffer = buffer := (t.bufferStep now e).trans bound.keeper
  have stepped := t.steps now e
  generalize t.step now e = u at kept stepped ⊢
  cases stepped with
  | rests => exact bound
  | registers e => exact ⟨kept,bound.early,bound.callers⟩
  | stores id access refresh lifetime => exact ⟨kept,bound.early,bound.callers⟩
  | deletes id => exact ⟨kept,bound.early,bound.callers⟩
  | refreshes id => exact boundEnter bound ⟨trivial,rfl⟩
  | reads id => exact boundEnter bound (bound.keeper ▸ Caller.goesStartToken t.keeper now id)
  | sweeps => exact boundEnter bound (bound.keeper ▸ Caller.goesStartSweep t.keeper now)
  | @advances n caller there moving =>
    exact boundSet bound kept rfl fun late =>
      Caller.goesStep t.keeper now (bound.callers n caller late there)
  | @settles n outcome errand a there =>
    refine boundSet bound kept rfl fun late => ?_
    exact Caller.goesAfter (bound.callers n (.exchanging errand a) late there) _
  | abandons there => exact boundSet bound kept rfl fun _ => trivial
  | stirs m =>
    refine ⟨kept,by rw [List.length_modify]; exact bound.early,fun n caller late there => ?_⟩
    obtain ⟨before,was,same⟩ := stirred there
    have goes := bound.callers n before late was
    rcases same with rfl | rfl
    · exact goes
    · exact Caller.goesWake goes
  | notifies due =>
    refine ⟨kept,by rw [List.length_map]; exact bound.early,fun n caller late there => ?_⟩
    rw [List.getElem?_map] at there
    obtain ⟨before,was,rfl⟩ := Option.map_eq_some_iff.mp there
    exact Caller.goesWake (bound.callers n before late was)

theorem boundRun (bound : t.Bound buffer since) (events : Events) : (t.run events).Bound buffer since :=
  runKeeps boundStep events bound

theorem boundSince (t : Traffic ω τ) (minutes : Int) (events : Events) :
    (({ t with keeper := t.keeper.setBuffer minutes } : Traffic ω τ).run events).Bound
      (Keeper.allowedSpan minutes) t.callers.length := by
  refine boundRun ?_ events
  refine ⟨?_,Nat.le_refl _,?_⟩
  · exact t.keeper.bufferSet minutes
  · intro n caller late there
    rw [List.getElem?_eq_none late] at there
    cases there

end Traffic

/-- A grant has ended, for a buffer, when the clock has reached the point that far before its end,
as integers have it; beyond all instants it has ended, and so it is beyond all spans. The minutes set
for the keeper, cut to a year, are what later callers go by, under any traffic. -/
theorem expiryExact [Vault ω] : (∀ g : Grant, g.EndsExactly) ∧
    (∀ (k : Keeper ω τ) (id : String) (now : Instant) (minutes : Int), k.AsksMinutes id now minutes) ∧
    ∀ (t : Traffic ω τ) (minutes : Int) (events : Events),
      let later := ({ t with keeper := t.keeper.setBuffer minutes } : Traffic ω τ).run events
      later.keeper.buffer = Keeper.allowedSpan minutes ∧ later.keeper.Decides (Keeper.allowedSpan minutes) ∧
        ∀ n caller, t.callers.length ≤ n → later.callers[n]? = some caller →
          caller.GoesBy (Keeper.allowedSpan minutes) := by
  refine ⟨Grant.endsExactly,Keeper.asksMinutes,?_⟩
  intro t minutes events later
  have bound := t.boundSince minutes events
  exact ⟨bound.keeper,Keeper.decides bound.keeper,bound.callers⟩

theorem expiryOfLongest :
    let g := Grant.issued .epoch "A" "R" 3600
    let k := (Sample.keeper.register Sample.enrollment).2
    let t := Traffic.start Sample.keeper
    let later := ({ t with keeper := t.keeper.setBuffer 9223372036854775807 } : Traffic _ Unit).run
      (Sample.atOnce (Sample.arrival ++ [.token "a"]))
    g.isExpired .epoch .longest = true ∧
    (g.isExpired .epoch ⟨-1⟩ = true ↔ 3600000000001 ≤ (0 : Int)) ∧
    k.isExpired .epoch "a" 9223372036854775807 = true ∧
    k.isExpired .epoch "a" (-5) = Grant.absent.isExpired .epoch ⟨-300000000000⟩ ∧
    ∃ caller, later.callers[0]? = some caller ∧ caller.GoesBy ⟨525600 * 60 * second⟩ := by
  intro g k t later
  obtain ⟨ends,asks,follows⟩ := expiryExact (ω := Vault.Memory) (τ := Unit)
  refine ⟨(ends g).outside (.inl (by decide)),(ends g).inside (by decide) (by decide),?_,?_,?_⟩
  · exact (asks k "a" .epoch 9223372036854775807).beyond (.inr (by decide))
  · exact (asks k "a" .epoch (-5)).fits .absent rfl (by decide) (by decide)
  · have year : Keeper.allowedSpan 9223372036854775807 = ⟨525600 * 60 * second⟩ := by decide
    have came : later.callers[0]?.isSome = true := by decide +kernel
    obtain ⟨caller,there⟩ := Option.isSome_iff_exists.mp came
    exact ⟨caller,there,year ▸ (follows t 9223372036854775807 _).2.2 0 caller (Nat.le_refl 0) there⟩

end GrantKeeper
