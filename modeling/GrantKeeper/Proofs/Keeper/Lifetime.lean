import GrantKeeper.Proofs.Grant.Expiry
import GrantKeeper.Proofs.Grant.Sound
import GrantKeeper.Proofs.Keeper.Outcomes
import GrantKeeper.Proofs.Traffic.Basic

/-! The seconds that a grant is said to have left, against its expiry. They are cut toward zero, so
that within a second of the end they are zero on both sides of it. -/
namespace GrantKeeper
open Time (Instant Span second latest)

namespace Time

theorem Span.secondsAhead {d : Span} (ahead : 0 ≤ d.nanos) : d.seconds = d.nanos / second :=
  Int.tdiv_eq_ediv_of_nonneg ahead

theorem Span.secondsBehind {d : Span} (behind : d.nanos ≤ 0) : d.seconds = -(-d.nanos / second) := by
  have turned : d.seconds = -(-d.nanos).tdiv second := by
    rw [Int.neg_tdiv,Int.neg_neg]
    rfl
  rw [turned,Int.tdiv_eq_ediv_of_nonneg (by omega)]

theorem Span.secondsAtMost {d : Span} {n : Int} (short : d.nanos ≤ n * second) : d.seconds ≤ n := by
  have cut := Int.tdiv_le_tdiv (by decide : 0 < second) short
  rwa [Int.mul_tdiv_cancel _ (by decide)] at cut

theorem Span.secondsAtLeast {d : Span} {n : Int} (long : n * second ≤ d.nanos) : n ≤ d.seconds :=
  Int.le_tdiv_of_mul_le (by decide) long

theorem Instant.sinceFits (t u : Instant) :
    Span.shortest.nanos ≤ (t.since u).nanos ∧ (t.since u).nanos ≤ Span.longest.nanos := by
  have bounds := And.intro (And.intro t.lower t.upper) (And.intro u.lower u.upper)
  simp only [since,Span.shortest,Span.longest,Span.limitMillis,Text.wordMax]
  simp only [earliest,latest,earliestSecond,latestSecond,second] at bounds
  omega

end Time

namespace Grant
variable {g : Grant} {now : Instant}

structure CountsDown (g : Grant) (now : Instant) : Prop where
  fits : Span.shortest.nanos ≤ (g.expiresAt.since now).nanos ∧
    (g.expiresAt.since now).nanos ≤ Span.longest.nanos
  word : Text.inWord (g.lifetime now) = true
  positive : 0 < g.lifetime now → g.isExpired now .zero = false
  negative : g.lifetime now < 0 → g.isExpired now .zero = true
  whole : now.floorSecond = now → g.expiresAt.floorSecond = g.expiresAt →
    (g.isExpired now .zero = true ↔ g.lifetime now ≤ 0)

theorem endedIff : g.isExpired now .zero = true ↔ g.expiresAt.nanos ≤ now.nanos := by
  have none : Span.zero.nanos = 0 := rfl
  rw [expiredForward (Int.le_of_eq none.symm),none,Int.sub_zero]

theorem countsDown (g : Grant) (now : Instant) : g.CountsDown now := by
  have fits := g.expiresAt.sinceFits now
  have ahead : 0 ≤ g.expiresAt.nanos - now.nanos →
      g.lifetime now = (g.expiresAt.nanos - now.nanos) / second := Span.secondsAhead
  have behind : g.expiresAt.nanos - now.nanos ≤ 0 →
      g.lifetime now = -(-(g.expiresAt.nanos - now.nanos) / second) := Span.secondsBehind
  unfold second at ahead behind
  refine ⟨fits,?_,?_,?_,?_⟩
  · change _ ≤ g.expiresAt.nanos - now.nanos ∧ g.expiresAt.nanos - now.nanos ≤ _ at fits
    simp only [Span.shortest,Span.longest,Span.limitMillis,Text.wordMax] at fits
    simp only [Text.inWord,Bool.and_eq_true,decide_eq_true_eq]
    simp only [Text.wordMin,Text.wordMax]
    omega
  · intro positive
    rw [← Bool.not_eq_true,endedIff]
    omega
  · intro negative
    rw [endedIff]
    omega
  · intro clock ending
    have clockSecond : now.seconds * second = now.nanos := congrArg Instant.nanos clock
    have endSecond : g.expiresAt.seconds * second = g.expiresAt.nanos := congrArg Instant.nanos ending
    unfold second at clockSecond endSecond
    rw [endedIff]
    omega

end Grant

namespace Keeper
variable {ω τ : Type} [Vault ω] {k next : Keeper ω τ} {stored now : Instant} {id access refresh : String}
  {lifetime : Int}

theorem storedGrant (ok : k.storeTokens stored id access refresh lifetime = (.ok (),next)) :
    ∃ g, next.grant? id = some g ∧ g.expiresAt = Grant.expiryAfter stored.floorSecond lifetime := by
  have came := k.stores stored id access refresh lifetime
  rw [ok] at came
  cases came with
  | @saved slot vault found save =>
    refine ⟨{ Grant.issued stored access refresh lifetime with scope := slot.account.grant.scope },?_,rfl⟩
    simp [grant?,Roster.grant?,Roster.setGrant,Roster.slotPut]

theorem storedLifetime (ok : k.storeTokens stored id access refresh lifetime = (.ok (),next)) (now : Instant) :
    next.lifetime now id = ((Grant.expiryAfter stored.floorSecond lifetime).since now).seconds := by
  obtain ⟨g,held,ends⟩ := storedGrant ok
  rw [Keeper.lifetime,held,← ends]
  rfl

end Keeper

theorem lifetimeAgrees {ω τ : Type} [Vault ω] : (∀ (g : Grant) (now : Instant), g.CountsDown now) ∧
    ∀ (k next : Keeper ω τ) (stored : Instant) (id access refresh : String) (lifetime : Int),
      k.storeTokens stored id access refresh lifetime = (.ok (),next) →
      (∀ now, stored ≤ now → next.lifetime now id ≤ min (max lifetime 0) Grant.longestLifetime) ∧
      (stored.nanos + min (max lifetime 0) Grant.longestLifetime * second ≤ latest →
        min (max lifetime 0) Grant.longestLifetime - 1 ≤ next.lifetime stored id) := by
  refine ⟨Grant.countsDown,?_⟩
  intro k next stored id access refresh lifetime ok
  have clamped : min (max lifetime 0) Grant.longestLifetime = Grant.clampLifetime lifetime := by
    have long : (0 : Int) ≤ Grant.longestLifetime := by decide
    unfold Grant.clampLifetime
    omega
  have ends := Grant.ends stored.floorSecond lifetime
  have early : stored.floorSecond.nanos ≤ stored.nanos := Instant.secondsBelow stored.nanos
  rw [clamped]
  refine ⟨?_,?_⟩
  · intro now later
    rw [Keeper.storedLifetime ok]
    refine Span.secondsAtMost ?_
    change (Grant.expiryAfter stored.floorSecond lifetime).nanos - now.nanos ≤ _
    change stored.nanos ≤ now.nanos at later
    have long := Grant.lifetimeLong lifetime
    by_cases inside : stored.floorSecond.nanos + Grant.clampLifetime lifetime * second ≤ latest
    · rw [ends.inside inside]
      omega
    · rw [ends.beyond (by omega)]
      omega
  · intro representable
    rw [Keeper.storedLifetime ok]
    refine Span.secondsAtLeast ?_
    change _ ≤ (Grant.expiryAfter stored.floorSecond lifetime).nanos - stored.nanos
    have near := stored.floorNear
    rw [ends.inside (by omega),Int.sub_mul,Int.one_mul]
    omega

theorem lifetimeOfHour :
    let k := (Sample.keeper.register Sample.enrollment).2
    let stored : Instant := ⟨1500000000,by decide,by decide⟩
    let next := (k.storeTokens stored "a" "A" "R" 3600).2
    let ended : Instant := ⟨3601000000000,by decide,by decide⟩
    let g := Grant.issued stored "A" "R" 3600
    k.storeTokens stored "a" "A" "R" 3600 = (.ok (),next) ∧
    (∀ now, stored ≤ now → next.lifetime now "a" ≤ 3600) ∧ 3599 ≤ next.lifetime stored "a" ∧
    g.isExpired stored .zero = false ∧ (g.isExpired ended .zero = true ↔ g.lifetime ended ≤ 0) := by
  intro k stored next ended g
  have ok : k.storeTokens stored "a" "A" "R" 3600 = (.ok (),next) := rfl
  obtain ⟨counts,stores⟩ := lifetimeAgrees (ω := Vault.Memory) (τ := Unit)
  obtain ⟨above,below⟩ := stores k next stored "a" "A" "R" 3600 ok
  exact ⟨ok,above,below (by decide),(counts g stored).positive (by decide +kernel),
    (counts g ended).whole rfl rfl⟩

end GrantKeeper
