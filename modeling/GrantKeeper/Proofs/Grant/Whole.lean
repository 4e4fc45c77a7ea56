import GrantKeeper.Grant.Basic

/-! Instants and grants of whole seconds, which are all that records can hold. -/
namespace GrantKeeper
open Time (Instant Span second)

namespace Time.Instant

theorem sameNanos {t u : Instant} (h : t.nanos = u.nanos) : t = u := by
  cases t
  cases u
  cases h
  rfl

theorem floorOfWhole {t : Instant} {n : Int} (h : t.nanos = n * second) : t.floorSecond = t := by
  apply sameNanos
  change t.nanos.fdiv second * second = t.nanos
  rw [h,Int.mul_fdiv_cancel _ (by decide)]

theorem floorFloor (t : Instant) : t.floorSecond.floorSecond = t.floorSecond :=
  floorOfWhole (n := t.seconds) rfl

theorem ofSecondsFloor (t : Instant) : ofSeconds? t.seconds = some t.floorSecond := by
  have low := t.floorSecond.lower
  have high := t.floorSecond.upper
  exact dif_pos ⟨low,high⟩

theorem floorNear (t : Instant) : t.nanos < t.floorSecond.nanos + second := by
  change t.nanos < t.nanos.fdiv second * second + second
  rw [Int.fdiv_eq_ediv_of_nonneg _ (by decide : (0 : Int) ≤ second)]
  unfold second
  omega

structure IsSecond (t : Instant) (n : Int) : Prop where
  low : -8334601228800 ≤ n
  high : n ≤ 8210266876799
  nanos : t.nanos = n * second

theorem ofSecondsIff {t : Instant} {n : Int} : ofSeconds? n = some t ↔ t.IsSecond n := by
  unfold ofSeconds? ofNanos?
  have range : Time.earliest ≤ n * second ∧ n * second ≤ Time.latest ↔
      -8334601228800 ≤ n ∧ n ≤ 8210266876799 := by
    simp only [Time.earliest,Time.latest,earliestSecond,latestSecond,second]
    omega
  constructor
  · intro made
    split at made
    · rename_i inside
      cases made
      exact ⟨(range.mp inside).1,(range.mp inside).2,rfl⟩
    · cases made
  · rintro ⟨low,high,nanos⟩
    rw [dif_pos (range.mpr ⟨low,high⟩)]
    exact congrArg some (Instant.sameNanos nanos.symm)

theorem IsSecond.word {t : Instant} {n : Int} (second : t.IsSecond n) : Text.inWord n = true := by
  obtain ⟨low,high,-⟩ := second
  simp only [Text.inWord,Bool.and_eq_true,decide_eq_true_eq]
  simp only [Text.wordMin,Text.wordMax]
  omega

theorem floorIsSecond (t : Instant) : t.floorSecond.IsSecond t.seconds := ofSecondsIff.mp t.ofSecondsFloor

theorem secondsInWord (t : Instant) : Text.inWord t.seconds = true := t.floorIsSecond.word

end Time.Instant

namespace Grant

def floored (g : Grant) : Grant :=
  { g with expiresAt := g.expiresAt.floorSecond, createdAt := g.createdAt.floorSecond }

def IsWhole (g : Grant) : Prop := g.floored = g

theorem wholeOfParts {g : Grant} (expires : g.expiresAt.floorSecond = g.expiresAt)
    (created : g.createdAt.floorSecond = g.createdAt) : g.IsWhole := by
  unfold IsWhole floored
  rw [expires,created]

theorem wholeExpiry {created : Instant} (whole : created.floorSecond = created) (lifetime : Int) :
    (expiryAfter created lifetime).floorSecond = expiryAfter created lifetime := by
  unfold expiryAfter
  cases sum : created.add? (.ofSeconds (clampLifetime lifetime)) with
  | none => exact whole
  | some t =>
    unfold Instant.add? Instant.ofNanos? at sum
    split at sum
    · cases Option.some.inj sum
      refine Instant.floorOfWhole (n := created.seconds + clampLifetime lifetime) ?_
      have here : created.nanos = created.seconds * second := congrArg Instant.nanos whole.symm
      change created.nanos + clampLifetime lifetime * second = _
      rw [here,Int.add_mul]
    · cases sum

theorem issuedWhole (now : Instant) (access refresh : String) (lifetime : Int) :
    (issued now access refresh lifetime).IsWhole :=
  wholeOfParts (wholeExpiry now.floorFloor lifetime) now.floorFloor

theorem refreshedWhole (g : Grant) (now : Instant) (reply : Reply) : (g.refreshed now reply).IsWhole :=
  wholeOfParts (wholeExpiry now.floorFloor _) now.floorFloor

theorem scopedWhole {g : Grant} (whole : g.IsWhole) (scope : String) : { g with scope }.IsWhole := by
  have same := Grant.mk.inj whole
  exact wholeOfParts same.2.2.2.2.1 same.2.2.2.2.2.1

end Grant

end GrantKeeper
