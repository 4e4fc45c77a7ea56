import GrantKeeper.Proofs.Grant.Whole

/-! Grants whose times fit together: a valid one ends no earlier than it was made and no more
than the longest lifetime after that, on the second. -/
namespace GrantKeeper.Grant
open Time (Instant second earliest latest)

structure Sound (g : Grant) : Prop where
  whole : g.IsWhole
  ordered : g.valid = true → g.createdAt ≤ g.expiresAt
  limited : g.valid = true → g.expiresAt.nanos ≤ g.createdAt.nanos + longestLifetime * second

theorem absentSound : Sound absent := ⟨rfl,nofun,nofun⟩

theorem clampBounds (lifetime : Int) :
    0 ≤ clampLifetime lifetime ∧ clampLifetime lifetime ≤ longestLifetime := by
  have long : (0 : Int) ≤ longestLifetime := by decide
  unfold clampLifetime
  omega

structure Ends (created : Instant) (lifetime : Int) : Prop where
  above : earliest ≤ created.nanos + clampLifetime lifetime * second
  inside : created.nanos + clampLifetime lifetime * second ≤ latest →
    (expiryAfter created lifetime).nanos = created.nanos + clampLifetime lifetime * second
  beyond : latest < created.nanos + clampLifetime lifetime * second →
    expiryAfter created lifetime = created

theorem lifetimeLong (lifetime : Int) : 0 ≤ clampLifetime lifetime * second :=
  Int.mul_nonneg (clampBounds lifetime).1 (by decide)

theorem ends (created : Instant) (lifetime : Int) : Ends created lifetime := by
  have lower := created.lower
  have above : earliest ≤ created.nanos + clampLifetime lifetime * second := by
    have long := lifetimeLong lifetime
    omega
  have added : created.add? (.ofSeconds (clampLifetime lifetime)) =
      Instant.ofNanos? (created.nanos + clampLifetime lifetime * second) := rfl
  refine ⟨above,?_,?_⟩
  · intro below
    rw [expiryAfter,added,Instant.ofNanos?,dif_pos ⟨above,below⟩]
    rfl
  · intro late
    rw [expiryAfter,added,Instant.ofNanos?,dif_neg (by omega)]
    rfl

theorem expiryBounds (created : Instant) (lifetime : Int) : created ≤ expiryAfter created lifetime ∧
    (expiryAfter created lifetime).nanos ≤ created.nanos + longestLifetime * second := by
  have short : clampLifetime lifetime * second ≤ longestLifetime * second :=
    Int.mul_le_mul_of_nonneg_right (clampBounds lifetime).2 (by decide)
  have long := lifetimeLong lifetime
  change created.nanos ≤ _ ∧ _
  by_cases inside : created.nanos + clampLifetime lifetime * second ≤ latest
  · rw [(ends created lifetime).inside inside]
    omega
  · rw [(ends created lifetime).beyond (by omega)]
    omega

theorem madeSound {g : Grant} (now : Instant) (lifetime : Int) (created : g.createdAt = now.floorSecond)
    (expires : g.expiresAt = expiryAfter now.floorSecond lifetime) : g.Sound := by
  obtain ⟨ordered,limited⟩ := expiryBounds now.floorSecond lifetime
  refine ⟨wholeOfParts ?_ ?_,?_,?_⟩
  · rw [expires]
    exact wholeExpiry now.floorFloor lifetime
  · rw [created]
    exact now.floorFloor
  · intro _
    rw [created,expires]
    exact ordered
  · intro _
    rw [created,expires]
    exact limited

end GrantKeeper.Grant
