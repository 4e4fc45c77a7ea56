import GrantKeeper.Grant.Basic

/-! How the expiry of a grant depends on the clock and on the buffer. -/
namespace GrantKeeper.Grant
open Time (Instant Span earliest latest)
variable {g : Grant} {now : Instant} {buffer : Span}

theorem currentIff : g.isExpired now buffer = false ↔
    g.expiresAt.nanos - buffer.nanos ≤ latest ∧ now.nanos < g.expiresAt.nanos - buffer.nanos := by
  have lower := now.lower
  unfold isExpired Instant.sub? Instant.ofNanos?
  by_cases inside : earliest ≤ g.expiresAt.nanos - buffer.nanos ∧ g.expiresAt.nanos - buffer.nanos ≤ latest
  · rw [dif_pos inside]
    simp only [decide_eq_false_iff_not]
    change ¬ g.expiresAt.nanos - buffer.nanos ≤ now.nanos ↔ _
    omega
  · rw [dif_neg inside]
    simp only [Bool.true_eq_false,false_iff]
    omega

theorem unexpiredIff : g.isExpired now .zero = false ↔ now < g.expiresAt := by
  have upper := g.expiresAt.upper
  rw [currentIff]
  change g.expiresAt.nanos - 0 ≤ latest ∧ now.nanos < g.expiresAt.nanos - 0 ↔ now.nanos < g.expiresAt.nanos
  omega

def handed? (g : Grant) (now : Instant) : Option String :=
  if g.valid = true ∧ now < g.expiresAt then some g.access else none

theorem usableHanded (g : Grant) (now : Instant) :
    (if g.isUsable now then some g.access else none) = g.handed? now := by
  have same : g.isUsable now = true ↔ g.valid = true ∧ now < g.expiresAt := by
    simp [isUsable,unexpiredIff]
  simp [handed?,same]

theorem expiredLater {first : Instant} (expired : g.isExpired first buffer = true) (later : first ≤ now) :
    g.isExpired now buffer = true := by
  change first.nanos ≤ now.nanos at later
  cases current : g.isExpired now buffer with
  | true => rfl
  | false =>
    obtain ⟨upper,before⟩ := currentIff.mp current
    rw [currentIff.mpr ⟨upper,by omega⟩] at expired
    cases expired

/-- Expiry in unbounded integers. Only when the point `buffer` before the end is no instant can the
answer differ from the comparison, and with no negative buffer it does not. -/
structure EndsExactly (g : Grant) : Prop where
  inside : ∀ {now : Instant} {buffer : Span}, earliest ≤ g.expiresAt.nanos - buffer.nanos →
    g.expiresAt.nanos - buffer.nanos ≤ latest →
    (g.isExpired now buffer = true ↔ g.expiresAt.nanos - buffer.nanos ≤ now.nanos)
  outside : ∀ {now : Instant} {buffer : Span}, (g.expiresAt.nanos - buffer.nanos < earliest ∨
    latest < g.expiresAt.nanos - buffer.nanos) → g.isExpired now buffer = true
  forward : ∀ {now : Instant} {buffer : Span}, 0 ≤ buffer.nanos →
    (g.isExpired now buffer = true ↔ g.expiresAt.nanos - buffer.nanos ≤ now.nanos)
  lasting : ∀ {first later : Instant} {short long : Span}, first ≤ later → 0 ≤ short.nanos →
    short.nanos ≤ long.nanos → g.isExpired first short = true → g.isExpired later long = true

theorem expiredIff : g.isExpired now buffer = true ↔
    latest < g.expiresAt.nanos - buffer.nanos ∨ g.expiresAt.nanos - buffer.nanos ≤ now.nanos := by
  rw [← Bool.not_eq_false,currentIff]
  omega

theorem expiredForward (long : 0 ≤ buffer.nanos) :
    g.isExpired now buffer = true ↔ g.expiresAt.nanos - buffer.nanos ≤ now.nanos := by
  have upper := g.expiresAt.upper
  rw [expiredIff]
  omega

theorem endsExactly (g : Grant) : g.EndsExactly where
  inside {now buffer} _ below := by
    rw [expiredIff]
    omega
  outside {now buffer} beyond := by
    have lower := now.lower
    rw [expiredIff]
    omega
  forward := expiredForward
  lasting {first later short long} after forward longer expired := by
    change first.nanos ≤ later.nanos at after
    rw [expiredForward forward] at expired
    rw [expiredForward (by omega)]
    omega

theorem usableCurrent (valid : g.valid = true) (long : 0 ≤ buffer.nanos)
    (current : g.isExpired now buffer = false) : g.isUsable now = true := by
  obtain ⟨-,before⟩ := currentIff.mp current
  have unexpired : g.isExpired now .zero = false := by
    refine unexpiredIff.mpr ?_
    change now.nanos < g.expiresAt.nanos
    omega
  rw [isUsable,valid,unexpired]
  rfl

end GrantKeeper.Grant
