import GrantKeeper.Text.Decimal

/-! Points in time as whole nanoseconds since 1970, from the first second of
year -262143 to the last nanosecond of year 262142, and spans between them.
Every operation that could leave the range says so in its type. -/
namespace GrantKeeper.Time

def second : Int := 1000000000

def earliestSecond : Int := -8334601228800
def latestSecond : Int := 8210266876799

def earliest : Int := earliestSecond * second
def latest : Int := latestSecond * second + 999999999

structure Instant where
  nanos : Int
  lower : earliest ≤ nanos
  upper : nanos ≤ latest
  deriving DecidableEq, Repr

structure Span where
  nanos : Int
  deriving DecidableEq, Repr

def Span.limitMillis : Int := Text.wordMax

def Span.longest : Span := ⟨Span.limitMillis * 1000000⟩
def Span.shortest : Span := ⟨-Span.limitMillis * 1000000⟩
def Span.zero : Span := ⟨0⟩

def Span.ofSeconds (n : Int) : Span := ⟨n * second⟩

def Span.ofMinutes? (n : Int) : Option Span :=
  if -Span.limitMillis ≤ n * 60000 ∧ n * 60000 ≤ Span.limitMillis then some ⟨n * 60 * second⟩ else none

def Span.seconds (d : Span) : Int := d.nanos.tdiv second

def Span.minutes (d : Span) : Int := d.seconds.tdiv 60

namespace Instant

def ofNanos? (n : Int) : Option Instant :=
  if h : earliest ≤ n ∧ n ≤ latest then some ⟨n,h.1,h.2⟩ else none

def ofSeconds? (n : Int) : Option Instant := ofNanos? (n * second)

def epoch : Instant := ⟨0,by decide,by decide⟩

instance : Inhabited Instant := ⟨epoch⟩

def seconds (t : Instant) : Int := t.nanos.fdiv second

def add? (t : Instant) (d : Span) : Option Instant := ofNanos? (t.nanos + d.nanos)

def sub? (t : Instant) (d : Span) : Option Instant := ofNanos? (t.nanos - d.nanos)

def since (t u : Instant) : Span := ⟨t.nanos - u.nanos⟩

theorem secondsBelow (n : Int) : n.fdiv second * second ≤ n := by
  rw [Int.fdiv_eq_ediv_of_nonneg _ (by decide : (0 : Int) ≤ second)]
  exact Int.ediv_mul_le n (by decide)

def floorSecond (t : Instant) : Instant :=
  ⟨t.seconds * second,by
    have low := t.lower
    have pos : (0 : Int) ≤ second := by decide
    unfold seconds
    rw [Int.fdiv_eq_ediv_of_nonneg _ pos]
    simp only [earliest,earliestSecond,second] at *
    omega,
   Int.le_trans (secondsBelow t.nanos) t.upper⟩

end Instant

instance : LE Instant := ⟨fun t u => t.nanos ≤ u.nanos⟩
instance : LT Instant := ⟨fun t u => t.nanos < u.nanos⟩
instance (t u : Instant) : Decidable (t ≤ u) := inferInstanceAs (Decidable (t.nanos ≤ u.nanos))
instance (t u : Instant) : Decidable (t < u) := inferInstanceAs (Decidable (t.nanos < u.nanos))

end GrantKeeper.Time
