import GrantKeeper.Grant.Reply
import GrantKeeper.Time.Instant

/-! Grants: an access token with its terms at one point in time. A refresh does
not change a grant but makes its successor. -/
namespace GrantKeeper
open Time (Instant Span)

structure Grant where
  access : String
  refresh : String
  scope : String
  kind : String
  expiresAt : Instant
  createdAt : Instant
  valid : Bool
  deriving DecidableEq, Repr

namespace Grant

def absent : Grant := ⟨"","","","",.epoch,.epoch,false⟩

instance : Inhabited Grant := ⟨absent⟩

def defaultKind : String := "Bearer"

def defaultLifetime : Int := 3600

def longestLifetime : Int := 31536000

def clampLifetime (n : Int) : Int := max 0 (min n longestLifetime)

def expiryAfter (created : Instant) (lifetime : Int) : Instant :=
  (created.add? (.ofSeconds (clampLifetime lifetime))).getD created

def issued (now : Instant) (access refresh : String) (lifetime : Int) : Grant :=
  { access, refresh
    scope := ""
    kind := defaultKind
    expiresAt := expiryAfter now.floorSecond lifetime
    createdAt := now.floorSecond
    valid := true }

def orKept (said : Option String) (kept : String) : String :=
  match said with
  | some s => if s.isEmpty then kept else s
  | none => kept

def refreshed (g : Grant) (now : Instant) (reply : Reply) : Grant :=
  { access := reply.access
    refresh := orKept reply.refresh g.refresh
    scope := orKept reply.scope g.scope
    kind := orKept reply.kind defaultKind
    expiresAt := expiryAfter now.floorSecond (reply.lifetime.getD defaultLifetime)
    createdAt := now.floorSecond
    valid := true }

def isExpired (g : Grant) (now : Instant) (buffer : Span) : Bool :=
  match g.expiresAt.sub? buffer with
  | some stale => decide (stale ≤ now)
  | none => true

def isUsable (g : Grant) (now : Instant) : Bool := g.valid && !g.isExpired now .zero

def lifetime (g : Grant) (now : Instant) : Int := (g.expiresAt.since now).seconds

def isRefreshable (g : Grant) : Bool := !g.refresh.isEmpty

end Grant

end GrantKeeper
