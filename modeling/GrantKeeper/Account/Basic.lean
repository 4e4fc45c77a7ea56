import GrantKeeper.Account.Enrollment
import GrantKeeper.Grant.Record

/-! An account: an enrollment together with the grant it holds now. -/
namespace GrantKeeper

structure Account where
  enrollment : Enrollment
  grant : Grant
  deriving DecidableEq, Repr

def Account.inspect (a : Account) : String :=
  Text.inspectRecord "Account" (a.enrollment.inspectParts ++ [("token",a.grant.inspect)]) false

end GrantKeeper
