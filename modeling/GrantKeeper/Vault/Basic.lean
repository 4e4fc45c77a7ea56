import GrantKeeper.Fault
import GrantKeeper.Outcome
import GrantKeeper.Grant.Record

/-! Vaults keep one grant per account id. -/
namespace GrantKeeper

class Vault (ω : Type) where
  save : ω → String → Grant → Outcome Fault Unit ω
  -- the grant of an account, if it has one; one that cannot be read is a fault
  load : ω → String → Outcome Fault (Option Grant) ω
  -- erasing what is not there succeeds
  erase : ω → String → Outcome Fault Unit ω
  ids : ω → Outcome Fault (List String) ω

end GrantKeeper
