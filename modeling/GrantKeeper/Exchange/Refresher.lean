import GrantKeeper.Exchange.Answer
import GrantKeeper.Exchange.Order
import GrantKeeper.Exchange.Strategies
import GrantKeeper.Endpoint.Reading

/-! The standard strategy: one form posted to a token endpoint. -/
namespace GrantKeeper.Exchange
open Text (Octets)

abbrev Network := String → Octets → Option (Status × Octets)

def unreachable : Network := fun _ _ => none

structure Refresher where
  url : String
  deriving DecidableEq, Repr

namespace Refresher

def exchange (network : Network) (r : Refresher) (order : Order) : Except Fault Reply :=
  if order.refresh.isEmpty then .error .noRefreshToken
  else
    match network r.url order.body with
    | none => .error (.transport r.url)
    | some (status,body) => (Answer.mk status (Text.decodeLossy body)).read

def ofText (s : String) : Except Fault Refresher :=
  match Endpoint.read s with
  | .error fault => .error (.badUrl fault)
  | .ok address =>
    if address.isSafe then .ok ⟨address.text⟩
    else .error (.badSetup ("token endpoint must use https: " ++ address.text))

def ofProvider (p : Provider) : Except Fault Refresher :=
  match p.tokenUrl? with
  | some url => .ok ⟨url⟩
  | none => .error (.unsupported p.name)

def standard : Strategies Refresher :=
  [Provider.google,Provider.microsoft].foldl
    (fun s p => (p.tokenUrl?.map fun url => s.insert p ⟨url⟩).getD s) .empty

end Refresher

end GrantKeeper.Exchange
