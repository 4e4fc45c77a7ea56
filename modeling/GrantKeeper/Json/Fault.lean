import GrantKeeper.Text.Inspect

/-! What can be wrong with JSON text that should hold a record: it ends too
early, it is not well formed, or it is well formed so far but does not fit. -/
namespace GrantKeeper.Json

inductive Found
  | null
  | boolean (b : Bool)
  | integer (n : Int)
  | floating
  | text (s : String)
  | list
  | object
  deriving DecidableEq, Repr

def Found.describe : Found → String
  | .null => "null"
  | .boolean b => "boolean `" ++ Text.inspectBool b ++ "`"
  | .integer n => "integer `" ++ Text.ofInt n ++ "`"
  | .floating => "floating point"
  | .text s => "string " ++ Text.inspect s
  | .list => "sequence"
  | .object => "map"

inductive Misfit
  | wrongKind (found : Found) (wanted : String)
  | wrongValue (found : Found) (wanted : String)
  | missingField (name : String)
  | repeatedField (name : String)
  | shortList (given : Nat) (wanted : String)
  | badStamp (fault : Text.IntegerFault)
  | noStamp
  | stampOutOfRange (seconds : Int)
  deriving DecidableEq, Repr

def Misfit.message : Misfit → String
  | .wrongKind found wanted => "invalid type: " ++ found.describe ++ ", expected " ++ wanted
  | .wrongValue found wanted => "invalid value: " ++ found.describe ++ ", expected " ++ wanted
  | .missingField name => "missing field `" ++ name ++ "`"
  | .repeatedField name => "duplicate field `" ++ name ++ "`"
  | .shortList given wanted => "invalid length " ++ Text.ofNat given ++ ", expected " ++ wanted
  | .badStamp fault => fault.message
  | .noStamp => "data did not match any variant of untagged enum Raw"
  | .stampOutOfRange seconds => "timestamp out of range: " ++ Text.ofInt seconds

inductive Fault
  | truncated
  | malformed
  | unfit (misfit : Misfit)
  deriving DecidableEq, Repr

end GrantKeeper.Json
