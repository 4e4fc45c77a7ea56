import GrantKeeper.Exchange.Fault
import GrantKeeper.Disk.Tree
import GrantKeeper.Cipher.Gcm

/-! Everything that can go wrong with an account, its record and the settings. What the
parser says of a text that it cannot read is left out of the messages, where `json` stands
in its place. -/
namespace GrantKeeper

inductive RecordDefect
  | notBase64
  | sealing (fault : Cipher.Fault)
  | unreadable (fault : Json.Fault)
  deriving DecidableEq, Repr

def RecordDefect.message : RecordDefect → String
  | .notBase64 => "not base64"
  | .sealing fault => "Crypto error: " ++ fault.message
  | .unreadable _ => "json"

inductive Fault
  | exchange (fault : Exchange.Fault)
  | disk (fault : Disk.Fault)
  | crypto (reason : String)
  | corruptRecord (id : String) (defect : RecordDefect)
  | unusableId (id : String)
  | unknownAccount (id : String)
  | sharedRefreshFailed (id : String)
  | settings (path : String) (fault : Json.Fault)
  deriving DecidableEq, Repr

namespace Fault

def messageWith (exchange : Exchange.Fault → String) : Fault → String
  | .exchange fault => "OAuth error: " ++ exchange fault
  | .disk fault => "I/O error: " ++ fault.message
  | .crypto reason => "Crypto error: " ++ reason
  | .corruptRecord id defect => "Corrupt token record for '" ++ id ++ "': " ++ defect.message
  | .unusableId id => "Invalid account id '" ++ id ++ "'"
  | .unknownAccount id => "Account not found: " ++ id
  | .sharedRefreshFailed id => "Concurrent refresh of '" ++ id ++ "' failed"
  | .settings path _ => "Configuration error: " ++ path ++ ": json"

def message : Fault → String := messageWith Exchange.Fault.message

def report : Fault → String := messageWith Exchange.Fault.report

def isFinal : Fault → Bool
  | .exchange fault => fault.isFinal
  | .unknownAccount _ | .unusableId _ => true
  | _ => false

end Fault

end GrantKeeper
