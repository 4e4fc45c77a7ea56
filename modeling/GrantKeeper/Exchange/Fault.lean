import GrantKeeper.Exchange.Status
import GrantKeeper.Endpoint.Fault
import GrantKeeper.Json.Fault

/-! Why an exchange of a refresh token gave no new grant, and whether the same
refresh token could still give one later. -/
namespace GrantKeeper.Exchange

inductive Fault
  | transport (url : String)
  | unreadable (fault : Json.Fault)
  | refused (status : Status) (code description : String)
  | failed (status : Status) (body : String)
  | noRefreshToken
  | badReply (reason : String)
  | unsupported (provider : String)
  | badSetup (reason : String)
  | badUrl (fault : Endpoint.Fault)
  deriving DecidableEq, Repr

namespace Fault

def message : Fault → String
  | .transport _ => "HTTP error"
  | .unreadable _ => "JSON error"
  | .refused status code description =>
    "OAuth2 error (" ++ status.text ++ "): " ++ code ++ " - " ++ description
  | .failed status body => "Token endpoint returned " ++ status.text ++ ": " ++ body
  | .noRefreshToken => "No refresh token available"
  | .badReply reason => "Invalid token response: " ++ reason
  | .unsupported provider => "No refresh strategy for provider '" ++ provider ++ "'"
  | .badSetup reason => "Invalid configuration: " ++ reason
  | .badUrl fault => "URL error: " ++ fault.message

def report : Fault → String
  | .transport url => "HTTP error: error sending request for url (" ++ url ++ ")"
  | fault => fault.message

def rejectionCodes : List String := ["invalid_grant","invalid_client","unauthorized_client"]

def isFinal : Fault → Bool
  | .refused status code _ => status.isRejection || rejectionCodes.contains code
  | .failed status _ => status.isRejection
  | .noRefreshToken | .unsupported _ | .badSetup _ => true
  | .transport _ | .unreadable _ | .badReply _ | .badUrl _ => false

def code? : Fault → Option String
  | .refused _ code _ => some code
  | _ => none

end Fault

end GrantKeeper.Exchange
