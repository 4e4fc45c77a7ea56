import GrantKeeper.Exchange.Fault
import GrantKeeper.Grant.Reply
import GrantKeeper.Text.Utf8

/-! Answers of a token endpoint and what they mean: a reply, a refusal in the
endpoint's own words, or neither. -/
namespace GrantKeeper.Exchange
open Json (Layout Reader)

structure Refusal where
  code : String
  description : String
  deriving DecidableEq, Repr

namespace Refusal

def layout : Layout Refusal where
  name := "ErrorResponse"
  blank := ⟨"",""⟩
  fields := [
    .of "error" .always .text (fun r s => { r with code := s }),
    .of "error_description" .never .text (fun r s => { r with description := s })]

def reader : Reader Refusal := layout.reader

def inspect (r : Refusal) : String :=
  Text.inspectRecord "ErrorResponse" [
    ("error",Text.inspect r.code),("error_description",Text.inspect r.description)] false

end Refusal

structure Body where
  access : Option String
  kind : Option String
  lifetime : Option Int
  refresh : Option String
  scope : Option String
  code : Option String
  description : Option String
  deriving DecidableEq, Repr

namespace Body

def layout : Layout Body where
  name := "RawTokenResponse"
  blank := ⟨none,none,none,none,none,none,none⟩
  fields := [
    .of "access_token" .inLists (.optional .text) (fun b s => { b with access := s }),
    .of "token_type" .inLists (.optional .text) (fun b s => { b with kind := s }),
    .of "expires_in" .inLists (.optional .word) (fun b n => { b with lifetime := n }),
    .of "refresh_token" .inLists (.optional .text) (fun b s => { b with refresh := s }),
    .of "scope" .inLists (.optional .text) (fun b s => { b with scope := s }),
    .of "error" .inLists (.optional .text) (fun b s => { b with code := s }),
    .of "error_description" .inLists (.optional .text) (fun b s => { b with description := s })]

def reader : Reader Body := layout.reader

end Body

def keptBody : Nat := 512

def shorten (body : String) : String :=
  if body.length ≤ keptBody then body else String.ofList (body.toList.take keptBody) ++ "..."

structure Answer where
  status : Status
  body : String
  deriving DecidableEq, Repr

namespace Answer

def fault (a : Answer) : Fault :=
  match Json.decode Refusal.reader (Text.encode a.body) with
  | .ok refusal => .refused a.status refusal.code refusal.description
  | .error _ => .failed a.status (shorten a.body)

def judge (status : Status) (body : Body) : Except Fault Reply :=
  match body.code with
  | some code => .error (.refused status code (body.description.getD ""))
  | none =>
    match body.access with
    | some access =>
      if access.isEmpty then .error (.badReply "missing access_token")
      else .ok ⟨access,body.kind,body.lifetime,body.refresh,body.scope⟩
    | none => .error (.badReply "missing access_token")

def read (a : Answer) : Except Fault Reply :=
  if a.status.isSuccess then
    match Json.decode Body.reader (Text.encode a.body) with
    | .error fault => .error (.unreadable fault)
    | .ok body => judge a.status body
  else .error a.fault

end Answer

end GrantKeeper.Exchange
