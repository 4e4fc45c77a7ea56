import GrantKeeper.Json.Layout
import GrantKeeper.Json.Document

/-! What a token endpoint grants: an access token, and what the endpoint chose
to say about it. -/
namespace GrantKeeper

structure Reply where
  access : String
  kind : Option String
  lifetime : Option Int
  refresh : Option String
  scope : Option String
  deriving DecidableEq, Repr

namespace Reply
open Json (Field Layout Reader Document)

def blank : Reply := ⟨"",none,none,none,none⟩

def layout : Layout Reply where
  name := "TokenResponse"
  blank := blank
  fields := [
    .of "access_token" .always .text (fun r s => { r with access := s }),
    .of "token_type" .never (.optional .text) (fun r s => { r with kind := s }),
    .of "expires_in" .never (.optional .word) (fun r n => { r with lifetime := n }),
    .of "refresh_token" .never (.optional .text) (fun r s => { r with refresh := s }),
    .of "scope" .never (.optional .text) (fun r s => { r with scope := s })]

def reader : Reader Reply := layout.reader

def document (r : Reply) : Document :=
  let text (name : String) (value : Option String) :=
    (value.map fun s => (name,Document.text s)).toList
  .object (("access_token",.text r.access) :: text "token_type" r.kind ++
    (r.lifetime.map fun n => ("expires_in",Document.integer n)).toList ++
    text "refresh_token" r.refresh ++ text "scope" r.scope)

def inspect (r : Reply) : String :=
  Text.inspectRecord "TokenResponse" [
    ("access_token",Text.inspect (Text.redact r.access)),
    ("token_type",Text.inspectOption Text.inspect r.kind),
    ("expires_in",Text.inspectOption Text.ofInt r.lifetime),
    ("refresh_token",Text.inspectOption Text.inspect (r.refresh.map Text.redact)),
    ("scope",Text.inspectOption Text.inspect r.scope)] false

end Reply

end GrantKeeper
