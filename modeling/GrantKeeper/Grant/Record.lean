import GrantKeeper.Grant.Basic
import GrantKeeper.Time.Calendar

/-! The record of a grant: seven members, the instants as whole seconds in text.
Every member may be missing and is then that of `Grant.absent`. -/
namespace GrantKeeper.Grant
open Json (Layout Reader Document)

def layout : Layout Grant where
  name := "Token"
  blank := absent
  fields := [
    .of "access_token" .never .text (fun g s => { g with access := s }),
    .of "refresh_token" .never .text (fun g s => { g with refresh := s }),
    .of "scope" .never .text (fun g s => { g with scope := s }),
    .of "token_type" .never .text (fun g s => { g with kind := s }),
    .of "expires_at" .never .stamp (fun g t => { g with expiresAt := t }),
    .of "created_at" .never .stamp (fun g t => { g with createdAt := t }),
    .of "valid" .never .boolean (fun g b => { g with valid := b })]

def reader : Reader Grant := layout.reader

def document (g : Grant) : Document :=
  .object [
    ("access_token",.text g.access),
    ("refresh_token",.text g.refresh),
    ("scope",.text g.scope),
    ("token_type",.text g.kind),
    ("expires_at",.text (Text.ofInt g.expiresAt.seconds)),
    ("created_at",.text (Text.ofInt g.createdAt.seconds)),
    ("valid",.boolean g.valid)]

def inspect (g : Grant) : String :=
  Text.inspectRecord "Token" [
    ("access_token",Text.inspect (Text.redact g.access)),
    ("refresh_token",Text.inspect (Text.redact g.refresh)),
    ("scope",Text.inspect g.scope),
    ("token_type",Text.inspect g.kind),
    ("expires_at",g.expiresAt.inspect),
    ("created_at",g.createdAt.inspect),
    ("valid",Text.inspectBool g.valid)] false

end GrantKeeper.Grant
