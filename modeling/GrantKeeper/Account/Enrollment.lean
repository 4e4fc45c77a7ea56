import GrantKeeper.Provider
import GrantKeeper.Json.Layout

/-! Enrollments: everything about an account but its grant. An enrollment is
also the entry of an account in the settings. -/
namespace GrantKeeper

structure Enrollment where
  id : String
  provider : Provider
  clientId : String
  clientSecret : String
  redirect : String
  email : String
  deriving DecidableEq, Repr

namespace Enrollment
open Json (Layout Reader Document)

def blank : Enrollment := ⟨"",.custom "","","","",""⟩

def layout : Layout Enrollment where
  name := "AccountRegistration"
  blank := blank
  fields := [
    .of "account_id" .always .text (fun e s => { e with id := s }),
    .of "provider" .always Provider.reader (fun e p => { e with provider := p }),
    .of "client_id" .always .text (fun e s => { e with clientId := s }),
    .of "client_secret" .never .text (fun e s => { e with clientSecret := s }),
    .of "redirect_uri" .never .text (fun e s => { e with redirect := s }),
    .of "user_email" .never .text (fun e s => { e with email := s })]

def reader : Reader Enrollment := layout.reader

def document (e : Enrollment) : Document :=
  .object [
    ("account_id",.text e.id),
    ("provider",e.provider.document),
    ("client_id",.text e.clientId),
    ("client_secret",.text e.clientSecret),
    ("redirect_uri",.text e.redirect),
    ("user_email",.text e.email)]

def inspectParts (e : Enrollment) : List (String × String) := [
  ("account_id",Text.inspect e.id),
  ("provider",e.provider.inspect),
  ("client_id",Text.inspect e.clientId),
  ("client_secret",Text.inspect (Text.redact e.clientSecret)),
  ("redirect_uri",Text.inspect e.redirect),
  ("user_email",Text.inspect e.email)]

def inspect (e : Enrollment) : String :=
  Text.inspectRecord "AccountRegistration" e.inspectParts false

end Enrollment

end GrantKeeper
