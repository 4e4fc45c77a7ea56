import GrantKeeper.Exchange.Refresher
import GrantKeeper.Proofs.Endpoint.Client

/-! Where a refresher posts its secrets: to a host reached over TLS, or to this machine. -/
namespace GrantKeeper.Exchange
open Endpoint (Address Home clientHost)

namespace Refresher
variable {s : String} {r : Refresher}

theorem ofTextSafe (made : ofText s = .ok r) :
    ∃ address, Endpoint.read s = .ok address ∧ r.url = address.text ∧ address.isSafe = true := by
  unfold ofText at made
  split at made
  · cases made
  · rename_i address took
    split at made
    · rename_i safe
      cases made
      exact ⟨address,took,rfl,safe⟩
    · cases made

/-- A refresher posts over TLS or to a host that is this machine. Where its address says that it
posts in clear text, every client finds this machine in it. -/
theorem clearTextStaysHome (made : ofText s = .ok r) :
    ((∃ rest, r.url = "https://" ++ rest) ∨ ∃ address host, Endpoint.read s = .ok address ∧
      r.url = address.text ∧ address.host? = some host ∧ host.isLoopback = true) ∧
    ∀ rest, r.url = "http://" ++ rest → ∀ web, Home (clientHost web r.url) := by
  obtain ⟨address,took,same,safe⟩ := ofTextSafe made
  obtain ⟨named,ofWeb⟩ := Endpoint.readOfWeb took
  rw [Address.isSafe,Bool.or_eq_true,decide_eq_true_eq] at safe
  constructor
  · rcases safe with secure | loop
    · obtain ⟨rest,begins⟩ := (ofWeb (by rw [secure]; decide)).begins
      rw [secure] at begins
      exact .inl ⟨rest,same.trans begins⟩
    · obtain ⟨host,there,loop⟩ := Endpoint.loopbackHost loop
      exact .inr ⟨address,host,took,same,there,loop⟩
  · intro rest clear web
    have scheme : address.scheme = "http" := Endpoint.schemeClear named (same.symm.trans clear)
    obtain ⟨host,there,hostOfWeb,found⟩ := (ofWeb (by rw [scheme]; decide)).found named web
    rcases safe with secure | loop
    · rw [scheme] at secure
      exact absurd secure (by decide)
    · obtain ⟨again,there',loop⟩ := Endpoint.loopbackHost loop
      cases there.symm.trans there'
      rw [same,found]
      exact hostOfWeb.home loop

theorem clearTextOfLookalike :
    ofText "HTTP://8.8.8.8:80@e.org:443@[0::0.0.0.1]:08080?q" =
      .ok ⟨"http://8.8.8.8:80%40e.org%3A443@[::1]:8080/?q"⟩ ∧
    ∀ web, Home (clientHost web "http://8.8.8.8:80%40e.org%3A443@[::1]:8080/?q") := by
  have made : ofText "HTTP://8.8.8.8:80@e.org:443@[0::0.0.0.1]:08080?q" =
      .ok ⟨"http://8.8.8.8:80%40e.org%3A443@[::1]:8080/?q"⟩ := by decide +kernel
  exact ⟨made,(clearTextStaysHome made).2 "8.8.8.8:80%40e.org%3A443@[::1]:8080/?q" (by decide)⟩

end Refresher
end GrantKeeper.Exchange
