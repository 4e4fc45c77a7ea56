import GrantKeeper.Endpoint.Fault
import GrantKeeper.Endpoint.International

/-! Domain names in their usual form: lower-case ASCII, without anything that would
end a host. -/
namespace GrantKeeper.Endpoint.Domain

def isForbidden (c : Char) : Bool :=
  c.toNat ≤ 0x20 || 0x7F ≤ c.toNat ||
    ['%','#','/',':','<','>','?','@','[','\\',']','^','|'].contains c

def normalize (cs : List Char) : Except Fault (List Char) :=
  match International.toAscii? cs with
  | none => .error .badDomain
  | some [] => .error .emptyHost
  | some name =>
    if (name.map Char.toLower).any isForbidden then .error .badDomain
    else .ok (name.map Char.toLower)

theorem normalizeOk {cs name : List Char} (h : normalize cs = .ok name) :
    name.any isForbidden = false ∧ ∃ ascii : List Char, name = ascii.map Char.toLower := by
  unfold normalize at h
  split at h
  · cases h
  · cases h
  · split at h
    · cases h
    · next ascii _ _ clean =>
      cases h
      exact ⟨by simpa only [Bool.not_eq_true] using clean,ascii,rfl⟩

theorem allowedOfMem {cs name : List Char} (h : normalize cs = .ok name) {c : Char}
    (hc : c ∈ name) : isForbidden c = false := by
  have clean := (normalizeOk h).1
  rw [List.any_eq_false] at clean
  simpa only [Bool.not_eq_true] using clean c hc

end GrantKeeper.Endpoint.Domain
