import Mathlib.Data.List.TakeWhile
import GrantKeeper.Endpoint.Reading
import GrantKeeper.Outcome
import GrantKeeper.Proofs.Provider

/-! What is read for a scheme of the web. No part of such an address has a character that would end
the part in the address's text. -/
namespace GrantKeeper.Endpoint
open Outcome (ofBind ofMap)

def borders : List Char := ['/','\\','?','#','@']

theorem borderEncoded {c : Char} (border : c ∈ borders) : inUserSet c = true := by
  have all : borders.all inUserSet = true := by decide
  exact List.all_eq_true.mp all c border

theorem hexApart : ∀ d < 16, upperHexDigit d ∉ borders := by decide

theorem encodedApart {cs : List Char} {c : Char} (there : c ∈ percentEncode inUserSet cs) :
    c ∉ borders := by
  obtain ⟨origin,-,within⟩ := List.mem_flatMap.mp there
  unfold encodeChar at within
  split at within
  · rename_i plain
    cases List.mem_singleton.mp within
    intro border
    rw [borderEncoded border] at plain
    simp at plain
  · obtain ⟨b,-,within⟩ := List.mem_flatMap.mp within
    have small := b.toNat_lt
    simp only [percentOctet,List.mem_cons,List.not_mem_nil,or_false] at within
    rcases within with rfl | rfl | rfl
    · decide
    · exact hexApart _ (by omega)
    · exact hexApart _ (by omega)

theorem userApart {cs : List Char} {c : Char} (there : c ∈ userText cs) : c ∉ borders := by
  unfold userText at there
  rcases List.mem_append.mp there with name | secret
  · exact encodedApart name
  · split at secret
    · cases secret
    · rcases List.mem_cons.mp secret with rfl | secret
      · decide
      · exact encodedApart secret

inductive Host.OfWeb : Host → Prop
  | domain {name : List Char} (clean : ∀ c ∈ name, Domain.isForbidden c = false)
      (lower : name.map Char.toLower = name) : OfWeb (.domain (String.ofList name))
  | ipv4 (address : Nat) : OfWeb (.ipv4 address)
  | ipv6 (pieces : List Nat) : OfWeb (.ipv6 pieces)

theorem Domain.normalLower {cs name : List Char} (normal : Domain.normalize cs = .ok name) :
    name.map Char.toLower = name := by
  obtain ⟨-,ascii,rfl⟩ := Domain.normalizeOk normal
  rw [List.map_map]
  exact List.map_congr_left fun c _ => Text.lowerTwice c

theorem Host.readOfWeb {cs : List Char} {host : Host} (read : Host.readWeb cs = .ok host) :
    host.OfWeb := by
  unfold readWeb at read
  split at read
  · unfold readBracketed at read
    split at read
    · obtain ⟨pieces,-,rfl⟩ := ofMap read
      exact .ipv6 pieces
    · cases read
  · split at read
    · cases read
    · obtain ⟨name,normal,read⟩ := ofBind read
      split at read
      · obtain ⟨address,-,rfl⟩ := ofMap read
        exact .ipv4 address
      · cases read
        exact .domain (fun _ => Domain.allowedOfMem normal) (Domain.normalLower normal)

inductive Address.OfWeb : Address → Prop
  | mk (scheme : String) (user : List Char) {host : Host} (named : host.OfWeb)
      (portNumber : Option Nat) (segments : List String) (query fragment : Option String) :
      OfWeb ⟨scheme,some ⟨String.ofList (userText user),some host,portNumber⟩,.rooted segments,query,fragment⟩

theorem hostPortOfWeb {standard number : Option Nat} {cs rest : List Char} {host? : Option Host}
    (read : readHostPort true standard cs = .ok (host?,number,rest)) :
    ∃ host, host? = some host ∧ host.OfWeb := by
  unfold readHostPort at read
  generalize splitHost false cs = parts at read
  obtain ⟨hostText,behind⟩ := parts
  dsimp only at read
  split at read
  · rw [if_pos (.inl rfl)] at read
    cases read
  · obtain ⟨one,readOne,read⟩ := ofBind read
    rw [if_pos rfl] at readOne
    obtain ⟨host,readWeb,rfl⟩ := ofMap readOne
    refine ⟨host,?_,Host.readOfWeb readWeb⟩
    cases behind with
    | nil => cases read; rfl
    | cons c behind =>
      obtain ⟨⟨portNumber,left⟩,-,read⟩ := ofBind read
      cases read
      rfl

theorem authorityOfWeb {standard : Option Nat} {cs rest : List Char} {atEnd : Bool}
    {authority : Authority} (read : readAuthority true standard cs atEnd = .ok (authority,rest)) :
    ∃ user host portNumber, authority = ⟨String.ofList (userText user),some host,portNumber⟩ ∧
      host.OfWeb := by
  unfold readAuthority at read
  generalize (splitLastAt? cs).getD ([],cs) = parts at read
  obtain ⟨user,hostPort⟩ := parts
  dsimp only at read
  split at read
  · cases read
  · obtain ⟨⟨host?,portNumber,left⟩,readHost,read⟩ := ofBind read
    obtain ⟨host,rfl,web⟩ := hostPortOfWeb readHost
    dsimp only at read
    split at read
    · cases read
    · cases read
      exact ⟨user,host,portNumber,rfl,web⟩

variable {scheme : String} {cs : List Char} {a : Address}

theorem behindSlashesScheme {web : Bool} (read : readBehindSlashes scheme web cs = .ok a) :
    a.scheme = scheme := by
  obtain ⟨⟨authority,left⟩,-,read⟩ := ofBind read
  cases read
  rfl

theorem behindSlashesOfWeb (read : readBehindSlashes scheme true cs = .ok a) : a.OfWeb := by
  obtain ⟨⟨authority,left⟩,readAuthority,read⟩ := ofBind read
  obtain ⟨user,host,portNumber,rfl,named⟩ := authorityOfWeb readAuthority
  have rooted : readPath true = fun cs => .rooted (segmentsOf true (withoutSlash true cs)) :=
    funext fun cs => if_neg fun never => nomatch never.2
  cases read
  rw [rooted]
  exact .mk scheme user named ..

theorem plainScheme (read : readPlain scheme cs = .ok a) : a.scheme = scheme := by
  unfold readPlain at read
  split at read
  · exact behindSlashesScheme read
  · cases read; rfl
  · cases read; rfl

theorem fileScheme (read : readFile cs = .ok a) : a.scheme = "file" := by
  have always : ∀ host cs, (fileAddress host cs).scheme = "file" := fun _ _ => rfl
  unfold readFile at read
  split at read
  · split at read
    · unfold readFileHost at read
      dsimp only at read
      split at read
      · cases read; exact always ..
      · obtain ⟨host,-,read⟩ := ofBind read
        split at read <;> cases read <;> exact always ..
    · cases read; exact always ..
  · cases read; exact always ..

theorem schemeApart {taken rest : List Char} (took : takeScheme? cs = some (taken,rest)) :
    ':' ∉ taken := by
  unfold takeScheme? at took
  split at took
  · rename_i c more behind front _
    split at took
    · cases took
      rw [← front]
      intro colon
      obtain ⟨origin,there,lowered⟩ := List.mem_map.mp colon
      have good := List.mem_takeWhile_imp there
      -- what becomes a colon was one or stands below all capital letters
      rcases Text.lowers origin with same | ⟨upper,down⟩
      · rw [← same,lowered] at good
        cases good
      · rw [lowered] at down
        change 58 = origin.toNat + 32 at down
        omega
    · cases took
  · cases took

theorem readOfWeb {s : String} (took : read s = .ok a) :
    ':' ∉ a.scheme.toList ∧ ((standardPort? a.scheme).isSome = true → a.OfWeb) := by
  unfold read at took
  split at took
  · cases took
  · rename_i scheme rest taken
    have apart : ':' ∉ (String.ofList scheme).toList := by
      rw [String.toList_ofList]
      exact schemeApart taken
    dsimp only at took
    split at took
    · -- files have no standard number, so that nothing is asked of them
      rw [fileScheme took]
      exact ⟨by decide,fun never => nomatch never⟩
    · split at took
      · rw [behindSlashesScheme took]
        exact ⟨apart,fun _ => behindSlashesOfWeb took⟩
      · rename_i other
        rw [plainScheme took]
        exact ⟨apart,fun web => absurd web other⟩

end GrantKeeper.Endpoint
