import Mathlib.Data.List.Induction
import GrantKeeper.Exchange.Strategies
import GrantKeeper.Proofs.Settings.Record

/-! Strategies entered under names. A provider is served by the last one whose name reads as it, in
whatever letters and blanks either name was written. -/
namespace GrantKeeper
open Provider (Alias normalName ofText)
open Text (SameLetter)

namespace Exchange.Strategies
variable {τ : Type} {p q : Provider} {strategy : τ}

theorem lookupOther (apart : q ≠ p) (entries : List (Provider × τ)) :
    (entries.filter (fun entry => entry.1 != p)).lookup q = entries.lookup q := by
  induction entries with
  | nil => rfl
  | cons entry entries ih =>
    by_cases same : entry.1 = p
    · have other : (q == entry.1) = false := beq_eq_false_iff_ne.mpr (same ▸ apart)
      rw [List.filter_cons_of_neg (by simpa using same),List.lookup_cons,other,ih]
    · rw [List.filter_cons_of_pos (by simpa using same),List.lookup_cons,List.lookup_cons,ih]

theorem getInsert (s : Strategies τ) (p q : Provider) (strategy : τ) :
    (s.insert p strategy).get? q = if q = p then some strategy else s.get? q := by
  unfold get? insert
  by_cases same : q = p
  · rw [if_pos same,List.lookup_cons,beq_iff_eq.mpr same]
  · rw [if_neg same,List.lookup_cons,beq_eq_false_iff_ne.mpr same]
    exact lookupOther same s.entries

def entered (entries : List (String × τ)) : Strategies τ :=
  entries.foldl (fun s entry => s.insert (ofText entry.1) entry.2) .empty

theorem getEntered (entries : List (String × τ)) (p : Provider) :
    (entered entries).get? p = (entries.reverse.find? fun entry => ofText entry.1 == p).map Prod.snd := by
  induction entries using List.reverseRecOn with
  | nil => rfl
  | append_singleton entries entry ih =>
    have last : entered (entries ++ [entry]) = (entered entries).insert (ofText entry.1) entry.2 := by
      simp [entered]
    rw [last,getInsert,ih,List.reverse_append,List.reverse_singleton,List.singleton_append]
    by_cases same : p = ofText entry.1
    · rw [if_pos same,List.find?_cons_of_pos (by simp [same])]
      rfl
    · rw [if_neg same,List.find?_cons_of_neg (by simpa using Ne.symm same)]

theorem getSome {entries : List (String × τ)} : (entered entries).get? p = some strategy ↔
    ∃ front name back, entries = front ++ (name,strategy) :: back ∧ ofText name = p ∧
      ∀ entry ∈ back, ofText entry.1 ≠ p := by
  rw [getEntered,Option.map_eq_some_iff]
  constructor
  · rintro ⟨⟨name,last⟩,found,rfl⟩
    obtain ⟨same,back,front,whole,others⟩ := List.find?_eq_some_iff_append.mp found
    refine ⟨front.reverse,name,back.reverse,?_,by simpa using same,?_⟩
    · rw [← List.reverse_reverse entries,whole]
      simp
    · intro entry member
      simpa using others entry (List.mem_reverse.mp member)
  · rintro ⟨front,name,back,rfl,same,others⟩
    refine ⟨(name,strategy),List.find?_eq_some_iff_append.mpr ⟨by simpa using same,?_⟩,rfl⟩
    refine ⟨back.reverse,front.reverse,by simp,fun entry member => ?_⟩
    simpa using others entry (List.mem_reverse.mp member)

theorem getNone {entries : List (String × τ)} :
    (entered entries).get? p = none ↔ ∀ entry ∈ entries, ofText entry.1 ≠ p := by
  rw [getEntered,Option.map_eq_none_iff,List.find?_eq_none]
  simp

end Exchange.Strategies

open Exchange (Strategies)

structure OneForm (τ : Type) : Prop where
  again : ∀ s, ofText (ofText s).name = ofText s
  stored : ∀ s, Json.decode Provider.reader (Text.encode ((ofText s).document.pretty 0)) = .ok (ofText s)
  blanks : ∀ (front back : List Char) (s : String), (∀ c ∈ front, Text.isBlank c = true) →
    (∀ c ∈ back, Text.isBlank c = true) →
    ofText (String.ofList front ++ s ++ String.ofList back) = ofText s
  letters : ∀ s t : String, List.Forall₂ SameLetter s.toList t.toList → ofText s = ofText t
  trims : ∀ s, Text.Trims s (Text.trim s)
  normal : ∀ s t, normalName s = normalName t ↔
    List.Forall₂ SameLetter (Text.trim s).toList (Text.trim t).toList
  same : ∀ s t, ofText s = ofText t ↔ normalName s = normalName t ∨
    ∃ p, Alias p (normalName s) ∧ Alias p (normalName t)
  served : ∀ (entries : List (String × τ)) (q : String) (strategy : τ),
    (Strategies.entered entries).get? (ofText q) = some strategy ↔
      ∃ front name back, entries = front ++ (name,strategy) :: back ∧ ofText name = ofText q ∧
        ∀ entry ∈ back, ofText entry.1 ≠ ofText q
  unserved : ∀ (entries : List (String × τ)) (q : String),
    (Strategies.entered entries).get? (ofText q) = none ↔ ∀ entry ∈ entries, ofText entry.1 ≠ ofText q

theorem namesHaveOneForm (τ : Type) : OneForm τ where
  again := Provider.nameNormal
  stored s := Json.decodeWritten trivial (Provider.readName (Provider.nameNormal s))
  blanks front back s before behind := by
    unfold ofText
    rw [Text.trimWithin before behind]
  letters s t letters := by
    unfold ofText
    rw [Text.lowerTrim,Text.lowerTrim,Text.lowerAlike.mpr letters]
  trims := Text.trims
  normal _ _ := Text.lowerAlike
  same _ _ := Provider.ofNormalSame
  served _ _ _ := Strategies.getSome
  unserved _ _ := Strategies.getNone

theorem strategiesUnderNames :
    let entries := [("Google",1),("zoho",2),("\u3000GMail",3),("Zoho\n",4)]
    (Strategies.entered entries).get? (ofText "gOOGLE") = some 3 ∧
    (Strategies.entered entries).get? (ofText " ZOHO") = some 4 ∧
    (Strategies.entered entries).get? (ofText "outlook") = none := by
  intro entries
  obtain ⟨-,-,-,-,-,-,-,served,unserved⟩ := namesHaveOneForm Nat
  refine ⟨(served _ _ _).mpr ?_,(served _ _ _).mpr ?_,(unserved _ _).mpr (by decide +kernel)⟩
  · exact ⟨[("Google",1),("zoho",2)],"\u3000GMail",[("Zoho\n",4)],rfl,by decide +kernel,by decide +kernel⟩
  · exact ⟨[("Google",1),("zoho",2),("\u3000GMail",3)],"Zoho\n",[],rfl,by decide +kernel,nofun⟩

end GrantKeeper
