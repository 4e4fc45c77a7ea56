import Mathlib.Data.List.Forall2
import GrantKeeper.Proofs.Text.Numeral
import GrantKeeper.Provider

/-! The names of providers. Reading a name makes it normal, and a provider is read back from the
name that it has. -/
namespace GrantKeeper

namespace Text

theorem stripStripped {α : Type} (p : α → Bool) (xs : List α) : strip p (strip p xs) = strip p xs := by
  obtain ⟨front,back,whole,before,behind⟩ := stripParts p xs
  have inner := stripWithin before behind (strip p xs)
  rw [← whole] at inner
  exact inner.symm

theorem stripClean {α : Type} {p : α → Bool} {front xs back : List α} (before : ∀ x ∈ front, p x = true)
    (behind : ∀ x ∈ back, p x = true) (clean : strip p (front ++ (xs ++ back)) = front ++ (xs ++ back)) :
    front = [] ∧ back = [] := by
  rw [stripWithin before behind] at clean
  obtain ⟨early,late,whole,-⟩ := stripParts p xs
  have lengths := congrArg List.length whole
  rw [clean] at lengths
  simp only [List.length_append] at lengths
  exact ⟨List.length_eq_zero_iff.mp (by omega),List.length_eq_zero_iff.mp (by omega)⟩

structure Trims (s t : String) : Prop where
  around : ∃ front back, s.toList = front ++ (t.toList ++ back) ∧ (∀ c ∈ front, isBlank c = true) ∧
    ∀ c ∈ back, isBlank c = true
  clean : ∀ {front core back : List Char}, t.toList = front ++ (core ++ back) →
    (∀ c ∈ front, isBlank c = true) → (∀ c ∈ back, isBlank c = true) → front = [] ∧ back = []

theorem trims (s : String) : Trims s (trim s) where
  around := by
    rw [trim,String.toList_ofList]
    exact stripParts isBlank s.toList
  clean {front core back} whole before behind := by
    rw [trim,String.toList_ofList] at whole
    have again := stripStripped isBlank s.toList
    rw [whole] at again
    exact stripClean before behind again

theorem stripMap {α : Type} {p : α → Bool} {f : α → α} (same : p ∘ f = p) (xs : List α) :
    strip p (xs.map f) = (strip p xs).map f := by
  simp only [strip,List.dropWhile_map,← List.map_reverse,same]

theorem lowerUpper {c : Char} (upper : 65 ≤ c.toNat ∧ c.toNat ≤ 90) : c.toLower.toNat = c.toNat + 32 := by
  have low : c.val.toNat ≤ 90 := upper.2
  unfold Char.toLower
  rw [dif_pos ⟨upper.1,upper.2⟩]
  change (c.val + 32).toNat = c.val.toNat + 32
  rw [UInt32.toNat_add]
  change (c.val.toNat + 32) % 4294967296 = _
  omega

theorem lowerOther {c : Char} (other : ¬ (65 ≤ c.toNat ∧ c.toNat ≤ 90)) : c.toLower = c := by
  unfold Char.toLower
  exact dif_neg fun upper => other ⟨upper.1,upper.2⟩

theorem lowers (c : Char) : c.toLower = c ∨
    (65 ≤ c.toNat ∧ c.toNat ≤ 90) ∧ c.toLower.toNat = c.toNat + 32 := by
  by_cases upper : 65 ≤ c.toNat ∧ c.toNat ≤ 90
  · exact .inr ⟨upper,lowerUpper upper⟩
  · exact .inl (lowerOther upper)

theorem lowerTwice (c : Char) : c.toLower.toLower = c.toLower := by
  rcases lowers c with same | ⟨upper,down⟩
  · rw [same,same]
  · rcases lowers c.toLower with same | ⟨again,-⟩
    · exact same
    · omega

theorem lowerBlank (c : Char) : isBlank c.toLower = isBlank c := by
  rcases lowers c with same | ⟨upper,down⟩
  · rw [same]
  · have visible : ∀ d : Char, 65 ≤ d.toNat → d.toNat ≤ 122 → isBlank d = false := by
      intro d low high
      simp only [isBlank,Bool.or_eq_false_iff,Bool.and_eq_false_iff,decide_eq_false_iff_not,
        beq_eq_false_iff_ne]
      omega
    rw [visible c (by omega) (by omega),visible c.toLower (by omega) (by omega)]

inductive SameLetter : Char → Char → Prop
  | same (c : Char) : SameLetter c c
  | lowered {c d : Char} (upper : 65 ≤ c.toNat ∧ c.toNat ≤ 90) (below : d.toNat = c.toNat + 32) : SameLetter c d
  | raised {c d : Char} (upper : 65 ≤ d.toNat ∧ d.toNat ≤ 90) (below : c.toNat = d.toNat + 32) : SameLetter c d

theorem sameLetter {c d : Char} : SameLetter c d ↔ c.toLower = d.toLower := by
  have meets : ∀ {c d : Char}, 65 ≤ c.toNat ∧ c.toNat ≤ 90 → d.toNat = c.toNat + 32 →
      c.toLower = d.toLower := by
    intro c d upper below
    rw [lowerOther (c := d) (by omega)]
    exact Char.toNat_inj.mp ((lowerUpper upper).trans below.symm)
  constructor
  · intro letter
    cases letter with
    | same => rfl
    | lowered upper below => exact meets upper below
    | raised upper below => exact (meets upper below).symm
  · intro lower
    rcases lowers c with own | ⟨upper,down⟩
    · rcases lowers d with other | ⟨upper,down⟩
      · rw [← own,lower,other]
        exact .same d
      · rw [← lower,own] at down
        exact .raised upper down
    · rcases lowers d with other | ⟨also,again⟩
      · rw [lower,other] at down
        exact .lowered upper down
      · rw [← lower] at again
        rw [Char.toNat_inj.mp (by omega : c.toNat = d.toNat)]
        exact .same d

theorem lowerAlike {s t : String} :
    lowerAscii s = lowerAscii t ↔ List.Forall₂ SameLetter s.toList t.toList := by
  have letters : SameLetter = fun c d => c.toLower = d.toLower :=
    funext fun _ => funext fun _ => propext sameLetter
  rw [lowerAscii,lowerAscii,String.ofList_inj,← List.forall₂_eq_eq_eq,List.forall₂_map_left_iff,
    List.forall₂_map_right_iff,letters]

theorem lowerTrim (s : String) : lowerAscii (trim s) = trim (lowerAscii s) := by
  simp only [lowerAscii,trim,String.toList_ofList]
  rw [stripMap (funext lowerBlank)]

theorem trimWithin {front back : List Char} (before : ∀ c ∈ front, isBlank c = true)
    (behind : ∀ c ∈ back, isBlank c = true) (s : String) :
    trim (String.ofList front ++ s ++ String.ofList back) = trim s := by
  simp only [trim,String.toList_append,String.toList_ofList,List.append_assoc]
  rw [stripWithin before behind]

end Text

namespace Provider

def Normal (p : Provider) : Prop := ofText p.name = p

instance (p : Provider) : Decidable p.Normal := inferInstanceAs (Decidable (ofText p.name = p))

def normalName (s : String) : String := Text.lowerAscii (Text.trim s)

theorem normalTwice (s : String) : normalName (normalName s) = normalName s := by
  simp only [normalName,Text.lowerAscii,Text.trim,String.toList_ofList]
  rw [Text.stripMap (funext Text.lowerBlank),Text.stripStripped,List.map_map]
  exact congrArg String.ofList (List.map_congr_left fun c _ => Text.lowerTwice c)

inductive Alias : Provider → String → Prop
  | google : Alias .google "google"
  | gmail : Alias .google "gmail"
  | microsoft : Alias .microsoft "microsoft"
  | outlook : Alias .microsoft "outlook"
  | office : Alias .microsoft "office365"

theorem Alias.read {p : Provider} {name : String} (known : Alias p name) : ofNormal name = p := by
  cases known <;> rfl

theorem aliasOrOwn (name : String) :
    Alias (ofNormal name) name ∨ ofNormal name = .custom name ∧ ∀ p, ¬ Alias p name := by
  unfold ofNormal
  split
  · rename_i known
    obtain rfl | rfl := known
    · exact .inl .google
    · exact .inl .gmail
  · rename_i other
    split
    · rename_i known
      obtain rfl | rfl | rfl := known
      · exact .inl .microsoft
      · exact .inl .outlook
      · exact .inl .office
    · rename_i another
      refine .inr ⟨rfl,fun p known => ?_⟩
      cases known <;> simp at other another

theorem ofNormalSame {m n : String} :
    ofNormal m = ofNormal n ↔ m = n ∨ ∃ p, Alias p m ∧ Alias p n := by
  constructor
  · intro same
    rcases aliasOrOwn m with first | ⟨own,lone⟩
    · rcases aliasOrOwn n with second | ⟨other,-⟩
      · exact .inr ⟨_,first,same ▸ second⟩
      · -- no known provider is one that stands for itself
        rw [same,other] at first
        cases first
    · rcases aliasOrOwn n with second | ⟨other,-⟩
      · rw [← same,own] at second
        cases second
      · rw [own,other] at same
        exact .inl (custom.inj same)
  · rintro (rfl | ⟨p,first,second⟩)
    · rfl
    · rw [first.read,second.read]

theorem nameNormal (s : String) : (ofText s).Normal := by
  change ofNormal (normalName (ofNormal (normalName s)).name) = ofNormal (normalName s)
  have stable := normalTwice s
  generalize normalName s = name at stable
  rcases aliasOrOwn name with known | ⟨own,-⟩
  · generalize ofNormal name = p at known
    cases known <;> decide +kernel
  · rw [own]
    change ofNormal (normalName name) = _
    rw [stable,own]

end Provider

end GrantKeeper
