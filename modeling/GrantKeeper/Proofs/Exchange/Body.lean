import GrantKeeper.Exchange.Answer
import GrantKeeper.Proofs.Json.Decoded

/-! The bodies of successful answers, as objects and as lists, and the refusals among the same texts. -/
namespace GrantKeeper.Exchange
open Json (Entry Holds Layout Lexeme Lists Mentions Reader)
open Text (Octets)

namespace Body

structure Members (entries : List Entry) (b : Body) : Prop where
  access : Mentions entries "access_token" .ofText b.access
  kind : Mentions entries "token_type" .ofText b.kind
  lifetime : Mentions entries "expires_in" .ofInteger b.lifetime
  refresh : Mentions entries "refresh_token" .ofText b.refresh
  scope : Mentions entries "scope" .ofText b.scope
  code : Mentions entries "error" .ofText b.code
  description : Mentions entries "error_description" .ofText b.description

def elements (b : Body) : List (List Lexeme) := [
  [b.access.elim .null .ofText],
  [b.kind.elim .null .ofText],
  [b.lifetime.elim .null .ofInteger],
  [b.refresh.elim .null .ofText],
  [b.scope.elim .null .ofText],
  [b.code.elim .null .ofText],
  [b.description.elim .null .ofText]]

def Worded (b : Body) : Prop := ∀ n, b.lifetime = some n → Text.inWord n = true

structure Spelled (octets : Octets) (b : Body) : Prop where
  spelling : (∃ entries, Holds octets entries ∧ b.Members entries) ∨ Json.lex octets = Json.list b.elements
  worded : b.Worded

theorem exact : layout.Exact := by
  have texts := Reader.exactText.optional
  have words := Reader.exactWord.optional
  intro field member draft
  simp only [layout,List.mem_cons,List.not_mem_nil,or_false] at member
  obtain rfl | rfl | rfl | rfl | rfl | rfl | rfl := member
  · exact Json.Field.exact texts
  · exact Json.Field.exact texts
  · exact Json.Field.exact words
  · exact Json.Field.exact texts
  · exact Json.Field.exact texts
  · exact Json.Field.exact texts
  · exact Json.Field.exact texts

theorem needed : ∀ field ∈ layout.fields, field.need ≠ .never := by
  simp [layout,Json.Field.of]

theorem finished (seen : List String) (b : Body) : layout.finish seen b = .ok b := rfl

theorem parts :
    layout.Parts "access_token" access ∧ layout.Parts "token_type" kind ∧
    layout.Parts "expires_in" lifetime ∧ layout.Parts "refresh_token" refresh ∧
    layout.Parts "scope" scope ∧ layout.Parts "error" code ∧
    layout.Parts "error_description" description := by
  refine ⟨?_,?_,?_,?_,?_,?_,?_⟩
  all_goals
    intro field member other draft
    simp only [layout,List.mem_cons,List.not_mem_nil,or_false] at member
    obtain rfl | rfl | rfl | rfl | rfl | rfl | rfl := member
  all_goals first
    | exact absurd rfl other
    | exact Json.Field.gives (Reader.givesAny _) fun _ _ => rfl

structure Told (entries : List Entry) (b : Body) : Prop where
  access : Layout.Told entries "access_token" (.optional .text) none b.access
  kind : Layout.Told entries "token_type" (.optional .text) none b.kind
  lifetime : Layout.Told entries "expires_in" (.optional .word) none b.lifetime
  refresh : Layout.Told entries "refresh_token" (.optional .text) none b.refresh
  scope : Layout.Told entries "scope" (.optional .text) none b.scope
  code : Layout.Told entries "error" (.optional .text) none b.code
  description : Layout.Told entries "error_description" (.optional .text) none b.description

variable {entries : List Entry} {b c : Body} {octets : Octets}

theorem told {seen : List String} (builds : layout.Builds ([],layout.blank) entries (seen,b)) :
    b.Told entries := by
  obtain ⟨access,kind,lifetime,refresh,scope,code,description⟩ := parts
  exact {
    access := Layout.builtTold rfl access (fun _ _ => rfl) builds rfl
    kind := Layout.builtTold rfl kind (fun _ _ => rfl) builds rfl
    lifetime := Layout.builtTold rfl lifetime (fun _ _ => rfl) builds rfl
    refresh := Layout.builtTold rfl refresh (fun _ _ => rfl) builds rfl
    scope := Layout.builtTold rfl scope (fun _ _ => rfl) builds rfl
    code := Layout.builtTold rfl code (fun _ _ => rfl) builds rfl
    description := Layout.builtTold rfl description (fun _ _ => rfl) builds rfl }

theorem Told.unique (told : b.Told entries) (again : c.Told entries) : b = c := by
  cases b
  cases c
  rw [mk.injEq]
  exact ⟨told.access.unique again.access,told.kind.unique again.kind,told.lifetime.unique again.lifetime,
    told.refresh.unique again.refresh,told.scope.unique again.scope,told.code.unique again.code,
    told.description.unique again.description⟩

theorem Told.builds (told : b.Told entries) (holds : Holds octets entries) :
    ∃ seen, layout.Builds ([],layout.blank) entries (seen,b) := by
  have some : ∃ q, layout.Builds ([],layout.blank) entries q := by
    refine Layout.buildable holds.whole ?_ fun _ seen => by cases seen
    intro name field known
    obtain ⟨member,rfl⟩ := Layout.fieldNamed known
    simp only [layout,List.mem_cons,List.not_mem_nil,or_false] at member
    obtain rfl | rfl | rfl | rfl | rfl | rfl | rfl := member
    · exact told.access.fits
    · exact told.kind.fits
    · exact told.lifetime.fits
    · exact told.refresh.fits
    · exact told.scope.fits
    · exact told.code.fits
    · exact told.description.fits
  obtain ⟨⟨seen,c⟩,builds⟩ := some
  rw [told.unique (Body.told builds)]
  exact ⟨seen,builds⟩

theorem toldMembers : b.Told entries ↔ b.Members entries ∧ b.Worded := by
  have texts : ∀ {name : String} {v : Option String},
      Layout.Told entries name (.optional .text) none v ↔ Mentions entries name .ofText v := by
    intro name v
    rw [Layout.toldMentions Reader.textShows]
    exact and_iff_left fun _ _ => trivial
  have words : Layout.Told entries "expires_in" (.optional .word) none b.lifetime ↔
      Mentions entries "expires_in" .ofInteger b.lifetime ∧ b.Worded := Layout.toldMentions Reader.wordShows
  constructor
  · intro told
    exact ⟨⟨texts.mp told.access,texts.mp told.kind,(words.mp told.lifetime).1,texts.mp told.refresh,
      texts.mp told.scope,texts.mp told.code,texts.mp told.description⟩,(words.mp told.lifetime).2⟩
  · rintro ⟨members,worded⟩
    exact ⟨texts.mpr members.access,texts.mpr members.kind,words.mpr ⟨members.lifetime,worded⟩,
      texts.mpr members.refresh,texts.mpr members.scope,texts.mpr members.code,
      texts.mpr members.description⟩

theorem filled {values : List (List Lexeme)} :
    Layout.Fills layout.blank layout.fields values b ↔ values = b.elements ∧ b.Worded := by
  constructor
  · intro fills
    obtain ⟨access,_,rfl,-,fills⟩ := (Layout.fillsShown Reader.textShows Reader.exactText).mp fills
    obtain ⟨kind,_,rfl,-,fills⟩ := (Layout.fillsShown Reader.textShows Reader.exactText).mp fills
    obtain ⟨lifetime,_,rfl,worded,fills⟩ := (Layout.fillsShown Reader.wordShows Reader.exactWord).mp fills
    obtain ⟨refresh,_,rfl,-,fills⟩ := (Layout.fillsShown Reader.textShows Reader.exactText).mp fills
    obtain ⟨scope,_,rfl,-,fills⟩ := (Layout.fillsShown Reader.textShows Reader.exactText).mp fills
    obtain ⟨code,_,rfl,-,fills⟩ := (Layout.fillsShown Reader.textShows Reader.exactText).mp fills
    obtain ⟨description,_,rfl,-,fills⟩ := (Layout.fillsShown Reader.textShows Reader.exactText).mp fills
    cases fills
    exact ⟨rfl,worded⟩
  · rintro ⟨rfl,worded⟩
    have free : ∀ v : Option String, ∀ s, v = some s → True := fun _ _ _ => trivial
    refine (Layout.fillsShown Reader.textShows Reader.exactText).mpr ⟨_,_,rfl,free _,?_⟩
    refine (Layout.fillsShown Reader.textShows Reader.exactText).mpr ⟨_,_,rfl,free _,?_⟩
    refine (Layout.fillsShown Reader.wordShows Reader.exactWord).mpr ⟨_,_,rfl,worded,?_⟩
    refine (Layout.fillsShown Reader.textShows Reader.exactText).mpr ⟨_,_,rfl,free _,?_⟩
    refine (Layout.fillsShown Reader.textShows Reader.exactText).mpr ⟨_,_,rfl,free _,?_⟩
    refine (Layout.fillsShown Reader.textShows Reader.exactText).mpr ⟨_,_,rfl,free _,?_⟩
    refine (Layout.fillsShown Reader.textShows Reader.exactText).mpr ⟨_,_,rfl,free _,?_⟩
    exact .none _

theorem decoded : Json.decode reader octets = .ok b ↔ b.Spelled octets := by
  constructor
  · intro decoded
    rcases Layout.decodedShape exact decoded with ⟨entries,holds⟩ | ⟨s,opens⟩
    · obtain ⟨seen,builds,-⟩ := (Layout.decodedObject exact holds).mp decoded
      obtain ⟨members,worded⟩ := toldMembers.mp (told builds)
      exact ⟨.inl ⟨entries,holds,members⟩,worded⟩
    · obtain ⟨values,same,fills⟩ := (Layout.decodedList exact needed opens).mp decoded
      obtain ⟨rfl,worded⟩ := filled.mp fills
      exact ⟨.inr same,worded⟩
  · rintro ⟨⟨entries,holds,members⟩ | same,worded⟩
    · obtain ⟨seen,builds⟩ := (toldMembers.mpr ⟨members,worded⟩).builds holds
      exact (Layout.decodedObject exact holds).mpr ⟨seen,builds,finished seen b⟩
    · exact (Layout.decodedList exact needed same).mpr ⟨_,same,filled.mpr ⟨rfl,worded⟩⟩

def Coded (octets : Octets) (code : String) : Prop :=
  (∃ entries, Holds octets entries ∧ ("error",[.ofText code]) ∈ entries) ∨
  ∃ values, Lists octets values ∧ values[5]? = some [.ofText code]

theorem elementsWhole (b : Body) : ∀ value ∈ b.elements, Json.Whole value := by
  have texts : ∀ v : Option String, Json.Whole [v.elim .null .ofText] := by
    intro v rest
    cases v <;> rfl
  have words : ∀ v : Option Int, Json.Whole [v.elim .null .ofInteger] := by
    intro v rest
    cases v <;> rfl
  intro value member
  simp only [elements,List.mem_cons,List.not_mem_nil,or_false] at member
  obtain rfl | rfl | rfl | rfl | rfl | rfl | rfl := member
  · exact texts _
  · exact texts _
  · exact words _
  · exact texts _
  · exact texts _
  · exact texts _
  · exact texts _

theorem Spelled.code {code : String} (spelled : b.Spelled octets) (coded : Coded octets code) :
    b.code = some code := by
  have shown : ∀ v : Option String, [Lexeme.ofText code] = [v.elim .null .ofText] → v = some code := by
    intro v same
    cases v <;> cases same
    rfl
  rcases coded with ⟨entries,holds,member⟩ | ⟨values,lists,sixth⟩
  · rcases spelled.spelling with ⟨others,again,members⟩ | same
    · cases holds.unique again
      exact shown _ (members.code.each _ member)
    · cases entries <;> cases holds.lexemes.symm.trans same
  · rcases spelled.spelling with ⟨others,again,members⟩ | same
    · cases values <;> cases others <;> cases again.lexemes.symm.trans lists.lexemes
    · cases lists.unique ⟨same,elementsWhole b⟩
      exact shown _ (Option.some.inj sixth).symm

end Body

end GrantKeeper.Exchange
