import GrantKeeper.Grant.Record
import GrantKeeper.Proofs.Json.Positional
import GrantKeeper.Proofs.Json.Stamp

/-! What the record of a grant says. Every member is read by itself, and one that is missing leaves
its part of the grant as it is in the absent grant. -/
namespace GrantKeeper
open Text (Octets)

namespace Json

theorem Reader.exactBoolean : Reader.boolean.Exact := by
  refine exactSingle ?_
  intro lexeme b taken
  split at taken
  · exact fun _ => rfl
  · cases taken

namespace Layout
variable {α : Type} {front back : List Entry} {name other : String} {value : List Lexeme} {r : Reader α}
  {otherwise a : α}

theorem toldOnly (apart : ∀ value, (name,value) ∉ front ++ back) :
    Told (front ++ (name,value) :: back) name r otherwise a ↔ ∀ rest, r.read (value ++ rest) = .ok (a,rest) := by
  have member : (name,value) ∈ front ++ (name,value) :: back :=
    List.mem_append_right _ List.mem_cons_self
  constructor
  · exact fun told => told.read value member
  · intro reads
    have none := countAbsent.mpr apart
    rw [List.countP_append] at none
    refine ⟨?_,?_,fun absent => absurd member (absent value)⟩
    · rw [List.countP_append,List.countP_cons]
      split <;> omega
    · intro value' there
      have same : value' = value := by
        rcases List.mem_append.mp there with early | late
        · exact absurd (List.mem_append_left _ early) (apart value')
        · rcases List.mem_cons.mp late with here | behind
          · exact (Prod.mk.inj here).2
          · exact absurd (List.mem_append_right _ behind) (apart value')
      rw [same]
      exact reads

theorem toldBeside (apart : other ≠ name) :
    Told (front ++ (other,value) :: back) name r otherwise a ↔ Told (front ++ back) name r otherwise a := by
  have count : (front ++ (other,value) :: back).countP (·.1 = name) = (front ++ back).countP (·.1 = name) := by
    simp [List.countP_append,apart]
  have same : ∀ v, (name,v) ∈ front ++ (other,value) :: back ↔ (name,v) ∈ front ++ back := by
    intro v
    simp [apart.symm]
  constructor
  · rintro ⟨once,read,absent⟩
    exact ⟨by rwa [← count],fun v member => read v ((same v).mpr member),
      fun none => absent fun v member => none v ((same v).mp member)⟩
  · rintro ⟨once,read,absent⟩
    exact ⟨by rwa [count],fun v member => read v ((same v).mp member),
      fun none => absent fun v member => none v ((same v).mpr member)⟩

theorem Told.swap {value' : List Lexeme} (told : Told (front ++ (other,value) :: back) name r otherwise a)
    (alike : other = name → (∀ rest, r.read (value ++ rest) = .ok (a,rest)) →
      ∀ rest, r.read (value' ++ rest) = .ok (a,rest)) :
    Told (front ++ (other,value') :: back) name r otherwise a := by
  obtain ⟨once,read,absent⟩ := told
  refine ⟨?_,?_,?_⟩
  · rw [List.countP_append,List.countP_cons] at once ⊢
    exact once
  · intro v member
    rcases List.mem_append.mp member with early | late
    · exact read v (List.mem_append_left _ early)
    · rcases List.mem_cons.mp late with here | behind
      · obtain ⟨rfl,rfl⟩ := Prod.mk.inj here
        exact alike rfl (read value (List.mem_append_right _ List.mem_cons_self))
      · exact read v (List.mem_append_right _ (List.mem_cons_of_mem _ behind))
  · intro none
    refine absent fun v member => ?_
    rcases List.mem_append.mp member with early | late
    · exact none v (List.mem_append_left _ early)
    · rcases List.mem_cons.mp late with here | behind
      · obtain ⟨rfl,rfl⟩ := Prod.mk.inj here
        exact none value' (List.mem_append_right _ List.mem_cons_self)
      · exact none v (List.mem_append_right _ (List.mem_cons_of_mem _ behind))

end Layout

end Json

namespace Grant
open Json (Entry Holds Layout Lexeme Lists Reader)
open Time (Instant)

structure Told (entries : List Entry) (g : Grant) : Prop where
  access : Layout.Told entries "access_token" .text "" g.access
  refresh : Layout.Told entries "refresh_token" .text "" g.refresh
  scope : Layout.Told entries "scope" .text "" g.scope
  kind : Layout.Told entries "token_type" .text "" g.kind
  expiresAt : Layout.Told entries "expires_at" .stamp .epoch g.expiresAt
  createdAt : Layout.Told entries "created_at" .stamp .epoch g.createdAt
  valid : Layout.Told entries "valid" .boolean false g.valid

theorem exact : layout.Exact := by
  intro field member draft
  simp only [layout,List.mem_cons,List.not_mem_nil,or_false] at member
  obtain rfl | rfl | rfl | rfl | rfl | rfl | rfl := member
  · exact Json.Field.exact Reader.exactText
  · exact Json.Field.exact Reader.exactText
  · exact Json.Field.exact Reader.exactText
  · exact Json.Field.exact Reader.exactText
  · exact Json.Field.exact Reader.exactStamp
  · exact Json.Field.exact Reader.exactStamp
  · exact Json.Field.exact Reader.exactBoolean

theorem free : ∀ field ∈ layout.fields, field.need = .never := by
  simp [layout,Json.Field.of]

theorem finished (seen : List String) (g : Grant) : layout.finish seen g = .ok g := rfl

theorem parts :
    layout.Parts "access_token" access ∧ layout.Parts "refresh_token" refresh ∧
    layout.Parts "scope" scope ∧ layout.Parts "token_type" kind ∧
    layout.Parts "expires_at" expiresAt ∧ layout.Parts "created_at" createdAt ∧
    layout.Parts "valid" valid := by
  refine ⟨?_,?_,?_,?_,?_,?_,?_⟩
  all_goals
    intro field member other draft
    simp only [layout,List.mem_cons,List.not_mem_nil,or_false] at member
    obtain rfl | rfl | rfl | rfl | rfl | rfl | rfl := member
  all_goals first
    | exact absurd rfl other
    | exact Json.Field.gives (Reader.givesAny _) fun _ _ => rfl

variable {entries : List Entry} {g h : Grant} {octets : Octets}

theorem told {seen : List String} (builds : layout.Builds ([],layout.blank) entries (seen,g)) :
    g.Told entries := by
  obtain ⟨access,refresh,scope,kind,expiresAt,createdAt,valid⟩ := parts
  exact {
    access := Layout.builtTold rfl access (fun _ _ => rfl) builds rfl
    refresh := Layout.builtTold rfl refresh (fun _ _ => rfl) builds rfl
    scope := Layout.builtTold rfl scope (fun _ _ => rfl) builds rfl
    kind := Layout.builtTold rfl kind (fun _ _ => rfl) builds rfl
    expiresAt := Layout.builtTold rfl expiresAt (fun _ _ => rfl) builds rfl
    createdAt := Layout.builtTold rfl createdAt (fun _ _ => rfl) builds rfl
    valid := Layout.builtTold rfl valid (fun _ _ => rfl) builds rfl }

theorem Told.unique (told : g.Told entries) (again : h.Told entries) : g = h := by
  cases g
  cases h
  rw [mk.injEq]
  exact ⟨told.access.unique again.access,told.refresh.unique again.refresh,told.scope.unique again.scope,
    told.kind.unique again.kind,told.expiresAt.unique again.expiresAt,
    told.createdAt.unique again.createdAt,told.valid.unique again.valid⟩

theorem Told.builds (told : g.Told entries) (whole : ∀ entry ∈ entries, Json.Whole entry.2) :
    ∃ seen, layout.Builds ([],layout.blank) entries (seen,g) := by
  have some : ∃ q, layout.Builds ([],layout.blank) entries q := by
    refine Layout.buildable whole ?_ fun _ seen => by cases seen
    intro name field known
    obtain ⟨member,rfl⟩ := Layout.fieldNamed known
    simp only [layout,List.mem_cons,List.not_mem_nil,or_false] at member
    obtain rfl | rfl | rfl | rfl | rfl | rfl | rfl := member
    · exact told.access.fits
    · exact told.refresh.fits
    · exact told.scope.fits
    · exact told.kind.fits
    · exact told.expiresAt.fits
    · exact told.createdAt.fits
    · exact told.valid.fits
  obtain ⟨⟨seen,h⟩,builds⟩ := some
  rw [told.unique (Grant.told builds)]
  exact ⟨seen,builds⟩

inductive Members (octets : Octets) : List Entry → Prop
  | named {entries : List Entry} (holds : Holds octets entries) : Members octets entries
  | listed {values : List (List Lexeme)} (lists : Lists octets values) (fits : values.length ≤ layout.fields.length) :
      Members octets (layout.names.zip values)

theorem decodedTold (members : Members octets entries) :
    Json.decode reader octets = .ok g ↔ g.Told entries := by
  cases members with
  | named holds =>
    constructor
    · intro decoded
      obtain ⟨seen,builds,-⟩ := (Layout.decodedObject exact holds).mp decoded
      exact told builds
    · intro told
      obtain ⟨seen,builds⟩ := told.builds holds.whole
      exact (Layout.decodedObject exact holds).mpr ⟨seen,builds,finished seen g⟩
  | @listed values lists fits =>
    have distinct : layout.names.Nodup := by decide
    have listed := Layout.decodedListed (a := g) exact free distinct lists
    constructor
    · intro decoded
      obtain ⟨-,seen,builds⟩ := listed.mp decoded
      exact told builds
    · intro told
      have whole : ∀ entry ∈ layout.names.zip values, Json.Whole entry.2 := fun entry member =>
        lists.whole entry.2 (List.of_mem_zip member).2
      exact listed.mpr ⟨fits,told.builds whole⟩

theorem decodedMembers (decoded : Json.decode reader octets = .ok g) : ∃ entries, Members octets entries := by
  rcases Layout.decodedShape exact decoded with ⟨entries,holds⟩ | ⟨s,opens⟩
  · exact ⟨entries,.named holds⟩
  · obtain ⟨values,early,late,lists,split,fills⟩ := Layout.elementsDecoded exact opens decoded
    refine ⟨_,.listed lists ?_⟩
    rw [split,fills.length,List.length_append]
    omega

end Grant

end GrantKeeper
