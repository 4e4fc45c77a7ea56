import GrantKeeper.Proofs.Grant.Record
import GrantKeeper.Proofs.Grant.Told
import GrantKeeper.Proofs.Json.Integer

/-! The instants of a record: the values that they are read from, as integers and as text, and that
what is written for an instant is one of those. -/
namespace GrantKeeper.Grant
open Json (Dates Entry Integral Layout Lexeme Reader)
open Text (Octets)
open Time (Instant second)

inductive Dating
  | expiry
  | creation

def Dating.name : Dating → String
  | .expiry => "expires_at"
  | .creation => "created_at"

def Dating.put (g : Grant) (t : Instant) : Dating → Grant
  | .expiry => { g with expiresAt := t }
  | .creation => { g with createdAt := t }

variable {front back : List Entry} {value : List Lexeme} {g h : Grant} {octets bare : Octets} {dating : Dating}

theorem toldPut {n : Int} {t : Instant} (told : g.Told (front ++ back))
    (apart : ∀ v, (dating.name,v) ∉ front ++ back) (dates : Dates value n) (of : t.IsSecond n) :
    (dating.put g t).Told (front ++ (dating.name,value) :: back) := by
  have stamps := Reader.readsStamp.mpr ⟨n,dates,of⟩
  cases dating with
  | expiry =>
    exact {
      access := (Layout.toldBeside (by decide)).mpr told.access
      refresh := (Layout.toldBeside (by decide)).mpr told.refresh
      scope := (Layout.toldBeside (by decide)).mpr told.scope
      kind := (Layout.toldBeside (by decide)).mpr told.kind
      expiresAt := (Layout.toldOnly apart).mpr stamps
      createdAt := (Layout.toldBeside (by decide)).mpr told.createdAt
      valid := (Layout.toldBeside (by decide)).mpr told.valid }
  | creation =>
    exact {
      access := (Layout.toldBeside (by decide)).mpr told.access
      refresh := (Layout.toldBeside (by decide)).mpr told.refresh
      scope := (Layout.toldBeside (by decide)).mpr told.scope
      kind := (Layout.toldBeside (by decide)).mpr told.kind
      expiresAt := (Layout.toldBeside (by decide)).mpr told.expiresAt
      createdAt := (Layout.toldOnly apart).mpr stamps
      valid := (Layout.toldBeside (by decide)).mpr told.valid }

theorem toldDated (told : g.Told (front ++ back)) (apart : ∀ v, (dating.name,v) ∉ front ++ back) :
    h.Told (front ++ (dating.name,value) :: back) ↔
      ∃ n t, Dates value n ∧ t.IsSecond n ∧ h = dating.put g t := by
  constructor
  · intro other
    obtain ⟨t,read⟩ : ∃ t, ∀ rest, Reader.stamp.read (value ++ rest) = .ok (t,rest) := by
      cases dating with
      | expiry => exact ⟨_,(Layout.toldOnly apart).mp other.expiresAt⟩
      | creation => exact ⟨_,(Layout.toldOnly apart).mp other.createdAt⟩
    obtain ⟨n,dates,of⟩ := Reader.readsStamp.mp read
    -- one record tells one grant, so the other members need no look
    exact ⟨n,t,dates,of,other.unique (toldPut told apart dates of)⟩
  · rintro ⟨n,t,dates,of,rfl⟩
    exact toldPut told apart dates of

theorem toldAlike {other : List Lexeme} (told : h.Told (front ++ (dating.name,value) :: back))
    (alike : ∀ n, Dates value n → Dates other n) : h.Told (front ++ (dating.name,other) :: back) := by
  have stamps : ∀ t : Instant, (∀ rest, Reader.stamp.read (value ++ rest) = .ok (t,rest)) →
      ∀ rest, Reader.stamp.read (other ++ rest) = .ok (t,rest) := by
    intro t reads
    obtain ⟨n,dates,second⟩ := Reader.readsStamp.mp reads
    exact Reader.readsStamp.mpr ⟨n,alike n dates,second⟩
  have apart : dating.name ≠ "access_token" ∧ dating.name ≠ "refresh_token" ∧ dating.name ≠ "scope" ∧
      dating.name ≠ "token_type" ∧ dating.name ≠ "valid" := by
    cases dating <;> decide
  obtain ⟨access,refresh,scope,kind,valid⟩ := apart
  exact {
    access := told.access.swap fun same => absurd same access
    refresh := told.refresh.swap fun same => absurd same refresh
    scope := told.scope.swap fun same => absurd same scope
    kind := told.kind.swap fun same => absurd same kind
    expiresAt := told.expiresAt.swap fun _ => stamps h.expiresAt
    createdAt := told.createdAt.swap fun _ => stamps h.createdAt
    valid := told.valid.swap fun same => absurd same valid }

structure DatesExactly : Prop where
  integer : ∀ (text : Octets) (n : Int), Json.lex text = [.ofInteger n] ↔
    ∃ before literal behind, text = before ++ (literal ++ behind) ∧
      (∀ b ∈ before, Json.isSpace b = true) ∧ (∀ b ∈ behind, Json.isSpace b = true) ∧
      Integral literal n ∧ literal ≠ Json.minusZero ∧
      -9223372036854775808 ≤ n ∧ n ≤ 18446744073709551615
  shaped : ∀ {octets : Octets} {g : Grant}, Json.decode reader octets = .ok g →
    ∃ entries, Members octets entries
  fitted : ∀ {bare octets : Octets} {front back : List Entry} {g : Grant} {dating : Dating}
    {value : List Lexeme}, Members bare (front ++ back) → Json.decode reader bare = .ok g →
    (∀ v, (dating.name,v) ∉ front ++ back) → Members octets (front ++ (dating.name,value) :: back) →
    ∀ h, Json.decode reader octets = .ok h ↔
      ∃ n t, Dates value n ∧ t.IsSecond n ∧ h = dating.put g t
  alike : ∀ {octets other : Octets} {front back : List Entry} {dating : Dating} {s : String} {n : Int},
    Text.Spells s n → Members octets (front ++ (dating.name,[.ofInteger n]) :: back) →
    Members other (front ++ (dating.name,[.ofText s]) :: back) →
    ∀ h, Json.decode reader octets = .ok h ↔ Json.decode reader other = .ok h
  written : ∀ g : Grant, Json.decode reader (Text.encode (g.document.pretty 0)) =
    .ok { g with expiresAt := g.expiresAt.floorSecond, createdAt := g.createdAt.floorSecond }
  floor : ∀ t : Instant, t.floorSecond.IsSecond t.seconds ∧ t.floorSecond.nanos ≤ t.nanos ∧
    t.nanos < t.floorSecond.nanos + second

/-- An instant is read from just those integers and texts that denote a second in range. Of integers,
only minus zero is not read as what it denotes. -/
theorem datesExactly : DatesExactly where
  integer _ _ := Json.lexIntegerIff
  shaped := decodedMembers
  fitted before read apart members h := by
    rw [decodedTold members]
    exact toldDated ((decodedTold before).mp read) apart
  alike spells integer text h := by
    rw [decodedTold integer,decodedTold text]
    constructor
    · refine fun told => toldAlike told fun m dates => ?_
      cases dates
      exact .text spells
    · refine fun told => toldAlike told fun m dates => ?_
      cases dates with
      | text again =>
        rw [Text.spellsOnce again spells]
        exact .integer _
  written := decodeDocument
  floor t := ⟨t.floorIsSecond,Instant.secondsBelow t.nanos,t.floorNear⟩

def bareRecord : Octets := Text.encode "\x7b\"valid\":true\x7d"

def datedRecord : Octets := Text.encode "\x7b\"valid\":true,\"created_at\":\" -05\"\x7d"

theorem datedRecordRead : ∃ front back t,
    Members bareRecord (front ++ back) ∧ Json.decode reader bareRecord = .ok { absent with valid := true } ∧
    (∀ v, (Dating.creation.name,v) ∉ front ++ back) ∧
    Members datedRecord (front ++ (Dating.creation.name,[.ofText " -05"]) :: back) ∧
    t.nanos = -5 * second ∧
    Json.decode reader datedRecord = .ok { absent with valid := true, createdAt := t } := by
  have boolean : Json.Whole [.boolean true] := fun _ => rfl
  have text : Json.Whole [.ofText " -05"] := fun _ => rfl
  have bare : Members bareRecord ([("valid",[.boolean true])] ++ []) :=
    .named ⟨by decide +kernel,by simpa using boolean⟩
  have dated : Members datedRecord ([("valid",[.boolean true])] ++ [("created_at",[.ofText " -05"])]) :=
    .named ⟨by decide +kernel,by simpa using ⟨boolean,text⟩⟩
  have read : Json.decode reader bareRecord = .ok { absent with valid := true } := by decide +kernel
  have apart : ∀ v, (Dating.creation.name,v) ∉ [("valid",[Lexeme.boolean true])] ++ [] := by
    intro v
    simp [Dating.name]
  have digits : Text.Numeral ['0','5'] 5 := .more (.one (d := 0) (by decide)) (d := 5) (by decide)
  have spells : Text.Spells " -05" (-5) :=
    ⟨[' '],['-','0','5'],[],rfl,List.all_eq_true.mp rfl,.minus digits,nofun⟩
  let t : Instant := ⟨-5 * second,by decide,by decide⟩
  have decoded := (datesExactly.fitted bare read apart dated _).mpr
    ⟨-5,t,.text spells,⟨by decide,by decide,rfl⟩,rfl⟩
  exact ⟨_,_,t,bare,read,apart,dated,rfl,decoded⟩

theorem minusZeroUnread : ¬ ∀ literal n, Integral literal n → -8334601228800 ≤ n → n ≤ 8210266876799 →
    ∃ g, Json.decode reader (Text.encode "\x7b\"expires_at\":" ++ literal ++ Text.encode "\x7d") = .ok g ∧
      g.expiresAt.IsSecond n := by
  intro all
  obtain ⟨g,read,-⟩ := all Json.minusZero 0 Json.minusZeroIntegral (by decide) (by decide)
  have refused : Json.decode reader (Text.encode "\x7b\"expires_at\":" ++ Json.minusZero ++ Text.encode "\x7d") =
      .error (.unfit .noStamp) := by decide +kernel
  rw [read] at refused
  cases refused

end GrantKeeper.Grant
