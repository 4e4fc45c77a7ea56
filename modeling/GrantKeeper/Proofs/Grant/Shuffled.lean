import Mathlib.Data.List.Nodup
import GrantKeeper.Proofs.Grant.Told
import GrantKeeper.Proofs.Json.Formed
import GrantKeeper.Proofs.Vault.Record

/-! Records whose members are in any order, with other members among them, with some missing, and with
blanks anywhere. Each is read as the grant whose members it has. -/
namespace GrantKeeper
open Text (Octets)
open Time (Instant)

namespace Json
variable {α : Type} {entries others : List Entry} {members : List (String × Document)} {name : String}
  {d : Document} {r : Reader α} {otherwise a : α}

theorem denotesLexed {value : Octets} (denotes : Denotes d value) : Standing value ∧ lex value = d.lexemes := by
  have one : ∀ {lexeme}, Reads value [lexeme] → (∀ rest, skim .skipped [] .value (lexeme :: rest) = .ok rest) →
      Standing value ∧ lex value = [lexeme] := by
    intro lexeme reads passes
    have same := reads.self
    rw [← same] at reads
    exact ⟨⟨reads,by rw [same]; exact passes⟩,same⟩
  cases denotes with
  | text spelt => exact one (speltReads spelt) fun _ => rfl
  | true => exact one (readsBoolean true) fun _ => rfl
  | false => exact one (readsBoolean false) fun _ => rfl

namespace Layout

theorem Told.perm (told : Told entries name r otherwise a) (order : entries.Perm others) :
    Told others name r otherwise a where
  once := by
    rw [← order.countP_eq]
    exact told.once
  read v member := told.read v (order.mem_iff.mpr member)
  absent none := told.absent fun v member => none v (order.mem_iff.mp member)

theorem Told.among (told : Told entries name r otherwise a) (apart : ∀ v, (name,v) ∉ others) :
    Told (entries ++ others) name r otherwise a where
  once := by
    rw [List.countP_append,countAbsent.mpr apart]
    exact told.once
  read v member := by
    rcases List.mem_append.mp member with own | other
    · exact told.read v own
    · exact absurd other (apart v)
  absent none := told.absent fun v member => none v (List.mem_append_left _ member)

def lexed (member : String × Document) : Entry := (member.1,member.2.lexemes)

theorem toldKept (distinct : (members.map Prod.fst).Nodup) (there : (name,d) ∈ members) (takes : r.Takes d a)
    (dropped : List String) : Told ((members.filter fun m => m.1 ∉ dropped).map lexed) name r otherwise
      (if name ∈ dropped then otherwise else a) where
  once := by
    have one := List.nodup_iff_count_le_one.mp distinct name
    rw [List.count,List.countP_map] at one
    rw [List.countP_map]
    refine Nat.le_trans List.filter_sublist.countP_le (Nat.le_trans (Nat.le_of_eq ?_) one)
    exact List.countP_congr fun m _ => decide_eq_true_iff.trans beq_iff_eq.symm
  read v member := by
    obtain ⟨⟨other,e⟩,kept,same⟩ := List.mem_map.mp member
    obtain ⟨rfl,rfl⟩ := Prod.mk.inj same
    obtain ⟨inside,stays⟩ := List.mem_filter.mp kept
    cases List.inj_on_of_nodup_map distinct inside there rfl
    rw [if_neg (by simpa using stays)]
    exact takes
  absent none := by
    refine if_pos (Classical.byContradiction fun stays => ?_)
    exact none d.lexemes (List.mem_map.mpr ⟨(name,d),List.mem_filter.mpr ⟨there,by simpa using stays⟩,rfl⟩)

end Layout

def Row.Writes (row : Row) (member : String × Document) : Prop := row.1 = member.1 ∧ Denotes member.2 row.2

theorem writesLexed {rows : List Row} (own : List.Forall₂ Row.Writes rows members) :
    rows.map Row.entry = members.map Layout.lexed ∧ ∀ row ∈ rows, Standing row.2 := by
  induction own with
  | nil => exact ⟨rfl,nofun⟩
  | @cons row member rows members writes own ih =>
    obtain ⟨named,denotes⟩ := writes
    obtain ⟨standing,same⟩ := denotesLexed denotes
    refine ⟨?_,List.forall_mem_cons.mpr ⟨standing,ih.2⟩⟩
    rw [List.map_cons,List.map_cons,ih.1,Row.entry,Layout.lexed,named,same]

end Json

theorem Json.takesText (s : String) : Reader.text.Takes (.text s) s := Reader.readText s

theorem Json.takesStamp (t : Instant) : Reader.stamp.Takes (.text (Text.ofInt t.seconds)) t.floorSecond :=
  Reader.readStamp t

theorem Json.takesBoolean (b : Bool) : Reader.boolean.Takes (.boolean b) b := Reader.readBoolean b

namespace Grant
open Json (Document Formed Layout Object Reader Row takesBoolean takesStamp takesText)

def members (g : Grant) : List (String × Document) := [
  ("access_token",.text g.access),
  ("refresh_token",.text g.refresh),
  ("scope",.text g.scope),
  ("token_type",.text g.kind),
  ("expires_at",.text (Text.ofInt g.expiresAt.seconds)),
  ("created_at",.text (Text.ofInt g.createdAt.seconds)),
  ("valid",.boolean g.valid)]

theorem documentMembers (g : Grant) : g.document = .object g.members := rfl

def without (g : Grant) (dropped : List String) : Grant where
  access := if "access_token" ∈ dropped then absent.access else g.access
  refresh := if "refresh_token" ∈ dropped then absent.refresh else g.refresh
  scope := if "scope" ∈ dropped then absent.scope else g.scope
  kind := if "token_type" ∈ dropped then absent.kind else g.kind
  expiresAt := if "expires_at" ∈ dropped then absent.expiresAt else g.expiresAt
  createdAt := if "created_at" ∈ dropped then absent.createdAt else g.createdAt
  valid := if "valid" ∈ dropped then absent.valid else g.valid

/-- A text that is an object with the members of `g` but those that were dropped, and with others of other
names, in any order. -/
inductive Tells (g : Grant) (dropped : List String) : Octets → Prop
  | of {rows kept more : List Row} {text : Octets}
      (own : List.Forall₂ Row.Writes kept (g.members.filter fun m => m.1 ∉ dropped))
      (others : ∀ row ∈ more, row.1 ∉ g.members.map Prod.fst ∧ Formed .value row.2)
      (order : rows.Perm (kept ++ more)) (object : Object rows text) : Tells g dropped text

variable {g : Grant} {dropped : List String} {text : Octets}

theorem toldTells (tells : g.Tells dropped text) :
    ∃ entries, Json.Holds text entries ∧ (g.floored.without dropped).Told entries := by
  obtain ⟨own,others,order,object⟩ := tells
  rename_i rows kept more
  obtain ⟨lexed,standing⟩ := Json.writesLexed own
  have each : ∀ row ∈ rows, Json.Standing row.2 := by
    intro row member
    rcases List.mem_append.mp (order.mem_iff.mp member) with own | other
    · exact standing row own
    · exact Json.formedStanding (others row other).2
  have entries := order.map Row.entry
  rw [List.map_append,lexed] at entries
  have told : ∀ {α : Type} {name : String} {d : Document} {r : Reader α} {otherwise a : α},
      (name,d) ∈ g.members → r.Takes d a → Layout.Told (rows.map Row.entry) name r otherwise
        (if name ∈ dropped then otherwise else a) := by
    intro α name d r otherwise a there takes
    have distinct : (g.members.map Prod.fst).Nodup := by
      change ["access_token","refresh_token","scope","token_type","expires_at","created_at","valid"].Nodup
      decide
    refine ((Layout.toldKept distinct there takes dropped).among fun v member => ?_).perm entries.symm
    obtain ⟨row,other,same⟩ := List.mem_map.mp member
    refine (others row other).1 ?_
    rw [show row.1 = name from congrArg Prod.fst same]
    exact List.mem_map.mpr ⟨_,there,rfl⟩
  refine ⟨_,Json.objectHolds object each,?_⟩
  exact {
    access := told (by simp [members]) (takesText g.access)
    refresh := told (by simp [members]) (takesText g.refresh)
    scope := told (by simp [members]) (takesText g.scope)
    kind := told (by simp [members]) (takesText g.kind)
    expiresAt := told (by simp [members]) (takesStamp g.expiresAt)
    createdAt := told (by simp [members]) (takesStamp g.createdAt)
    valid := told (by simp [members]) (takesBoolean g.valid) }

theorem decodeTells (tells : g.Tells dropped text) :
    Json.decode reader text = .ok (g.floored.without dropped) := by
  obtain ⟨entries,holds,told⟩ := toldTells tells
  exact (decodedTold (.named holds)).mpr told

theorem withoutNone (g : Grant) : g.without [] = g := by
  simp [without]

theorem writtenTells (g : Grant) : g.Tells [] (Text.encode (g.document.pretty 0)) := by
  have text : ∀ name t, Row.Writes (Row.pretty 1 (name,.text t)) (name,.text t) := fun _ t =>
    ⟨rfl,.text (Json.speltQuote t)⟩
  have boolean : ∀ name b, Row.Writes (Row.pretty 1 (name,.boolean b)) (name,.boolean b) := by
    intro name b
    cases b
    · exact ⟨rfl,.false⟩
    · exact ⟨rfl,.true⟩
  have each : ∀ m ∈ g.members, Row.Writes (Row.pretty 1 m) m := by
    simp [members,text,boolean]
  have own : List.Forall₂ Row.Writes (g.members.map (Row.pretty 1)) (g.members.filter fun m => m.1 ∉ []) := by
    rw [List.filter_eq_self.mpr fun _ _ => by simp]
    exact List.forall₂_map_left_iff.mpr (List.forall₂_same.mpr each)
  have order : (g.members.map (Row.pretty 1)).Perm (g.members.map (Row.pretty 1) ++ []) := by
    rw [List.append_nil]
  rw [documentMembers]
  exact .of own (List.forall_mem_nil _) order (Json.objectPretty g.members)

end Grant

namespace Vault.Folder
open Json (Formed Row)

/-- A record is read as the grant whose members it has, in whatever order they are, whatever others are
among them and wherever blanks are; what is missing is as in the absent grant. So it is in a plain file,
with a key or without, and in a sealed one. -/
theorem recordsInAnyOrder {g : Grant} (whole : g.IsWhole) :
    g.Tells [] (plainRecord g) ∧ g.without [] = g ∧ ∀ dropped text, g.Tells dropped text →
      Json.decode Grant.reader text = .ok (g.without dropped) ∧
      (∀ key, readRecord key text = .ok (g.without dropped)) ∧
      ∀ key nonce, readRecord (some key) (Text.Base64.encode (key.seal nonce text)) = .ok (g.without dropped) := by
  refine ⟨g.writtenTells,g.withoutNone,fun dropped text tells => ?_⟩
  have decoded := Grant.decodeTells tells
  rw [whole] at decoded
  have plain : readPlain text = .ok (g.without dropped) := by
    rw [readPlain,decoded]
  refine ⟨decoded,fun key => ?_,fun key nonce => (readSealed key nonce text).trans plain⟩
  cases key with
  | none => exact plain
  | some key =>
    obtain ⟨-,-,-,object⟩ := tells
    rw [readRecord,if_pos (objectLooks object),plain]

theorem recordRearranged :
    let g := Grant.issued .epoch "A" "R" 60
    let dropped := ["refresh_token","scope","token_type","expires_at","created_at"]
    let text := Text.encode "\n\x7b \"valid\":true,\"x\":[-1.5e3,\x7b\x7d],\"access_token\": \"A\"\x7d"
    g.IsWhole ∧ g.Tells dropped text ∧
      readRecord none text = .ok { Grant.absent with access := "A", valid := true } := by
  intro g dropped text
  have whole : g.IsWhole := Grant.issuedWhole .epoch "A" "R" 60
  have space : Json.Blank [0x20] := Json.blankOne (by decide)
  have digit : ∀ b : UInt8, 0x30 ≤ b ∧ b ≤ 0x39 → Json.Digits [b] := fun b inside => ⟨nofun,by simpa using inside⟩
  have numeric : Json.Numeric ([0x2D] ++ ([0x31] ++ ([0x2E,0x35] ++ (0x65 :: ([] ++ [0x33]))))) :=
    .of (.inr rfl) (digit 0x31 (by decide)) nofun (.places (digit 0x35 (by decide)))
      (.scaled (.inl rfl) (.inl rfl) (digit 0x33 (by decide)))
  have list : Formed .value (Text.encode "[-1.5e3,\x7b\x7d]") :=
    .list (.items (.number numeric) Json.padNone (.item (.emptyObject Json.blankNone) Json.padNone))
  have access := Json.speltQuote "A"
  let valid : Row := ("valid",Text.encode "true")
  let other : Row := ("x",Text.encode "[-1.5e3,\x7b\x7d]")
  let token : Row := ("access_token",Text.encode (Json.quote "A"))
  have own : List.Forall₂ Row.Writes [token,valid] (g.members.filter fun m => m.1 ∉ dropped) := by
    have stays : (g.members.filter fun m => m.1 ∉ dropped) = [("access_token",.text "A"),("valid",.boolean true)] := by
      simp [Grant.members,dropped,g,Grant.issued]
    rw [stays]
    exact .cons ⟨rfl,.text access⟩ (.cons ⟨rfl,.true⟩ .nil)
  have others : ∀ row ∈ [other], row.1 ∉ g.members.map Prod.fst ∧ Formed .value row.2 := by
    intro row member
    rw [List.mem_singleton.mp member]
    exact ⟨by decide +kernel,list⟩
  have order : [valid,other,token].Perm ([token,valid] ++ [other]) := by decide +kernel
  have members : Json.Rows [valid,other,token] _ :=
    .next (Json.speltQuote "valid") (Json.padFront space) Json.padNone <|
    .next (Json.speltQuote "x") Json.padNone Json.padNone <|
    .last (Json.speltQuote "access_token") Json.padNone (Json.padFront space)
  have object : Json.Object [valid,other,token] text :=
    .filled members ⟨[0x0A],[],Json.blankOne (by decide),Json.blankNone,by decide +kernel⟩
  have tells : g.Tells dropped text := .of own others order object
  obtain ⟨-,-,read⟩ := recordsInAnyOrder whole
  exact ⟨whole,tells,(read dropped text tells).2.1 none⟩

end Vault.Folder

end GrantKeeper
