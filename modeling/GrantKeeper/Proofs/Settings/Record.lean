import GrantKeeper.Proofs.Grant.Record
import GrantKeeper.Proofs.Json.Listed
import GrantKeeper.Proofs.Provider
import GrantKeeper.Settings

/-! Settings are read back from the file that was written for them, if a file can hold them at
all; what is read from any file can be held. -/
namespace GrantKeeper
open Json (Document Lexeme Reader Layout)

theorem Json.Reader.readWord {n : Int} (fits : Text.inWord n = true) (rest : List Lexeme) :
    Reader.word.read (.number (some (.integer n)) :: rest) = .ok (n,rest) := by
  simp only [Reader.word,Reader.single,if_pos fits]
  rfl

theorem Json.Reader.readsWord : Reader.word.Gives fun n => Text.inWord n = true := by
  intro s n rest read
  cases s with
  | nil => cases read
  | cons lexeme s =>
    simp only [Reader.word,Reader.single] at read
    split at read
    · split at read
      · rename_i fits
        cases read
        exact fits
      · cases read
    · cases read

theorem Provider.readName {p : Provider} (normal : p.Normal) (rest : List Lexeme) :
    Provider.reader.read (.text (some p.name) :: rest) = .ok (p,rest) := by
  change Except.ok (Provider.ofText p.name,rest) = _
  rw [normal]

theorem Provider.readsNormal : Provider.reader.Gives Provider.Normal :=
  Reader.text.givesAny.map fun s _ => Provider.nameNormal s

namespace Enrollment

theorem documentInWords (e : Enrollment) : e.document.InWords := by
  simp [document,Provider.document,Document.InWords,Json.MembersInWords]

theorem readsWritten {e : Enrollment} (normal : e.provider.Normal) : reader.Takes e.document e := by
  intro rest
  have written : e.document.lexemes ++ rest =
      .openObject :: .text (some "account_id") :: .colon :: .text (some e.id) :: .comma ::
      .text (some "provider") :: .colon :: .text (some e.provider.name) :: .comma ::
      .text (some "client_id") :: .colon :: .text (some e.clientId) :: .comma ::
      .text (some "client_secret") :: .colon :: .text (some e.clientSecret) :: .comma ::
      .text (some "redirect_uri") :: .colon :: .text (some e.redirect) :: .comma ::
      .text (some "user_email") :: .colon :: .text (some e.email) :: .closeObject :: rest := by
    simp [document,Provider.document,Document.lexemes,Json.memberLexemes,List.intercalate_cons_cons]
  rw [written]
  change layout.members [] blank _ = _
  rw [Layout.membersNext rfl rfl (Reader.readText e.id _),
    Layout.membersNext rfl rfl (Provider.readName normal _),
    Layout.membersNext rfl rfl (Reader.readText e.clientId _),
    Layout.membersNext rfl rfl (Reader.readText e.clientSecret _),
    Layout.membersNext rfl rfl (Reader.readText e.redirect _),
    Layout.membersLast rfl rfl (Reader.readText e.email _)]
  rfl

theorem readsNormal : reader.Gives fun e => e.provider.Normal := by
  refine Layout.Keeps.gives ⟨?_,?_⟩
  · change Provider.Normal (.custom "")
    decide +kernel
  · intro field member draft normal
    simp only [layout,List.mem_cons,List.not_mem_nil,or_false] at member
    rcases member with rfl | rfl | rfl | rfl | rfl | rfl
    · exact Json.Field.gives (Reader.givesAny _) fun _ _ => normal
    · exact Json.Field.gives Provider.readsNormal fun _ read => read
    all_goals exact Json.Field.gives (Reader.givesAny _) fun _ _ => normal

end Enrollment

namespace Settings

structure Tidy (s : Settings) : Prop where
  word : Text.inWord s.bufferMinutes = true
  normal : ∀ e ∈ s.accounts, e.provider.Normal

theorem documentInWords {s : Settings} (tidy : s.Tidy) : s.document.InWords := by
  have items : ∀ es : List Enrollment, Json.ItemsInWords (es.map Enrollment.document) := by
    intro es
    induction es with
    | nil => trivial
    | cons e es ih => exact ⟨e.documentInWords,ih⟩
  have word := tidy.word
  cases directory : s.vaultDirectory <;>
    simp [document,directory,Document.InWords,Json.MembersInWords,word,items]

theorem readsWritten {s : Settings} (tidy : s.Tidy) : reader.Takes s.document s := by
  have accounts := Reader.listWritten fun e member => Enrollment.readsWritten (tidy.normal e member)
  have word := Reader.readWord tidy.word
  obtain ⟨refresh,minutes,directory,es⟩ := s
  intro rest
  have ending : ∀ (seen : List String) (draft : Settings), seen.contains "accounts" = false →
      layout.members seen draft (.text (some "accounts") :: .colon ::
        ((Document.list (es.map Enrollment.document)).lexemes ++ .closeObject :: rest)) =
      .ok ({ draft with accounts := es },rest) := by
    intro seen draft new
    rw [Layout.membersLast rfl new (accounts _)]
    rfl
  cases directory with
  | none =>
    have written : (document ⟨refresh,minutes,none,es⟩).lexemes ++ rest =
        .openObject :: .text (some "auto_refresh") :: .colon :: .boolean refresh :: .comma ::
        .text (some "refresh_buffer_minutes") :: .colon :: .number (some (.integer minutes)) :: .comma ::
        .text (some "accounts") :: .colon ::
          ((Document.list (es.map Enrollment.document)).lexemes ++ .closeObject :: rest) := by
      simp [document,Document.lexemes,Json.memberLexemes,List.intercalate_cons_cons]
    rw [written]
    change layout.members [] default _ = _
    rw [Layout.membersNext rfl rfl (Reader.readBoolean refresh _),
      Layout.membersNext rfl rfl (word _),ending _ _ rfl]
    rfl
  | some directory =>
    have written : (document ⟨refresh,minutes,some directory,es⟩).lexemes ++ rest =
        .openObject :: .text (some "auto_refresh") :: .colon :: .boolean refresh :: .comma ::
        .text (some "refresh_buffer_minutes") :: .colon :: .number (some (.integer minutes)) :: .comma ::
        .text (some "token_dir") :: .colon :: .text (some directory) :: .comma ::
        .text (some "accounts") :: .colon ::
          ((Document.list (es.map Enrollment.document)).lexemes ++ .closeObject :: rest) := by
      simp [document,Document.lexemes,Json.memberLexemes,List.intercalate_cons_cons]
    have path : ∀ rest, (Reader.optional .path).read (.text (some directory) :: rest) =
        .ok (some directory,rest) := fun _ => rfl
    rw [written]
    change layout.members [] default _ = _
    rw [Layout.membersNext rfl rfl (Reader.readBoolean refresh _),
      Layout.membersNext rfl rfl (word _),Layout.membersNext rfl rfl (path _),ending _ _ rfl]

theorem readsTidy : reader.Gives Tidy := by
  refine Layout.Keeps.gives ⟨⟨by decide,nofun⟩,?_⟩
  intro field member draft tidy
  obtain ⟨word,normal⟩ := tidy
  simp only [layout,List.mem_cons,List.not_mem_nil,or_false] at member
  rcases member with rfl | rfl | rfl | rfl
  · exact Json.Field.gives (Reader.givesAny _) fun _ _ => ⟨word,normal⟩
  · exact Json.Field.gives Reader.readsWord fun _ read => ⟨read,normal⟩
  · exact Json.Field.gives (Reader.givesAny _) fun _ _ => ⟨word,normal⟩
  · exact Json.Field.gives Enrollment.readsNormal.list fun _ read => ⟨word,read⟩

theorem ofContentsTidy {p : Disk.Path} {octets : Text.Octets} {s : Settings}
    (read : ofContents p octets = .ok s) : s.Tidy := by
  unfold ofContents at read
  split at read
  · cases read
  · split at read
    · rename_i found
      cases read
      exact Json.decodeGives readsTidy found
    · cases read

theorem ofContentsWritten {s : Settings} (tidy : s.Tidy) (p : Disk.Path) :
    ofContents p s.contents = .ok s := by
  unfold ofContents contents
  rw [Text.decodeEncoded,Json.decodeWritten (documentInWords tidy) (readsWritten tidy)]

end Settings

end GrantKeeper
