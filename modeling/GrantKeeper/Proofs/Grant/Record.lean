import GrantKeeper.Grant.Record
import GrantKeeper.Proofs.Grant.Whole
import GrantKeeper.Proofs.Json.Member
import GrantKeeper.Proofs.Json.Written

/-! The plain record of a grant is read back as the grant in whole seconds. -/
namespace GrantKeeper
open Json (Lexeme Reader)
open Time (Instant)

theorem Json.Reader.readText (s : String) (rest : List Lexeme) :
    Reader.text.read (.text (some s) :: rest) = .ok (s,rest) := rfl

theorem Json.Reader.readBoolean (b : Bool) (rest : List Lexeme) :
    Reader.boolean.read (.boolean b :: rest) = .ok (b,rest) := rfl

theorem Json.Reader.readStamp (t : Instant) (rest : List Lexeme) :
    Reader.stamp.read (.text (some (Text.ofInt t.seconds)) :: rest) = .ok (t.floorSecond,rest) := by
  have word := Text.readWordOfInt t.secondsInWord
  simp only [Reader.stamp,List.head?_cons,Option.bind_some,Reader.stampOfLexeme?,Reader.stampOfText,
    Text.trimOfInt,word,Reader.stampOfSeconds,Instant.ofSecondsFloor]
  rfl

namespace Grant

theorem documentInWords (g : Grant) : g.document.InWords := by
  simp [document,Json.Document.InWords,Json.MembersInWords]

theorem readDocument (g : Grant) : reader.read g.document.lexemes = .ok (g.floored,[]) := by
  have written : g.document.lexemes =
      .openObject :: .text (some "access_token") :: .colon :: .text (some g.access) :: .comma ::
      .text (some "refresh_token") :: .colon :: .text (some g.refresh) :: .comma ::
      .text (some "scope") :: .colon :: .text (some g.scope) :: .comma ::
      .text (some "token_type") :: .colon :: .text (some g.kind) :: .comma ::
      .text (some "expires_at") :: .colon :: .text (some (Text.ofInt g.expiresAt.seconds)) :: .comma ::
      .text (some "created_at") :: .colon :: .text (some (Text.ofInt g.createdAt.seconds)) :: .comma ::
      .text (some "valid") :: .colon :: .boolean g.valid :: .closeObject :: [] := by
    simp [document,Json.Document.lexemes,Json.memberLexemes,List.intercalate_cons_cons]
  rw [written]
  change layout.members [] absent _ = _
  rw [Json.Layout.membersNext rfl rfl (Reader.readText g.access _),
    Json.Layout.membersNext rfl rfl (Reader.readText g.refresh _),
    Json.Layout.membersNext rfl rfl (Reader.readText g.scope _),
    Json.Layout.membersNext rfl rfl (Reader.readText g.kind _),
    Json.Layout.membersNext rfl rfl (Reader.readStamp g.expiresAt _),
    Json.Layout.membersNext rfl rfl (Reader.readStamp g.createdAt _),
    Json.Layout.membersLast rfl rfl (Reader.readBoolean g.valid _)]
  rfl

theorem decodeDocument (g : Grant) :
    Json.decode reader (Text.encode (g.document.pretty 0)) = .ok g.floored := by
  unfold Json.decode
  rw [Json.lexPretty g.documentInWords,g.readDocument]
  rfl

end Grant

end GrantKeeper
