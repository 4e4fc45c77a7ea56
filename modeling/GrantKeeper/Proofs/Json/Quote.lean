import Mathlib.Tactic.SplitIfs
import GrantKeeper.Json.Lexeme
import GrantKeeper.Proofs.Json.Grammar
import GrantKeeper.Proofs.Text.Octet

/-! A quoted text is one lexeme, which carries the text. What is written for a text is one of the quoted
texts that stand for it. -/
namespace GrantKeeper.Json
open GrantKeeper.Text (Octets)

variable {s : Octets}

theorem joinOctets (bs : Octets) (more : List Piece) :
    joinPieces (bs.map .octet ++ more) = (joinPieces more).map (bs ++ ·) := by
  induction bs with
  | nil => simp
  | cons b bs ih =>
    simp only [List.map_cons,List.cons_append,joinPieces,ih,Option.map_map]
    rfl

def Unescaped (b : UInt8) : Prop := b ≠ 0x22 ∧ b ≠ 0x5C ∧ ¬ b < 0x20

theorem splitOctets {bs : Octets} (plain : ∀ b ∈ bs, Unescaped b) (s : Octets) :
    splitText (bs ++ s) = (bs.map .octet ++ (splitText s).1,(splitText s).2) := by
  induction bs with
  | nil => rfl
  | cons b bs ih =>
    obtain ⟨quote,slash,high⟩ := plain b (by simp)
    have rest := ih fun a member => plain a (by simp [member])
    rw [List.cons_append,splitText,if_neg high,rest]
    · rfl
    all_goals
      intros
      first | exact quote (by assumption) | exact slash (by assumption)

theorem unescapedPlain {c : Char} (quote : c ≠ '"') (slash : c ≠ '\\') (high : ¬ c.toNat < 0x20) :
    ∀ b ∈ String.utf8EncodeChar c, Unescaped b := by
  intro b member
  by_cases ascii : c.toNat < 0x80
  · rw [Text.octetOfAscii ascii,List.mem_singleton] at member
    have number : b.toNat = c.toNat := by
      rw [member]
      exact UInt8.toNat_ofNat_of_lt' (Nat.lt_trans ascii (by decide))
    have apart : ∀ d : Char, c ≠ d → b.toNat ≠ d.toNat := by
      intro d other same
      exact other (Char.toNat_inj.mp (number.symm.trans same))
    refine ⟨?_,?_,?_⟩
    · rintro rfl
      exact apart '"' quote rfl
    · rintro rfl
      exact apart '\\' slash rfl
    · rw [UInt8.lt_iff_toNat_lt,number]
      exact high
  · have large := Text.octetsOfOther (Nat.le_of_not_lt ascii) b member
    rw [UInt8.le_iff_toNat_le] at large
    change 128 ≤ b.toNat at large
    refine ⟨?_,?_,?_⟩
    · rintro rfl
      exact absurd large (by decide)
    · rintro rfl
      exact absurd large (by decide)
    · rw [UInt8.lt_iff_toNat_lt]
      change ¬ b.toNat < 32
      omega

theorem hexValue {b : UInt8} {n : Nat} (hex : Hex b n) : Text.hexValue? b = some n := by
  have digits : ∀ d < 10, Text.hexValue? (UInt8.ofNat (0x30 + d)) = some d := by decide
  have lowers : ∀ d < 6, Text.hexValue? (UInt8.ofNat (0x61 + d)) = some (10 + d) := by decide
  have uppers : ∀ d < 6, Text.hexValue? (UInt8.ofNat (0x41 + d)) = some (10 + d) := by decide
  cases hex with
  | digit small => exact digits _ small
  | lower small => exact lowers _ small
  | upper small => exact uppers _ small

theorem escapeOctet {e : UInt8} {c : Char} (escape : Escape e c) :
    e ≠ 0x75 ∧ ∃ b, shortEscape? e = some b ∧ String.utf8EncodeChar c = [b] := by
  cases escape <;> exact ⟨by decide,_,rfl,rfl⟩

def Mark.pieces : Mark → List Piece
  | .char c => (String.utf8EncodeChar c).map .octet
  | .unit n => [.unit n]

theorem marksSplit {marks : List Mark} (inside : Marks s marks) (rest : Octets) :
    splitText (s ++ rest) = (marks.flatMap Mark.pieces ++ (splitText rest).1,(splitText rest).2) := by
  induction inside with
  | none => rfl
  | plain quote slash high more ih =>
    rw [List.append_assoc,splitOctets (unescapedPlain quote slash high),ih,List.flatMap_cons,List.append_assoc]
    rfl
  | escape escape more ih =>
    obtain ⟨letter,b,short,same⟩ := escapeOctet escape
    rw [List.cons_append,List.cons_append,splitText,short,ih,List.flatMap_cons,Mark.pieces,same]
    · rfl
    all_goals
      intros
      contradiction
  | unit first second third last more ih =>
    simp only [List.cons_append,splitText,hexUnit?,hexValue first,hexValue second,hexValue third,
      hexValue last,Option.bind_eq_bind,Option.bind_some,ih]
    rfl

theorem meansJoin {marks : List Mark} {cs : List Char} (means : Means marks cs) :
    joinPieces (marks.flatMap Mark.pieces) = some (cs.flatMap String.utf8EncodeChar) := by
  induction means with
  | none => rfl
  | char more ih =>
    rw [List.flatMap_cons,Mark.pieces,joinOctets,ih]
    rfl
  | @unit n _ _ whole more ih =>
    have trailing : isTrailing n = false := by
      simp only [isTrailing,Bool.and_eq_false_iff,decide_eq_false_iff_not]
      omega
    have leading : isLeading n = false := by
      simp only [isLeading,Bool.and_eq_false_iff,decide_eq_false_iff_not]
      omega
    rw [List.flatMap_cons,Mark.pieces,List.singleton_append,joinPieces.eq_def]
    simp [trailing,leading,encodePoint,ih]
  | @pair m n _ _ leads trails more ih =>
    have leading : isLeading m = true := by
      simp only [isLeading,Bool.and_eq_true,decide_eq_true_eq]
      exact leads
    have first : isTrailing m = false := by
      simp only [isTrailing,Bool.and_eq_false_iff,decide_eq_false_iff_not]
      omega
    have trailing : isTrailing n = true := by
      simp only [isTrailing,Bool.and_eq_true,decide_eq_true_eq]
      exact trails
    have point : (m - 0xD800) * 1024 + (n - 0xDC00) + 0x10000 = 0x10000 + (m - 0xD800) * 0x400 + (n - 0xDC00) := by
      omega
    rw [List.flatMap_cons,List.flatMap_cons,Mark.pieces,Mark.pieces,List.singleton_append,
      List.singleton_append,joinPieces.eq_def]
    simp [first,leading,trailing,encodePoint,ih,point]

theorem lexQuoted {marks : List Mark} (quoted : Quoted s marks) (rest : Octets) : lex (s ++ rest) =
    .text ((joinPieces (marks.flatMap Mark.pieces)).bind Text.decode?) :: lex rest := by
  obtain ⟨inside⟩ := quoted
  have split := marksSplit inside (0x22 :: rest)
  rw [splitText,List.append_nil] at split
  rw [List.cons_append,List.append_assoc,lex]
  change (lexText _).1 :: lex (lexText _).2 = _
  simp only [lexText,List.singleton_append,split]

theorem lexSpelt {t : String} (spelt : Spelt s t) (rest : Octets) :
    lex (s ++ rest) = .text (some t) :: lex rest := by
  obtain ⟨marks,quoted,means⟩ := spelt
  rw [lexQuoted quoted,meansJoin means,← Text.encodeChars,Option.bind_some,Text.decodeEncoded]

theorem hexWritten {d : Nat} (small : d < 16) :
    ∃ b, String.utf8EncodeChar (Text.hexDigit d) = [b] ∧ Hex b d := by
  have digits : ∀ d < 10, String.utf8EncodeChar (Text.hexDigit d) = [UInt8.ofNat (0x30 + d)] := by decide
  have letters : ∀ d < 6, String.utf8EncodeChar (Text.hexDigit (10 + d)) = [UInt8.ofNat (0x61 + d)] := by decide
  by_cases digit : d < 10
  · exact ⟨_,digits d digit,.digit digit⟩
  · obtain ⟨e,rfl⟩ := Nat.exists_eq_add_of_le (Nat.le_of_not_lt digit)
    exact ⟨_,letters e (by omega),.lower (by omega)⟩

theorem marksControl {c : Char} (low : c.toNat < 0x20) {marks : List Mark} {cs : List Char}
    (more : Marks s marks) (means : Means marks cs) : ∃ all,
      Marks (['\\','u','0','0',Text.hexDigit (c.toNat / 16),Text.hexDigit (c.toNat % 16)].flatMap
        String.utf8EncodeChar ++ s) all ∧ Means all (c :: cs) := by
  obtain ⟨high,highWritten,highHex⟩ := hexWritten (d := c.toNat / 16) (by omega)
  obtain ⟨last,lastWritten,lastHex⟩ := hexWritten (d := c.toNat % 16) (by omega)
  have zero : Hex 0x30 0 := .digit (d := 0) (by decide)
  have number : ((0 * 16 + 0) * 16 + c.toNat / 16) * 16 + c.toNat % 16 = c.toNat := by omega
  have inside := Marks.unit zero zero highHex lastHex more
  have stands := Means.unit (n := c.toNat) (.inl (by omega)) means
  rw [number] at inside
  rw [Char.ofNat_toNat] at stands
  refine ⟨_,?_,stands⟩
  simp only [List.flatMap_cons,List.flatMap_nil,highWritten,lastWritten]
  exact inside

theorem marksChar (c : Char) {marks : List Mark} {cs : List Char} (more : Marks s marks) (means : Means marks cs) :
    ∃ all, Marks ((quoteChar c).flatMap String.utf8EncodeChar ++ s) all ∧ Means all (c :: cs) := by
  unfold quoteChar
  split_ifs with quote slash back feed line carriage tab low
  · exact ⟨_,.escape .quote more,quote ▸ .char means⟩
  · exact ⟨_,.escape .backslash more,slash ▸ .char means⟩
  · exact ⟨_,.escape .back more,back ▸ .char means⟩
  · exact ⟨_,.escape .feed more,feed ▸ .char means⟩
  · exact ⟨_,.escape .line more,line ▸ .char means⟩
  · exact ⟨_,.escape .carriage more,carriage ▸ .char means⟩
  · exact ⟨_,.escape .tab more,tab ▸ .char means⟩
  · exact marksControl low more means
  · rw [List.flatMap_singleton]
    exact ⟨_,.plain quote slash low more,.char means⟩

theorem marksChars (cs : List Char) :
    ∃ marks, Marks ((cs.flatMap quoteChar).flatMap String.utf8EncodeChar) marks ∧ Means marks cs := by
  induction cs with
  | nil => exact ⟨[],.none,.none⟩
  | cons c cs ih =>
    obtain ⟨marks,inside,means⟩ := ih
    rw [List.flatMap_cons,List.flatMap_append]
    exact marksChar c inside means

theorem speltQuote (t : String) : Spelt (Text.encode (quote t)) t := by
  obtain ⟨marks,inside,means⟩ := marksChars t.toList
  have mark : String.utf8EncodeChar '"' = [0x22] := rfl
  have written : Text.encode (quote t) =
      0x22 :: ((t.toList.flatMap quoteChar).flatMap String.utf8EncodeChar ++ [0x22]) := by
    rw [quote,Text.encodeOfList]
    simp only [List.cons_append,List.flatMap_cons,List.flatMap_append,List.flatMap_nil,mark,
      List.append_nil,List.nil_append]
  rw [written]
  exact ⟨marks,.of inside,means⟩

theorem lexQuote (t : String) (rest : Octets) :
    lex (Text.encode (quote t) ++ rest) = .text (some t) :: lex rest := lexSpelt (speltQuote t) rest

end GrantKeeper.Json
