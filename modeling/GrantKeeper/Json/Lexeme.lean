import GrantKeeper.Json.Number

/-! JSON text as a list of lexemes. A text that cannot be read to its end gives
the lexemes before that place and one torn lexeme, which carries the fault for a
reader that keeps the value and the fault for one that skips it. -/
namespace GrantKeeper.Json
open GrantKeeper.Text (Octets)

inductive Lexeme
  | openObject
  | closeObject
  | openList
  | closeList
  | comma
  | colon
  | null
  | boolean (b : Bool)
  -- a numeral; `none` beyond the range of doubles
  | number (value : Option Number)
  -- a quoted text; `none` when its surrogates or its octets do not make a text
  | text (value : Option String)
  | tornText (kept skipped : Fault)
  | torn (kept skipped : Fault)
  deriving DecidableEq, Repr

def isSpace (b : UInt8) : Bool := b == 0x20 || b == 0x0A || b == 0x09 || b == 0x0D

inductive Piece
  | octet (b : UInt8)
  | unit (n : Nat)
  deriving DecidableEq, Repr

inductive Ending
  | closed (rest : Octets)
  | torn (fault : Fault)
  deriving DecidableEq, Repr

def shortEscape? (b : UInt8) : Option UInt8 :=
  if b = 0x22 ∨ b = 0x5C ∨ b = 0x2F then some b
  else if b = 0x62 then some 0x08
  else if b = 0x66 then some 0x0C
  else if b = 0x6E then some 0x0A
  else if b = 0x72 then some 0x0D
  else if b = 0x74 then some 0x09
  else none

def hexUnit? (a b c d : UInt8) : Option Nat := do
  let a ← Text.hexValue? a
  let b ← Text.hexValue? b
  let c ← Text.hexValue? c
  let d ← Text.hexValue? d
  some (((a * 16 + b) * 16 + c) * 16 + d)

def splitText : Octets → List Piece × Ending
  | [] => ([],.torn .truncated)
  | 0x22 :: s => ([],.closed s)
  | 0x5C :: 0x75 :: a :: b :: c :: d :: s =>
    match hexUnit? a b c d with
    | none => ([],.torn .malformed)
    | some n =>
      let (pieces,ending) := splitText s
      (.unit n :: pieces,ending)
  | 0x5C :: 0x75 :: _ => ([],.torn .truncated)
  | 0x5C :: e :: s =>
    match shortEscape? e with
    | none => ([],.torn .malformed)
    | some b =>
      let (pieces,ending) := splitText s
      (.octet b :: pieces,ending)
  | [0x5C] => ([],.torn .truncated)
  | b :: s =>
    if b < 0x20 then ([],.torn .malformed)
    else
      let (pieces,ending) := splitText s
      (.octet b :: pieces,ending)

def isLeading (n : Nat) : Bool := 0xD800 ≤ n && n ≤ 0xDBFF
def isTrailing (n : Nat) : Bool := 0xDC00 ≤ n && n ≤ 0xDFFF

def encodePoint (n : Nat) : Octets := String.utf8EncodeChar (Char.ofNat n)

def joinPieces : List Piece → Option Octets
  | [] => some []
  | .octet b :: pieces => (joinPieces pieces).map (b :: ·)
  | .unit n :: pieces =>
    if isTrailing n then none
    else if isLeading n then
      match pieces with
      | .unit m :: pieces =>
        if isTrailing m then
          (joinPieces pieces).map (encodePoint ((n - 0xD800) * 1024 + (m - 0xDC00) + 0x10000) ++ ·)
        else none
      | _ => none
    else (joinPieces pieces).map (encodePoint n ++ ·)

def strandsSurrogate : List Piece → Bool
  | [] => false
  | .octet _ :: pieces => strandsSurrogate pieces
  | .unit n :: pieces =>
    if isTrailing n then true
    else if isLeading n then
      match pieces with
      | [] => false
      | .unit m :: pieces => !isTrailing m || strandsSurrogate pieces
      | .octet _ :: _ => true
    else strandsSurrogate pieces

def lexText (s : Octets) : Lexeme × Octets :=
  match splitText s with
  | (pieces,.closed rest) => (.text ((joinPieces pieces).bind Text.decode?),rest)
  | (pieces,.torn fault) =>
    (.tornText (if strandsSurrogate pieces then .malformed else fault) fault,[])

def lexWord (lexeme : Lexeme) : Octets → Octets → Lexeme × Octets
  | [], s => (lexeme,s)
  | _ :: _, [] => (.torn .truncated .truncated,[])
  | w :: word, b :: s => if w = b then lexWord lexeme word s else (.torn .malformed .malformed,[])

def lexNumber (negative : Bool) (s : Octets) : Lexeme × Octets :=
  match readNumeral negative s with
  | .ok (value,rest) => (.number value,rest)
  | .error fault => (.torn fault .malformed,[])

def lexOne (b : UInt8) (s : Octets) : Lexeme × Octets :=
  if b = 0x7B then (.openObject,s)
  else if b = 0x7D then (.closeObject,s)
  else if b = 0x5B then (.openList,s)
  else if b = 0x5D then (.closeList,s)
  else if b = 0x2C then (.comma,s)
  else if b = 0x3A then (.colon,s)
  else if b = 0x22 then lexText s
  else if b = 0x6E then lexWord .null [0x75,0x6C,0x6C] s
  else if b = 0x74 then lexWord (.boolean true) [0x72,0x75,0x65] s
  else if b = 0x66 then lexWord (.boolean false) [0x61,0x6C,0x73,0x65] s
  else if b = 0x2D then lexNumber true s
  else if isDigit b then lexNumber false (b :: s)
  else (.torn .malformed .malformed,[])

theorem splitTextLength (s : Octets) {pieces rest}
    (h : splitText s = (pieces,.closed rest)) : rest.length < s.length := by
  fun_induction splitText s generalizing pieces
  all_goals simp at h
  · simp [h.2]
  all_goals
    next eq ih =>
      have := ih (by rw [eq,h.2])
      simp
      omega

theorem lexTextLength (s : Octets) : (lexText s).2.length ≤ s.length := by
  unfold lexText
  split
  · next eq => exact Nat.le_of_lt (splitTextLength s eq)
  · simp

theorem lexWordLength (lexeme : Lexeme) (word s : Octets) :
    (lexWord lexeme word s).2.length ≤ s.length := by
  fun_induction lexWord lexeme word s with
  | case1 => simp
  | case2 => simp
  | case3 word b s ih => simp; omega
  | case4 => simp

theorem lexNumberLength (negative : Bool) (s : Octets) :
    (lexNumber negative s).2.length ≤ s.length - 1 := by
  unfold lexNumber
  split
  · next h => have := readNumeralLength h; simp; omega
  · simp

theorem iteLe {c : Prop} [Decidable c] {a b n : Nat} (ha : a ≤ n) (hb : b ≤ n) :
    (if c then a else b) ≤ n := by
  by_cases h : c
  · rwa [if_pos h]
  · rwa [if_neg h]

theorem lexOneLength (b : UInt8) (s : Octets) : (lexOne b s).2.length ≤ s.length := by
  have word := lexWordLength
  have text := lexTextLength s
  have negative := lexNumberLength true s
  have number := lexNumberLength false (b :: s)
  simp only [List.length_cons] at number
  simp only [lexOne,apply_ite Prod.snd,apply_ite List.length]
  have here := Nat.le_refl s.length
  exact iteLe here <| iteLe here <| iteLe here <| iteLe here <| iteLe here <| iteLe here <|
    iteLe text <| iteLe (word _ _ s) <| iteLe (word _ _ s) <| iteLe (word _ _ s) <|
    iteLe (Nat.le_trans negative (Nat.sub_le _ _)) <| iteLe number (Nat.zero_le _)

def lex : Octets → List Lexeme
  | [] => []
  | b :: s => if isSpace b then lex s else (lexOne b s).1 :: lex (lexOne b s).2
termination_by s => s.length
decreasing_by
  · simp
  · exact Nat.lt_succ_of_le (lexOneLength b s)

end GrantKeeper.Json
