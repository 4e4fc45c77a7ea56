import GrantKeeper.Json.Document
import GrantKeeper.Text.Utf8

/-! How JSON is written: words, numbers, texts, lists and objects, with blanks wherever they may stand.
Nothing here looks at how any of it is read. -/
namespace GrantKeeper.Json
open GrantKeeper.Text (Octets encode)

def Blank (gap : Octets) : Prop := ∀ b ∈ gap, b ∈ ([0x20,0x09,0x0A,0x0D] : Octets)

def Padded (s padded : Octets) : Prop :=
  ∃ before behind, Blank before ∧ Blank behind ∧ padded = before ++ (s ++ behind)

def Digits (s : Octets) : Prop := s ≠ [] ∧ ∀ b ∈ s, 0x30 ≤ b ∧ b ≤ 0x39

inductive Fraction : Octets → Prop
  | none : Fraction []
  | places {ds : Octets} (digits : Digits ds) : Fraction (0x2E :: ds)

inductive Power : Octets → Prop
  | none : Power []
  | scaled {e : UInt8} {sign ds : Octets} (letter : e = 0x65 ∨ e = 0x45)
      (signed : sign = [] ∨ sign = [0x2B] ∨ sign = [0x2D]) (digits : Digits ds) : Power (e :: (sign ++ ds))

inductive Numeric : Octets → Prop
  | of {sign whole fraction power : Octets} (signed : sign = [] ∨ sign = [0x2D]) (digits : Digits whole)
      (lead : ∀ b more, whole ≠ 0x30 :: b :: more) (part : Fraction fraction) (scale : Power power) :
      Numeric (sign ++ (whole ++ (fraction ++ power)))

inductive Hex : UInt8 → Nat → Prop
  | digit {d : Nat} (small : d < 10) : Hex (UInt8.ofNat (0x30 + d)) d
  | lower {d : Nat} (small : d < 6) : Hex (UInt8.ofNat (0x61 + d)) (10 + d)
  | upper {d : Nat} (small : d < 6) : Hex (UInt8.ofNat (0x41 + d)) (10 + d)

inductive Escape : UInt8 → Char → Prop
  | quote : Escape 0x22 '"'
  | backslash : Escape 0x5C '\\'
  | slash : Escape 0x2F '/'
  | back : Escape 0x62 '\x08'
  | feed : Escape 0x66 '\x0c'
  | line : Escape 0x6E '\n'
  | carriage : Escape 0x72 '\r'
  | tab : Escape 0x74 '\t'

inductive Mark
  | char (c : Char)
  | unit (n : Nat)

inductive Marks : Octets → List Mark → Prop
  | none : Marks [] []
  | plain {c : Char} {s marks} (quote : c ≠ '"') (slash : c ≠ '\\') (high : ¬ c.toNat < 0x20)
      (more : Marks s marks) : Marks (String.utf8EncodeChar c ++ s) (.char c :: marks)
  | escape {e : UInt8} {c : Char} {s marks} (escape : Escape e c) (more : Marks s marks) :
      Marks (0x5C :: e :: s) (.char c :: marks)
  | unit {a b c d : UInt8} {k l m n : Nat} {s marks} (first : Hex a k) (second : Hex b l) (third : Hex c m)
      (last : Hex d n) (more : Marks s marks) :
      Marks (0x5C :: 0x75 :: a :: b :: c :: d :: s) (.unit (((k * 16 + l) * 16 + m) * 16 + n) :: marks)

/-- The text that the parts make up. A number is that of its character, and two surrogates are one
character; a surrogate that is alone makes no text. -/
inductive Means : List Mark → List Char → Prop
  | none : Means [] []
  | char {c : Char} {marks cs} (more : Means marks cs) : Means (.char c :: marks) (c :: cs)
  | unit {n : Nat} {marks cs} (whole : n < 0xD800 ∨ 0xDFFF < n) (more : Means marks cs) :
      Means (.unit n :: marks) (Char.ofNat n :: cs)
  | pair {m n : Nat} {marks cs} (leads : 0xD800 ≤ m ∧ m ≤ 0xDBFF) (trails : 0xDC00 ≤ n ∧ n ≤ 0xDFFF)
      (more : Means marks cs) :
      Means (.unit m :: .unit n :: marks) (Char.ofNat (0x10000 + (m - 0xD800) * 0x400 + (n - 0xDC00)) :: cs)

inductive Quoted : Octets → List Mark → Prop
  | of {s marks} (inside : Marks s marks) : Quoted (0x22 :: (s ++ [0x22])) marks

def Spelt (literal : Octets) (t : String) : Prop := ∃ marks, Quoted literal marks ∧ Means marks t.toList

inductive Part
  | value
  | items
  | members

inductive Formed : Part → Octets → Prop
  | null : Formed .value (encode "null")
  | true : Formed .value (encode "true")
  | false : Formed .value (encode "false")
  | number {s} (numeric : Numeric s) : Formed .value s
  | text {s marks} (quoted : Quoted s marks) : Formed .value s
  | emptyList {gap} (blank : Blank gap) : Formed .value (0x5B :: (gap ++ [0x5D]))
  | list {s} (items : Formed .items s) : Formed .value (0x5B :: (s ++ [0x5D]))
  | emptyObject {gap} (blank : Blank gap) : Formed .value (0x7B :: (gap ++ [0x7D]))
  | object {s} (members : Formed .members s) : Formed .value (0x7B :: (s ++ [0x7D]))
  | item {s v} (value : Formed .value s) (pad : Padded s v) : Formed .items v
  | items {s v rest} (value : Formed .value s) (pad : Padded s v) (more : Formed .items rest) :
      Formed .items (v ++ 0x2C :: rest)
  | member {name marks s n v} (quoted : Quoted name marks) (value : Formed .value s) (front : Padded name n)
      (back : Padded s v) : Formed .members (n ++ 0x3A :: v)
  | members {name marks s n v rest} (quoted : Quoted name marks) (value : Formed .value s)
      (front : Padded name n) (back : Padded s v) (more : Formed .members rest) :
      Formed .members (n ++ 0x3A :: (v ++ 0x2C :: rest))

abbrev Row := String × Octets

inductive Rows : List Row → Octets → Prop
  | last {name value literal n v} (spelt : Spelt literal name) (front : Padded literal n) (back : Padded value v) :
      Rows [(name,value)] (n ++ 0x3A :: v)
  | next {name value literal n v rows rest} (spelt : Spelt literal name) (front : Padded literal n)
      (back : Padded value v) (more : Rows rows rest) :
      Rows ((name,value) :: rows) (n ++ 0x3A :: (v ++ 0x2C :: rest))

inductive Object : List Row → Octets → Prop
  | empty {gap text} (blank : Blank gap) (pad : Padded (0x7B :: (gap ++ [0x7D])) text) : Object [] text
  | filled {rows s text} (members : Rows rows s) (pad : Padded (0x7B :: (s ++ [0x7D])) text) : Object rows text

inductive Denotes : Document → Octets → Prop
  | text {t literal} (spelt : Spelt literal t) : Denotes (.text t) literal
  | true : Denotes (.boolean true) (encode "true")
  | false : Denotes (.boolean false) (encode "false")

end GrantKeeper.Json
