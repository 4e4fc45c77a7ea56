import Mathlib.Data.List.Forall2
import GrantKeeper.Proofs.Json.Numeral
import GrantKeeper.Proofs.Json.Quote

/-! A document as it is laid out over lines has the lexemes of the document. -/
namespace GrantKeeper.Json
open GrantKeeper.Text (Octets encode encodeAppend)

mutual
def Document.lexemes : Document → List Lexeme
  | .text s => [.text (some s)]
  | .boolean b => [.boolean b]
  | .integer n => [.number (some (.integer n))]
  | .list items => .openList :: [.comma].intercalate (itemLexemes items) ++ [.closeList]
  | .object members => .openObject :: [.comma].intercalate (memberLexemes members) ++ [.closeObject]

def itemLexemes : List Document → List (List Lexeme)
  | [] => []
  | item :: items => item.lexemes :: itemLexemes items

def memberLexemes : List (String × Document) → List (List Lexeme)
  | [] => []
  | (name,value) :: members =>
    (.text (some name) :: .colon :: value.lexemes) :: memberLexemes members
end

mutual
def Document.InWords : Document → Prop
  | .text _ | .boolean _ => True
  | .integer n => Text.inWord n = true
  | .list items => ItemsInWords items
  | .object members => MembersInWords members

def ItemsInWords : List Document → Prop
  | [] => True
  | item :: items => item.InWords ∧ ItemsInWords items

def MembersInWords : List (String × Document) → Prop
  | [] => True
  | (_,value) :: members => value.InWords ∧ MembersInWords members
end

def Reads (written : Octets) (part : List Lexeme) : Prop :=
  ∀ rest, Ends rest → lex (written ++ rest) = part ++ lex rest

theorem endsBefore {b : UInt8} (stops : Stops b) (rest : Octets) : Ends (b :: rest) := by
  intro a first
  cases Option.some.inj first
  exact stops

theorem newLineOctets (depth : Nat) :
    encode (newLine depth) = 0x0A :: List.replicate (2 * depth) 0x20 := by
  have line : String.utf8EncodeChar '\n' = [0x0A] := rfl
  have blank : String.utf8EncodeChar ' ' = [0x20] := rfl
  rw [newLine,Text.encodeOfList,List.flatMap_cons,line,List.flatMap_replicate,blank]
  simp

theorem newLineSpace (depth : Nat) : ∀ b ∈ encode (newLine depth), isSpace b = true := by
  intro b member
  rw [newLineOctets] at member
  rcases List.mem_cons.mp member with rfl | blank
  · rfl
  · rw [List.eq_of_mem_replicate blank]
    rfl

theorem endsNewLine (depth : Nat) (rest : Octets) : Ends (encode (newLine depth) ++ rest) := by
  rw [newLineOctets]
  exact endsBefore (stopsSpace rfl) _

def Sign (b : UInt8) (lexeme : Lexeme) : Prop := ∀ rest, lex (b :: rest) = lexeme :: lex rest

theorem opensList : Sign 0x5B .openList := fun rest => by rw [lex]; rfl

theorem closesList : Sign 0x5D .closeList := fun rest => by rw [lex]; rfl

theorem opensObject : Sign 0x7B .openObject := fun rest => by rw [lex]; rfl

theorem closesObject : Sign 0x7D .closeObject := fun rest => by rw [lex]; rfl

theorem separates : Sign 0x2C .comma := fun rest => by rw [lex]; rfl

theorem assigns : Sign 0x3A .colon := fun rest => by rw [lex]; rfl

theorem stops : Stops 0x2C ∧ Stops 0x3A ∧ Stops 0x5D ∧ Stops 0x7D := by
  unfold Stops
  decide

theorem readsText (s : String) : Reads (encode (quote s)) [.text (some s)] :=
  fun rest _ => lexQuote s rest

theorem readsBoolean (b : Bool) : Reads (encode (writeBoolean b)) [.boolean b] := by
  intro rest _
  cases b
  · change lex ([0x66,0x61,0x6C,0x73,0x65] ++ rest) = _
    simp [lex,isSpace,lexOne,lexWord]
  · change lex ([0x74,0x72,0x75,0x65] ++ rest) = _
    simp [lex,isSpace,lexOne,lexWord]

theorem readsLines (depth : Nat) {lines : List String} {parts : List (List Lexeme)}
    (each : List.Forall₂ (fun line part => Reads (encode line) part) lines parts) :
    Reads (encode (String.intercalate ("," ++ newLine depth) lines)) ([.comma].intercalate parts) := by
  induction each with
  | nil =>
    intro rest _
    rw [String.intercalate_nil]
    rfl
  | @cons line part lines parts head each ih =>
    cases each with
    | nil =>
      rw [String.intercalate_singleton,List.intercalate_singleton]
      exact head
    | cons next more =>
      intro rest ends
      rw [String.intercalate_cons_cons,List.intercalate_cons_cons]
      simp only [encodeAppend,List.append_assoc]
      have comma : ∀ s, lex (encode "," ++ s) = .comma :: lex s := separates
      have apart : ∀ s, Ends (encode "," ++ s) := endsBefore stops.1
      rw [head _ (apart _),comma,lexBlank (newLineSpace depth),ih rest ends]
      simp

theorem readsLaid {opening closing : String} {b c : UInt8} {x y : Lexeme} (first : encode opening = [b])
    (last : encode closing = [c]) (opens : Sign b x) (closes : Sign c y) (depth : Nat) {lines : List String}
    {parts : List (List Lexeme)}
    (each : List.Forall₂ (fun line part => Reads (encode line) part) lines parts) :
    Reads (encode (layLines opening closing depth lines)) (x :: [.comma].intercalate parts ++ [y]) := by
  intro rest _
  unfold layLines
  cases each with
  | nil =>
    simp only [List.isEmpty_nil,if_true,encodeAppend,first,last,List.cons_append,List.nil_append]
    rw [opens,closes]
    rfl
  | cons head tail =>
    have inner := readsLines (depth + 1) (.cons head tail)
    simp only [List.isEmpty_cons,Bool.false_eq_true,if_false,encodeAppend,first,last,List.append_assoc,
      List.cons_append,List.nil_append]
    rw [opens,lexBlank (newLineSpace _),inner _ (endsNewLine depth _),lexBlank (newLineSpace _),closes]

mutual
theorem readsPretty (d : Document) (depth : Nat) (fits : d.InWords) :
    Reads (encode (d.pretty depth)) d.lexemes := by
  cases d with
  | text s => exact readsText s
  | boolean b => exact readsBoolean b
  | integer n => exact fun rest ends => lexInteger fits ends
  | list items =>
    exact readsLaid rfl rfl opensList closesList depth (readsItems items (depth + 1) fits)
  | object members =>
    exact readsLaid rfl rfl opensObject closesObject depth (readsMembers members (depth + 1) fits)

theorem readsItems (items : List Document) (depth : Nat) (fits : ItemsInWords items) :
    List.Forall₂ (fun line part => Reads (encode line) part) (prettyItems depth items)
      (itemLexemes items) := by
  cases items with
  | nil => exact .nil
  | cons item items =>
    exact .cons (readsPretty item depth fits.1) (readsItems items depth fits.2)

theorem readsMembers (members : List (String × Document)) (depth : Nat) (fits : MembersInWords members) :
    List.Forall₂ (fun line part => Reads (encode line) part) (prettyMembers depth members)
      (memberLexemes members) := by
  cases members with
  | nil => exact .nil
  | cons member members =>
    obtain ⟨name,value⟩ := member
    refine .cons ?_ (readsMembers members depth fits.2)
    intro rest ends
    have colon : ∀ s, lex (encode ": " ++ s) = .colon :: lex s := by
      intro s
      refine (assigns (0x20 :: s)).trans ?_
      rw [lex]
      rfl
    simp only [encodeAppend,List.append_assoc,lexQuote,colon]
    rw [readsPretty value depth fits.1 rest ends]
    rfl
end

theorem lexPretty {d : Document} (fits : d.InWords) : lex (encode (d.pretty 0)) = d.lexemes := by
  have read := readsPretty d 0 fits [] (fun _ none => by cases none)
  simpa [lex] using read

end GrantKeeper.Json
