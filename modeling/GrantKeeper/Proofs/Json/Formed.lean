import GrantKeeper.Proofs.Json.Grammar
import GrantKeeper.Proofs.Json.Integer
import GrantKeeper.Proofs.Json.Object

/-! Well-formed values have lexemes of their own, whatever follows, and each is read past as one value.
A text that is an object has the lexemes of its members. -/
namespace GrantKeeper.Json
open GrantKeeper.Text (Octets encode)

theorem blankSpace {gap : Octets} : Blank gap ↔ ∀ b ∈ gap, isSpace b = true := by
  refine forall₂_congr fun b _ => ?_
  simp only [List.mem_cons,List.not_mem_nil,or_false,isSpace,Bool.or_eq_true,beq_iff_eq]
  tauto

theorem lexGap {gap : Octets} (blank : Blank gap) (rest : Octets) : lex (gap ++ rest) = lex rest :=
  lexBlank (blankSpace.mp blank) rest

theorem endsGap {gap rest : Octets} (blank : Blank gap) (ends : Ends rest) : Ends (gap ++ rest) := by
  cases gap with
  | nil => exact ends
  | cons b gap => exact endsBefore (stopsSpace (blankSpace.mp blank b List.mem_cons_self)) (gap ++ rest)

variable {s t padded : Octets} {lexemes more : List Lexeme}

theorem Reads.pad (reads : Reads s lexemes) (pad : Padded s padded) : Reads padded lexemes := by
  obtain ⟨before,behind,early,late,rfl⟩ := pad
  intro rest ends
  rw [List.append_assoc,List.append_assoc,lexGap early,reads _ (endsGap late ends),lexGap late]

theorem Reads.self (reads : Reads s lexemes) : lex s = lexemes := by
  have alone := reads [] fun _ none => by cases none
  rwa [List.append_nil,lex,List.append_nil] at alone

theorem Reads.bracketed {b c : UInt8} {x y : Lexeme} (reads : Reads s lexemes) (opens : Sign b x)
    (closes : Sign c y) (stops : Stops c) : Reads (b :: (s ++ [c])) (x :: (lexemes ++ [y])) := by
  intro rest _
  rw [List.cons_append,List.append_assoc,opens,List.singleton_append,reads _ (endsBefore stops rest),closes]
  simp

theorem Reads.joined {b : UInt8} {x : Lexeme} (reads : Reads s lexemes) (sign : Sign b x) (stops : Stops b)
    (later : Reads t more) : Reads (s ++ b :: t) (lexemes ++ x :: more) := by
  intro rest ends
  rw [List.append_assoc,List.cons_append,reads _ (endsBefore stops _),sign,later rest ends]
  simp

theorem readsGap {gap : Octets} (blank : Blank gap) : Reads gap [] := fun rest _ => lexGap blank rest

theorem quotedReads {marks : List Mark} (quoted : Quoted s marks) :
    Reads s [.text ((joinPieces (marks.flatMap Mark.pieces)).bind Text.decode?)] :=
  fun rest _ => lexQuoted quoted rest

theorem speltReads {name : String} (spelt : Spelt s name) : Reads s [.text (some name)] :=
  fun rest _ => lexSpelt spelt rest

theorem digitsEach {ds : Octets} (digits : Digits ds) : ∀ b ∈ ds, isDigit b = true := by
  intro b member
  simpa [isDigit] using digits.2 b member

theorem signReads {sign ds : Octets} (signed : sign = [] ∨ sign = [0x2B] ∨ sign = [0x2D]) (digits : Digits ds) :
    ∃ below, ∀ rest, powerSign (sign ++ (ds ++ rest)) = (below,ds ++ rest) := by
  rcases signed with rfl | rfl | rfl
  · refine ⟨false,fun rest => ?_⟩
    cases ds with
    | nil => exact absurd rfl digits.1
    | cons b ds =>
      have digit := digitsEach digits b List.mem_cons_self
      unfold powerSign
      split
      · rename_i same
        cases (List.cons.inj same).1
        cases digit
      · rename_i same
        cases (List.cons.inj same).1
        cases digit
      · rfl
  · exact ⟨false,fun _ => rfl⟩
  · exact ⟨true,fun _ => rfl⟩

variable {whole fraction power : Octets}

theorem powerReads (negative : Bool) (whole : Octets) (places : Option Octets) (scale : Power power) :
    ∃ value, ∀ rest, Ends rest → readEnd negative whole places (power ++ rest) = .ok (value,rest) := by
  cases scale with
  | none =>
    exact ⟨_,fun rest ends => readNothing negative whole places ends⟩
  | @scaled e sign ds letter signed digits =>
    obtain ⟨below,unsigned⟩ := signReads signed digits
    let n : Int := ds.foldl (fun n d => n * 10 + digitValue d) 0
    refine ⟨Number.ofDigits? negative whole places (some (if below then -n else n)),fun rest ends => ?_⟩
    obtain ⟨taken,left⟩ := digitsTake (digitsEach digits) fun b first => (ends b first).1
    have filled : ds.isEmpty = false := List.isEmpty_eq_false_iff.mpr digits.1
    have reads : readEnd negative whole places (e :: (sign ++ (ds ++ rest))) =
        readPower negative whole places (sign ++ (ds ++ rest)) := by
      rcases letter with rfl | rfl <;> rfl
    rw [List.cons_append,List.append_assoc,reads]
    simp only [readPower,unsigned,taken,left,filled,Bool.false_eq_true,if_false]
    rfl

theorem powerEnds (scale : Power power) {rest : Octets} (ends : Ends rest) :
    ∀ b ∈ (power ++ rest).head?, isDigit b = false ∧ b ≠ 0x2E := by
  intro b first
  cases scale with
  | none => exact ⟨(ends b first).1,(ends b first).2.1⟩
  | scaled letter =>
    cases Option.some.inj first
    rcases letter with rfl | rfl <;> exact ⟨rfl,by decide⟩

theorem numeralReads (negative : Bool) (leading : Leading whole) (part : Fraction fraction) (scale : Power power) :
    ∃ value, ∀ rest, Ends rest →
      readNumeral negative (whole ++ (fraction ++ (power ++ rest))) = .ok (value,rest) := by
  cases part with
  | none =>
    obtain ⟨value,reads⟩ := powerReads negative whole none scale
    refine ⟨value,fun rest ends => ?_⟩
    exact (readWhole negative leading (powerEnds scale ends)).trans (reads rest ends)
  | @places ds places =>
    obtain ⟨value,reads⟩ := powerReads negative whole (some ds) scale
    refine ⟨value,fun rest ends => ?_⟩
    have apart := fun b first => (powerEnds scale ends b first).1
    exact (readPlaces negative leading (digitsEach places) places.1 apart).trans (reads rest ends)

theorem numericReads (numeric : Numeric s) : ∃ value, Reads s [.number value] := by
  obtain ⟨signed,digits,lead,part,scale⟩ := numeric
  rename_i sign whole fraction power
  have leading : Leading whole := ⟨digitsEach digits,digits.1,lead⟩
  rcases signed with rfl | rfl
  · obtain ⟨value,reads⟩ := numeralReads false leading part scale
    refine ⟨value,fun rest ends => ?_⟩
    obtain ⟨b,more,rfl⟩ := List.exists_cons_of_ne_nil digits.1
    have digit := digitsEach digits b List.mem_cons_self
    have read := reads rest ends
    simp only [List.nil_append,List.cons_append,List.append_assoc] at read ⊢
    rw [lex,spaceOfDigit digit,lexOneDigit digit,lexNumber,read]
    rfl
  · obtain ⟨value,reads⟩ := numeralReads true leading part scale
    refine ⟨value,fun rest ends => ?_⟩
    simp only [List.cons_append,List.nil_append,List.append_assoc]
    rw [lex]
    change (lexNumber _ _).1 :: lex (lexNumber _ _).2 = _
    rw [lexNumber,reads rest ends]

def resume (brackets : List Bracket) (rest : List Lexeme) : Except Fault (List Lexeme) :=
  match brackets with
  | [] => .ok rest
  | _ => skim .skipped brackets .next rest

def Part.Passes (lexemes : List Lexeme) : Part → Prop
  | .value => ∀ brackets rest, skim .skipped brackets .value (lexemes ++ rest) = resume brackets rest
  | .items => ∀ brackets rest, skim .skipped (.list :: brackets) .value (lexemes ++ .closeList :: rest) =
      resume brackets rest
  | .members => ∀ brackets rest, skim .skipped (.object :: brackets) .key (lexemes ++ .closeObject :: rest) =
      resume brackets rest

theorem passesOne {lexeme : Lexeme} (plain : ∀ brackets, skimValue .skipped brackets lexeme = .ok (brackets,.next)) :
    Part.value.Passes [lexeme] := by
  intro brackets rest
  rw [List.singleton_append,skim]
  simp only [skimOne,plain]
  cases brackets <;> rfl

theorem listCloses (brackets : List Bracket) (rest : List Lexeme) :
    skim .skipped (.list :: brackets) .next (.closeList :: rest) = resume brackets rest := by
  cases brackets <;> rfl

theorem objectCloses (brackets : List Bracket) (rest : List Lexeme) :
    skim .skipped (.object :: brackets) .next (.closeObject :: rest) = resume brackets rest := by
  cases brackets <;> rfl

theorem passesList (passes : Part.items.Passes lexemes) :
    Part.value.Passes (.openList :: (lexemes ++ [.closeList])) := by
  have inner := passes [] []
  intro brackets rest
  rw [List.cons_append,List.append_assoc,List.singleton_append,← passes brackets rest]
  cases lexemes with
  | nil => cases inner
  | cons lexeme more => cases lexeme <;> first | rfl | cases inner

theorem passesObject (passes : Part.members.Passes lexemes) :
    Part.value.Passes (.openObject :: (lexemes ++ [.closeObject])) := by
  have inner := passes [] []
  intro brackets rest
  rw [List.cons_append,List.append_assoc,List.singleton_append,← passes brackets rest]
  cases lexemes with
  | nil => cases inner
  | cons lexeme more => cases lexeme <;> first | rfl | cases inner

theorem formedPasses {part : Part} (formed : Formed part s) :
    ∃ lexemes, Reads s lexemes ∧ part.Passes lexemes := by
  obtain ⟨comma,colon,endsList,endsObject⟩ := stops
  induction formed with
  | null =>
    refine ⟨[.null],fun rest _ => ?_,passesOne fun _ => rfl⟩
    change lex ([0x6E,0x75,0x6C,0x6C] ++ rest) = _
    simp [lex,isSpace,lexOne,lexWord]
  | true => exact ⟨_,readsBoolean true,passesOne fun _ => rfl⟩
  | false => exact ⟨_,readsBoolean false,passesOne fun _ => rfl⟩
  | number numeric =>
    obtain ⟨value,reads⟩ := numericReads numeric
    exact ⟨_,reads,passesOne fun _ => rfl⟩
  | text quoted => exact ⟨_,quotedReads quoted,passesOne fun _ => rfl⟩
  | emptyList blank =>
    refine ⟨_,(readsGap blank).bracketed opensList closesList endsList,?_⟩
    intro brackets rest
    cases brackets <;> rfl
  | list _ ih =>
    obtain ⟨lexemes,reads,passes⟩ := ih
    exact ⟨_,reads.bracketed opensList closesList endsList,passesList passes⟩
  | emptyObject blank =>
    refine ⟨_,(readsGap blank).bracketed opensObject closesObject endsObject,?_⟩
    intro brackets rest
    cases brackets <;> rfl
  | object _ ih =>
    obtain ⟨lexemes,reads,passes⟩ := ih
    exact ⟨_,reads.bracketed opensObject closesObject endsObject,passesObject passes⟩
  | item _ pad ih =>
    obtain ⟨lexemes,reads,passes⟩ := ih
    refine ⟨_,reads.pad pad,fun brackets rest => ?_⟩
    exact (passes _ _).trans (listCloses brackets rest)
  | items _ pad _ ih later =>
    obtain ⟨lexemes,reads,passes⟩ := ih
    obtain ⟨more,readsMore,passesMore⟩ := later
    refine ⟨_,(reads.pad pad).joined separates comma readsMore,fun brackets rest => ?_⟩
    rw [List.append_assoc]
    exact (passes _ _).trans (passesMore brackets rest)
  | member quoted _ front back ih =>
    obtain ⟨lexemes,reads,passes⟩ := ih
    refine ⟨_,((quotedReads quoted).pad front).joined assigns colon (reads.pad back),fun brackets rest => ?_⟩
    exact (passes _ _).trans (objectCloses brackets rest)
  | members quoted _ front back _ ih later =>
    obtain ⟨lexemes,reads,passes⟩ := ih
    obtain ⟨more,readsMore,passesMore⟩ := later
    refine ⟨_,((quotedReads quoted).pad front).joined assigns colon
      ((reads.pad back).joined separates comma readsMore),fun brackets rest => ?_⟩
    simp only [List.cons_append,List.nil_append,List.append_assoc]
    exact (passes _ _).trans (passesMore brackets rest)

structure Standing (value : Octets) : Prop where
  reads : Reads value (lex value)
  whole : Whole (lex value)

theorem formedStanding (formed : Formed .value s) : Standing s := by
  obtain ⟨lexemes,reads,passes⟩ := formedPasses formed
  obtain rfl := reads.self
  exact ⟨reads,fun rest => passes [] rest⟩

def Row.entry (row : Row) : Entry := (row.1,lex row.2)

theorem rowsRead {rows : List Row} (members : Rows rows s) (each : ∀ row ∈ rows, Standing row.2) :
    ∃ lexemes, Reads s lexemes ∧ following (rows.map Row.entry) = .comma :: (lexemes ++ [.closeObject]) := by
  obtain ⟨comma,colon,-⟩ := stops
  induction members with
  | last spelt front back =>
    have value := (each _ List.mem_cons_self).reads
    exact ⟨_,((speltReads spelt).pad front).joined assigns colon (value.pad back),rfl⟩
  | next spelt front back more ih =>
    obtain ⟨one,others⟩ := List.forall_mem_cons.mp each
    obtain ⟨lexemes,reads,same⟩ := ih others
    refine ⟨_,((speltReads spelt).pad front).joined assigns colon
      ((one.reads.pad back).joined separates comma reads),?_⟩
    rw [List.map_cons,Row.entry,following,same]
    simp

theorem objectHolds {rows : List Row} {text : Octets} (object : Object rows text)
    (each : ∀ row ∈ rows, Standing row.2) : Holds text (rows.map Row.entry) := by
  obtain ⟨-,-,-,closes⟩ := stops
  have whole : ∀ entry ∈ rows.map Row.entry, Whole entry.2 := by
    intro entry member
    obtain ⟨row,there,rfl⟩ := List.mem_map.mp member
    exact (each row there).whole
  refine ⟨?_,whole⟩
  cases object with
  | empty blank pad =>
    exact (((readsGap blank).bracketed opensObject closesObject closes).pad pad).self
  | filled members pad =>
    obtain ⟨lexemes,reads,same⟩ := rowsRead members each
    have text := ((reads.bracketed opensObject closesObject closes).pad pad).self
    rw [text]
    cases members <;> exact congrArg (Lexeme.openObject :: ·) (List.cons.inj same).2.symm

theorem objectBegins {rows : List Row} {text : Octets} (object : Object rows text) :
    ∃ before rest, Blank before ∧ text = before ++ 0x7B :: rest := by
  cases object with
  | empty _ pad =>
    obtain ⟨before,behind,blank,-,rfl⟩ := pad
    exact ⟨before,_,blank,rfl⟩
  | filled _ pad =>
    obtain ⟨before,behind,blank,-,rfl⟩ := pad
    exact ⟨before,_,blank,rfl⟩

theorem blankNone : Blank [] := nofun

theorem blankOne {b : UInt8} (one : b ∈ ([0x20,0x09,0x0A,0x0D] : Octets)) : Blank [b] := by
  intro c member
  rw [List.mem_singleton.mp member]
  exact one

theorem blankLine (depth : Nat) : Blank (encode (newLine depth)) := blankSpace.mpr (newLineSpace depth)

theorem padNone : Padded s s := ⟨[],[],blankNone,blankNone,by rw [List.append_nil,List.nil_append]⟩

theorem padFront {gap : Octets} (blank : Blank gap) : Padded s (gap ++ s) :=
  ⟨gap,[],blank,blankNone,by rw [List.append_nil]⟩

def Row.pretty (depth : Nat) (member : String × Document) : Row := (member.1,encode (member.2.pretty depth))

theorem rowsPretty (depth : Nat) (member : String × Document) (members : List (String × Document))
    {front back : Octets} (before : Blank front) (behind : Blank back) :
    Rows ((member :: members).map (Row.pretty depth)) (front ++
      (encode (String.intercalate ("," ++ newLine depth) (prettyMembers depth (member :: members))) ++ back)) := by
  obtain ⟨name,value⟩ := member
  have blank : Blank [0x20] := blankOne (by decide)
  have colon : encode ": " = [0x3A,0x20] := rfl
  have comma : encode "," = [0x2C] := rfl
  induction members generalizing name value front with
  | nil =>
    have text : front ++ (encode (String.intercalate ("," ++ newLine depth)
        (prettyMembers depth [(name,value)])) ++ back) =
        (front ++ encode (quote name)) ++ 0x3A :: ([0x20] ++ (encode (value.pretty depth) ++ back)) := by
      simp [prettyMembers,colon]
    rw [text]
    exact .last (speltQuote name) (padFront before) ⟨[0x20],back,blank,behind,rfl⟩
  | cons next members ih =>
    obtain ⟨other,document⟩ := next
    have text : front ++ (encode (String.intercalate ("," ++ newLine depth)
        (prettyMembers depth ((name,value) :: (other,document) :: members))) ++ back) =
        (front ++ encode (quote name)) ++ 0x3A :: (([0x20] ++ encode (value.pretty depth)) ++
          0x2C :: (encode (newLine depth) ++ (encode (String.intercalate ("," ++ newLine depth)
            (prettyMembers depth ((other,document) :: members))) ++ back))) := by
      simp [prettyMembers,String.intercalate_cons_cons,colon,comma]
    rw [text]
    exact .next (speltQuote name) (padFront before) (padFront blank) (ih (blankLine depth) other document)

theorem objectPretty (members : List (String × Document)) :
    Object (members.map (Row.pretty 1)) (encode ((Document.object members).pretty 0)) := by
  have opening : encode "\x7b" = [0x7B] := rfl
  have closing : encode "\x7d" = [0x7D] := rfl
  cases members with
  | nil => exact .empty blankNone padNone
  | cons member members =>
    have text : encode ((Document.object (member :: members)).pretty 0) =
        0x7B :: ((encode (newLine 1) ++ (encode (String.intercalate ("," ++ newLine 1)
          (prettyMembers 1 (member :: members))) ++ encode (newLine 0))) ++ [0x7D]) := by
      simp [Document.pretty,layLines,prettyMembers,opening,closing]
    rw [text]
    exact .filled (rowsPretty 1 member members (blankLine 1) (blankLine 0)) padNone

end GrantKeeper.Json
