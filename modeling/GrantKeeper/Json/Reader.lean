import GrantKeeper.Json.Lexeme
import GrantKeeper.Text.Blank
import GrantKeeper.Time.Instant

/-! Readers of single values from lexemes. The first problem from the left is
the one reported, and every reader that succeeds has used up a lexeme. -/
namespace GrantKeeper.Json
open GrantKeeper.Time (Instant)

inductive Bracket
  | object
  | list
  deriving DecidableEq, Repr

inductive Expecting
  | value
  | firstItem
  | firstKey
  | key
  | colon
  | next
  deriving DecidableEq, Repr

inductive Care
  | skipped
  | kept (depth : Nat)
  deriving DecidableEq, Repr

def Care.accepts {α : Type} (care : Care) (content : Option α) : Bool :=
  match care with
  | .skipped => true
  | .kept _ => content.isSome

def Care.fault (care : Care) (kept skipped : Fault) : Fault :=
  match care with
  | .skipped => skipped
  | .kept _ => kept

def Care.mayOpen (care : Care) (brackets : List Bracket) : Bool :=
  match care with
  | .skipped => true
  | .kept depth => brackets.length < depth

abbrev Skim := List Bracket × Expecting

def skimValue (care : Care) (brackets : List Bracket) : Lexeme → Except Fault Skim
  | .null | .boolean _ => .ok (brackets,.next)
  | .number value => if care.accepts value then .ok (brackets,.next) else .error .malformed
  | .text value => if care.accepts value then .ok (brackets,.next) else .error .malformed
  | .openList => if care.mayOpen brackets then .ok (.list :: brackets,.firstItem) else .error .malformed
  | .openObject => if care.mayOpen brackets then .ok (.object :: brackets,.firstKey) else .error .malformed
  | .tornText kept skipped | .torn kept skipped => .error (care.fault kept skipped)
  | _ => .error .malformed

def skimKey (care : Care) (brackets : List Bracket) : Lexeme → Except Fault Skim
  | .text value => if care.accepts value then .ok (brackets,.colon) else .error .malformed
  | .tornText kept skipped => .error (care.fault kept skipped)
  | _ => .error .malformed

def skimOne (care : Care) (brackets : List Bracket) (expecting : Expecting) (lexeme : Lexeme) :
    Except Fault Skim :=
  match expecting, lexeme with
  | .value, lexeme => skimValue care brackets lexeme
  | .firstItem, .closeList => .ok (brackets.tail,.next)
  | .firstItem, lexeme => skimValue care brackets lexeme
  | .firstKey, .closeObject => .ok (brackets.tail,.next)
  | .firstKey, lexeme => skimKey care brackets lexeme
  | .key, lexeme => skimKey care brackets lexeme
  | .colon, .colon => .ok (brackets,.value)
  | .colon, _ => .error .malformed
  | .next, lexeme =>
    match brackets, lexeme with
    | .list :: _, .comma => .ok (brackets,.value)
    | .object :: _, .comma => .ok (brackets,.key)
    | .list :: outer, .closeList => .ok (outer,.next)
    | .object :: outer, .closeObject => .ok (outer,.next)
    | _, _ => .error .malformed

def skim (care : Care) (brackets : List Bracket) (expecting : Expecting) :
    List Lexeme → Except Fault (List Lexeme)
  | [] => .error .truncated
  | lexeme :: rest =>
    match skimOne care brackets expecting lexeme with
    | .error fault => .error fault
    | .ok ([],.next) => .ok rest
    | .ok (brackets,expecting) => skim care brackets expecting rest

theorem skimLength {care brackets expecting s rest}
    (h : skim care brackets expecting s = .ok rest) : rest.length < s.length := by
  induction s generalizing brackets expecting with
  | nil => simp [skim] at h
  | cons lexeme s ih =>
    unfold skim at h
    split at h
    · simp at h
    · simp at h; simp [h]
    · have := ih h; simp; omega

structure Reader (α : Type) where
  read : List Lexeme → Except Fault (α × List Lexeme)
  consumes : ∀ {s a rest}, read s = .ok (a,rest) → rest.length < s.length

def mismatch (wanted : String) : Lexeme → Fault
  | .null => .unfit (.wrongKind .null wanted)
  | .boolean b => .unfit (.wrongKind (.boolean b) wanted)
  | .number (some (.integer n)) => .unfit (.wrongKind (.integer n) wanted)
  | .number (some .floating) => .unfit (.wrongKind .floating wanted)
  | .text (some s) => .unfit (.wrongKind (.text s) wanted)
  | .openList => .unfit (.wrongKind .list wanted)
  | .openObject => .unfit (.wrongKind .object wanted)
  | .tornText kept _ | .torn kept _ => kept
  | _ => .malformed

namespace Reader

def single {α : Type} (take : Lexeme → Except Fault α) : Reader α where
  read
    | [] => .error .truncated
    | lexeme :: rest => (take lexeme).map (·,rest)
  consumes {s a rest} h := by
    cases s with
    | nil => simp at h
    | cons lexeme s =>
      cases e : take lexeme <;> simp [e,Except.map] at h
      simp [h]

def text : Reader String :=
  single fun
    | .text (some s) => .ok s
    | lexeme => .error (mismatch "a string" lexeme)

def path : Reader String :=
  single fun
    | .text (some s) => .ok s
    | lexeme => .error (mismatch "path string" lexeme)

def boolean : Reader Bool :=
  single fun
    | .boolean b => .ok b
    | lexeme => .error (mismatch "a boolean" lexeme)

def word : Reader Int :=
  single fun
    | .number (some (.integer n)) =>
      if Text.inWord n then .ok n else .error (.unfit (.wrongValue (.integer n) "i64"))
    | lexeme => .error (mismatch "i64" lexeme)

def stampDepth : Nat := 126

def stampOfSeconds (n : Int) : Except Fault Instant :=
  match Instant.ofSeconds? n with
  | some t => .ok t
  | none => .error (.unfit (.stampOutOfRange n))

def stampOfText (s : String) : Except Fault Instant :=
  match Text.readWord (Text.trim s) with
  | .ok n => stampOfSeconds n
  | .error fault => .error (.unfit (.badStamp fault))

def stampOfLexeme? : Lexeme → Option (Except Fault Instant)
  | .text (some s) => some (stampOfText s)
  | .number (some (.integer n)) => if Text.inWord n then some (stampOfSeconds n) else none
  | _ => none

/-- A whole second, written as an integer or as text. Any other value is read
past first, so that a fault inside it comes before the misfit. -/
def stamp : Reader Instant where
  read s :=
    match s.head?.bind stampOfLexeme? with
    | some t => t.map (·,s.tail)
    | none =>
      match skim (.kept stampDepth) [] .value s with
      | .error fault => .error fault
      | .ok _ => .error (.unfit .noStamp)
  consumes {s a rest} h := by
    cases s with
    | nil => simp [skim] at h
    | cons lexeme s =>
      split at h
      · next t _ =>
        cases t <;> simp [Except.map] at h
        simp [h]
      · split at h <;> simp at h

def map {α β : Type} (r : Reader α) (f : α → β) : Reader β where
  read s := (r.read s).map fun p => (f p.1,p.2)
  consumes {s a rest} h := by
    cases e : r.read s with
    | error fault => simp [e,Except.map] at h
    | ok p =>
      simp only [e,Except.map,Except.ok.injEq,Prod.mk.injEq] at h
      rw [← h.2]
      exact r.consumes e

def optional {α : Type} (r : Reader α) : Reader (Option α) where
  read s :=
    match s with
    | .null :: rest => .ok (none,rest)
    | s => (r.map some).read s
  consumes {s a rest} h := by
    split at h
    · simp at h; simp [h.2]
    · exact (r.map some).consumes h

def moreItems {α : Type} (r : Reader α) (items : List α) (s : List Lexeme) :
    Except Fault (List α × List Lexeme) :=
  match s with
  | .closeList :: rest => .ok (items,rest)
  | .comma :: rest =>
    match _taken : r.read rest with
    | .error fault => .error fault
    | .ok (a,rest) => moreItems r (items ++ [a]) rest
  | [] => .error .truncated
  | _ => .error .malformed
termination_by s.length
decreasing_by
  have := r.consumes _taken
  simp
  omega

theorem moreItemsLength {α : Type} {r : Reader α} {items : List α} {s p}
    (h : moreItems r items s = .ok p) : p.2.length < s.length := by
  fun_induction moreItems r items s with
  | case1 => simp at h; simp [← h]
  | case2 => simp at h
  | case3 items rest a rest' eq ih =>
    have := r.consumes eq
    have := ih h
    simp
    omega
  | case4 => simp at h
  | case5 => simp at h

def list {α : Type} (r : Reader α) : Reader (List α) where
  read s :=
    match s with
    | .openList :: .closeList :: rest => .ok ([],rest)
    | .openList :: rest =>
      match r.read rest with
      | .error fault => .error fault
      | .ok (a,rest) => moreItems r [a] rest
    | [] => .error .truncated
    | lexeme :: _ => .error (mismatch "a sequence" lexeme)
  consumes {s a rest} h := by
    split at h
    · simp only [Except.ok.injEq,Prod.mk.injEq] at h
      rw [← h.2]
      simp only [List.length_cons]
      omega
    · split at h
      · simp at h
      · next e =>
        have := r.consumes e
        have := moreItemsLength h
        simp
        simp at this
        omega
    · simp at h
    · simp at h

end Reader

def decode {α : Type} (r : Reader α) (s : Text.Octets) : Except Fault α :=
  match r.read (lex s) with
  | .error fault => .error fault
  | .ok (a,rest) => if rest.isEmpty then .ok a else .error .malformed

end GrantKeeper.Json
