import GrantKeeper.Text.Utf8
import GrantKeeper.Text.Decimal
import GrantKeeper.Json.Fault

/-! JSON numbers. Only what a record can ask of a number is kept: the value of
an integer that fits 64 bits, and for all others that they are within the range
of double precision. -/
namespace GrantKeeper.Json
open GrantKeeper.Text (Octets)

inductive Number
  | integer (n : Int)
  | floating
  deriving DecidableEq, Repr

def isDigit (b : UInt8) : Bool := 0x30 ≤ b && b ≤ 0x39

def digitValue (b : UInt8) : Nat := b.toNat - 0x30

def unsignedMax : Nat := 18446744073709551615

def accumulate (significand : Nat) : Octets → Nat × Nat
  | [] => (significand,0)
  | d :: ds =>
    let next := significand * 10 + digitValue d
    if next ≤ unsignedMax then accumulate next ds else (significand,ds.length + 1)

def roundToDouble (n : Nat) : Nat :=
  let bits := n.log2 + 1
  if bits ≤ 53 then n
  else
    let shift := bits - 53
    let quotient := n >>> shift
    let rest := n % (1 <<< shift)
    let half := 1 <<< (shift - 1)
    let rounded := if half < rest || (rest == half && quotient % 2 == 1) then quotient + 1 else quotient
    rounded <<< shift

def exceedsDouble (significand : Nat) (exponent : Int) : Bool :=
  significand != 0 && 0 ≤ exponent &&
    (309 ≤ exponent ||
      ((1 <<< 54) - 1) <<< 970 ≤ roundToDouble significand * roundToDouble (Nat.pow 10 exponent.toNat))

/-- The value of a numeral from its digits, or `none` beyond the range of
doubles. Digits past 64 bits count in the scale only. -/
def Number.ofDigits? (negative : Bool) (whole : Octets) (fraction : Option Octets)
    (power : Option Int) : Option Number :=
  let (head,excess) := accumulate 0 whole
  match fraction, power, excess with
  | none, none, 0 =>
    if negative then
      if head = 0 ∨ 9223372036854775808 < head then some .floating else some (.integer (-head))
    else some (.integer head)
  | _, _, _ =>
    let places := fraction.getD []
    let (significand,unread) := accumulate head places
    let scale : Int := excess - (places.length - unread : Nat) + power.getD 0
    if exceedsDouble significand scale then none else some .floating

/-- The outcome of reading a numeral: its value and the rest of the text, or
the fault for a reader that keeps the value. A reader that skips it finds every
such text malformed. -/
abbrev Numeral := Except Fault (Option Number × Octets)

def fallShort (rest : Octets) : Fault := if rest.isEmpty then .truncated else .malformed

def powerSign : Octets → Bool × Octets
  | 0x2B :: s => (false,s)
  | 0x2D :: s => (true,s)
  | s => (false,s)

def readPower (negative : Bool) (whole : Octets) (fraction : Option Octets) (s : Octets) : Numeral :=
  let (below,s) := powerSign s
  let ds := s.takeWhile isDigit
  let rest := s.dropWhile isDigit
  if ds.isEmpty then .error (fallShort rest)
  else
    let n : Int := ds.foldl (fun n d => n * 10 + digitValue d) 0
    .ok (Number.ofDigits? negative whole fraction (some (if below then -n else n)),rest)

def readEnd (negative : Bool) (whole : Octets) (fraction : Option Octets) (s : Octets) : Numeral :=
  match s with
  | 0x65 :: r | 0x45 :: r => readPower negative whole fraction r
  | s => .ok (Number.ofDigits? negative whole fraction none,s)

def readNumeral (negative : Bool) (s : Octets) : Numeral :=
  let whole := s.takeWhile isDigit
  let rest := s.dropWhile isDigit
  match whole with
  | [] => .error (fallShort rest)
  | 0x30 :: _ :: _ => .error .malformed
  | _ =>
    match rest with
    | 0x2E :: r =>
      let fraction := r.takeWhile isDigit
      let rest := r.dropWhile isDigit
      if fraction.isEmpty then .error (fallShort rest)
      else readEnd negative whole (some fraction) rest
    | rest => readEnd negative whole none rest

theorem dropWhileLength {α : Type} (p : α → Bool) (s : List α) :
    (s.dropWhile p).length ≤ s.length := by
  induction s with
  | nil => simp
  | cons a s ih =>
    rw [List.dropWhile_cons]
    split
    · exact Nat.le_succ_of_le ih
    · exact Nat.le_refl _

theorem powerSignLength (s : Octets) : (powerSign s).2.length ≤ s.length := by
  unfold powerSign
  split <;> simp

theorem readPowerLength {negative whole fraction s n rest}
    (h : readPower negative whole fraction s = .ok (n,rest)) : rest.length ≤ s.length := by
  simp only [readPower] at h
  split at h
  · simp at h
  · simp only [Except.ok.injEq,Prod.mk.injEq] at h
    rw [← h.2]
    exact Nat.le_trans (dropWhileLength _ _) (powerSignLength s)

theorem readEndLength {negative whole fraction s n rest}
    (h : readEnd negative whole fraction s = .ok (n,rest)) : rest.length ≤ s.length := by
  unfold readEnd at h
  split at h
  · exact Nat.le_trans (readPowerLength h) (by simp)
  · exact Nat.le_trans (readPowerLength h) (by simp)
  · simp only [Except.ok.injEq,Prod.mk.injEq] at h
    exact Nat.le_of_eq (congrArg List.length h.2.symm)

theorem readNumeralLength {negative s n rest}
    (h : readNumeral negative s = .ok (n,rest)) : rest.length < s.length := by
  have split_ := congrArg List.length (List.takeWhile_append_dropWhile (p := isDigit) (l := s))
  rw [List.length_append] at split_
  unfold readNumeral at h
  simp only at h
  split at h
  · simp at h
  · simp at h
  · next _ nonempty _ =>
    have digit : 0 < (s.takeWhile isDigit).length := List.length_pos_iff.mpr nonempty
    split at h
    · next r hr =>
      split at h
      · simp at h
      · have := readEndLength h
        have := dropWhileLength isDigit r
        rw [hr,List.length_cons] at split_
        omega
    · have := readEndLength h
      omega

end GrantKeeper.Json
