/-! Punycode: code points beyond ASCII in ASCII letters and digits. -/
namespace GrantKeeper.Endpoint.Punycode

def digit (d : Nat) : Char := if d < 26 then Char.ofNat (0x61 + d) else Char.ofNat (0x30 + (d - 26))

def digitValue? (c : Char) : Option Nat :=
  if 'a' ≤ c ∧ c ≤ 'z' then some (c.toNat - 0x61)
  else if 'A' ≤ c ∧ c ≤ 'Z' then some (c.toNat - 0x41)
  else if '0' ≤ c ∧ c ≤ '9' then some (c.toNat - 0x30 + 26)
  else none

def threshold (k bias : Nat) : Nat := max 1 (min 26 (k - bias))

def settleBias (delta k : Nat) : Nat :=
  if 455 < delta then settleBias (delta / 35) (k + 36) else k + 36 * delta / (delta + 38)
termination_by delta

def adapt (delta count : Nat) (first : Bool) : Nat :=
  let scaled := if first then delta / 700 else delta / 2
  settleBias (scaled + scaled / count) 0

theorem thresholdPos (k bias : Nat) : 1 ≤ threshold k bias := Nat.le_max_left _ _

def encodeNumber (bias k n : Nat) : List Char :=
  let t := threshold k bias
  if n < t then [digit n]
  else digit (t + (n - t) % (36 - t)) :: encodeNumber bias (k + 36) ((n - t) / (36 - t))
termination_by n
decreasing_by
  have low := thresholdPos k bias
  have quotient := Nat.div_le_self (n - threshold k bias) (36 - threshold k bias)
  omega

structure Encoding where
  delta : Nat
  bias : Nat
  count : Nat
  output : List Char

def encodePoint (basics n : Nat) (e : Encoding) (c : Char) : Encoding :=
  if c.toNat < n then { e with delta := e.delta + 1 }
  else if c.toNat = n then
    { delta := 0
      bias := adapt e.delta (e.count + 1) (e.count = basics)
      count := e.count + 1
      output := e.output ++ encodeNumber e.bias 36 e.delta }
  else e

def encodeValue (cs : List Char) (basics : Nat) (state : Encoding × Nat) (n : Nat) : Encoding × Nat :=
  let (e,last) := state
  let e := { e with delta := e.delta + (n - last) * (e.count + 1) }
  let e := cs.foldl (encodePoint basics n) e
  ({ e with delta := e.delta + 1 },n + 1)

def encode (cs : List Char) : List Char :=
  let basic := cs.filter (·.toNat < 0x80)
  let values := ((cs.map Char.toNat).filter (0x80 ≤ ·)).mergeSort.eraseDups
  let start : Encoding := ⟨0,72,basic.length,basic ++ (if basic.isEmpty then [] else ['-'])⟩
  (values.foldl (encodeValue cs basic.length) (start,0x80)).1.output

def decodeNumber? (bias k weight value : Nat) : List Char → Option (Nat × List Char)
  | [] => none
  | c :: cs => do
    let d ← digitValue? c
    let t := threshold k bias
    let value := value + d * weight
    if d < t then some (value,cs) else decodeNumber? bias (k + 36) (weight * (36 - t)) value cs

theorem decodeNumberLength {bias k weight value cs n rest}
    (h : decodeNumber? bias k weight value cs = some (n,rest)) : rest.length < cs.length := by
  induction cs generalizing k weight value with
  | nil => simp [decodeNumber?] at h
  | cons c cs ih =>
    simp only [decodeNumber?,bind,Option.bind_eq_some_iff] at h
    obtain ⟨d,-,h⟩ := h
    split at h
    · simp at h; simp [h.2]
    · have := ih h; simp; omega

def decodeFrom (n i bias : Nat) (output : List Char) (cs : List Char) : Option (List Char) :=
  match cs with
  | [] => some output
  | c :: cs =>
    match _here : decodeNumber? bias 36 1 i (c :: cs) with
    | none => none
    | some (reached,rest) =>
      let places := output.length + 1
      let n := n + reached / places
      let place := reached % places
      if reached < 4294967296 ∧ (Char.ofNat n).toNat = n ∧ n ≠ 0 then
        decodeFrom n (place + 1) (adapt (reached - i) places (i = 0))
          (output.take place ++ Char.ofNat n :: output.drop place) rest
      else none
termination_by cs.length
decreasing_by exact decodeNumberLength _here

def decode? (cs : List Char) : Option (List Char) :=
  let tail := (cs.reverse.takeWhile (· ≠ '-')).reverse
  let basic := cs.take (cs.length - tail.length - 1)
  if (basic.isEmpty && tail.length ≠ cs.length) || basic.any (0x80 ≤ ·.toNat) then none
  else decodeFrom 0x80 0 72 basic tail

end GrantKeeper.Endpoint.Punycode
