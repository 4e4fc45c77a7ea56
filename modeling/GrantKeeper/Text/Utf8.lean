/-! Octets and text. Strict decoding accepts exactly the encodings; lossy
decoding puts U+FFFD for every maximal ill-formed part. -/
namespace GrantKeeper.Text

abbrev Octets := List UInt8

def encode (s : String) : Octets := s.toByteArray.data.toList

def decode? (bytes : Octets) : Option String := String.fromUTF8? ⟨bytes.toArray⟩

theorem decodeEncoded (s : String) : decode? (encode s) = some s := by
  have valid := s.isValidUTF8
  simp [decode?,encode,String.fromUTF8?,valid,String.fromUTF8]

def leadingPart : Octets → Nat × Bool
  | [] => (0,false)
  | a :: rest =>
    let tail (lo hi : UInt8) (b : UInt8) := lo ≤ b && b ≤ hi
    let part (second : UInt8 → Bool) (more : Nat) : Nat × Bool :=
      match rest with
      | [] => (1,false)
      | b :: others =>
        if second b then
          let run := ((others.take more).takeWhile (tail 0x80 0xBF)).length
          (2 + run,run == more)
        else (1,false)
    if a < 0x80 then (1,true)
    else if tail 0xC2 0xDF a then part (tail 0x80 0xBF) 0
    else if a == 0xE0 then part (tail 0xA0 0xBF) 1
    else if a == 0xED then part (tail 0x80 0x9F) 1
    else if tail 0xE1 0xEF a then part (tail 0x80 0xBF) 1
    else if a == 0xF0 then part (tail 0x90 0xBF) 2
    else if a == 0xF4 then part (tail 0x80 0x8F) 2
    else if tail 0xF1 0xF3 a then part (tail 0x80 0xBF) 2
    else (1,false)

def decodeLossy (bytes : Octets) : String :=
  match bytes with
  | [] => ""
  | a :: rest =>
    let (n,whole) := leadingPart (a :: rest)
    let head := if whole then (decode? ((a :: rest).take n)).getD "\ufffd" else "\ufffd"
    head ++ decodeLossy (rest.drop (n - 1))
termination_by bytes.length
decreasing_by simp only [List.length_drop,List.length_cons]; omega

end GrantKeeper.Text
