import GrantKeeper.Endpoint.Percent

/-! Segments of a path. Dots are followed: one stays, two go up, but never above
the first segment and never above a drive. -/
namespace GrantKeeper.Endpoint.Segments

def dropDot : List Char → Option (List Char)
  | '.' :: rest | '%' :: '2' :: 'e' :: rest | '%' :: '2' :: 'E' :: rest => some rest
  | _ => none

def isDot (segment : List Char) : Bool := dropDot segment = some []

def isDots (segment : List Char) : Bool := ((dropDot segment).bind dropDot) = some []

def isDrive : List Char → Bool
  | [c,d] => c.isAlpha && (d = ':' || d = '|')
  | _ => false

def beginsWithDrive (segment : List Char) : Bool := isDrive (segment.takeWhile (· ≠ '\\'))

def up : List (List Char) → List (List Char)
  | [] => []
  | segment :: above => if beginsWithDrive segment then segment :: above else above

def follow (behind : List (List Char)) : List (List Char) → List (List Char)
  | [] => behind
  | segment :: ahead =>
    let next :=
      if isDots segment then if ahead.isEmpty then [] :: up behind else up behind
      else if isDot segment then if ahead.isEmpty then [] :: behind else behind
      else percentEncode inPathSet segment :: behind
    follow next ahead

def resolve (segments : List (List Char)) : List (List Char) := (follow [] segments).reverse

end GrantKeeper.Endpoint.Segments
