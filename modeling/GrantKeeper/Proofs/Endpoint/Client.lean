import GrantKeeper.Proofs.Endpoint.Reading
import GrantKeeper.Proofs.Text.Numeral

/-! Clients that have an address as text only. In the text of a web address they find the host that
was read, whatever user and number stand around it. -/
namespace GrantKeeper.Endpoint

def authorityPart (web : Bool) (url : List Char) : List Char :=
  ((url.dropWhile (· ≠ ':')).drop 3).takeWhile fun c => !endsAuthority web c

def withoutUser (cs : List Char) : List Char := (cs.reverse.takeWhile (· ≠ '@')).reverse

def withoutNumber : List Char → List Char
  | '[' :: cs => '[' :: (cs.takeWhile (· ≠ ']') ++ [']'])
  | cs => cs.takeWhile (· ≠ ':')

def clientHost (web : Bool) (url : String) : String :=
  String.ofList (withoutNumber (withoutUser (authorityPart web url.toList)))

theorem takeUpTo {α : Type} {p : α → Bool} {front back : List α} (inside : ∀ x ∈ front, p x = true)
    (border : ∀ x ∈ back.head?, p x = false) : (front ++ back).takeWhile p = front := by
  rw [List.takeWhile_append_of_pos inside]
  cases back with
  | nil => simp
  | cons x back => simp [border x rfl]

theorem endsNot {c : Char} (apart : c ∉ borders) (web : Bool) : endsAuthority web c = false := by
  simp only [borders,List.mem_cons,List.not_mem_nil,or_false,not_or] at apart
  simp [endsAuthority,isSlash,endsPath,apart]

theorem inJoined {c : Char} {between : String} {parts : List String}
    (there : c ∈ (String.intercalate between parts).toList) :
    c ∈ between.toList ∨ ∃ part ∈ parts, c ∈ part.toList := by
  induction parts with
  | nil => rw [String.intercalate_nil] at there; cases there
  | cons part parts ih =>
    cases parts with
    | nil =>
      rw [String.intercalate_singleton] at there
      exact .inr ⟨part,by simp,there⟩
    | cons next parts =>
      rw [String.intercalate_cons_cons,String.toList_append,String.toList_append,List.mem_append,
        List.mem_append] at there
      rcases there with (own | between) | further
      · exact .inr ⟨part,by simp,own⟩
      · exact .inl between
      · rcases ih further with between | ⟨other,among,own⟩
        · exact .inl between
        · exact .inr ⟨other,List.mem_cons_of_mem _ among,own⟩

theorem ipv4Characters {address : Nat} {c : Char} (there : c ∈ (Ipv4.text address).toList) :
    c = '.' ∨ ∃ d < 10, c = Text.digitChar d := by
  rcases inJoined there with dot | ⟨part,among,own⟩
  · exact .inl (List.mem_singleton.mp dot)
  · obtain ⟨i,-,rfl⟩ := List.mem_map.mp among
    exact .inr (Text.digitOfNat own)

theorem hexDigitOf {n : Nat} {c : Char} (there : c ∈ Text.hexDigits n) :
    ∃ d < 16, c = Text.hexDigit d := by
  induction n using Text.hexDigits.induct with
  | case1 n small =>
    rw [Text.hexDigits,if_pos small] at there
    exact ⟨n,small,List.mem_singleton.mp there⟩
  | case2 n large ih =>
    rw [Text.hexDigits,if_neg large,List.mem_append] at there
    rcases there with front | last
    · exact ih front
    · exact ⟨n % 16,Nat.mod_lt _ (by decide),List.mem_singleton.mp last⟩

theorem ipv6Characters {pieces : List Nat} {c : Char} (there : c ∈ (Ipv6.text pieces).toList) :
    c = ':' ∨ ∃ d < 16, c = Text.hexDigit d := by
  have run : ∀ pieces : List Nat, c ∈ (Ipv6.piecesText pieces).toList →
      c = ':' ∨ ∃ d < 16, c = Text.hexDigit d := by
    intro pieces there
    rcases inJoined there with colon | ⟨part,among,own⟩
    · exact .inl (List.mem_singleton.mp colon)
    · obtain ⟨n,-,rfl⟩ := List.mem_map.mp among
      rw [Ipv6.pieceText,String.toList_ofList] at own
      exact .inr (hexDigitOf own)
  unfold Ipv6.text at there
  split at there
  · rw [String.toList_append,String.toList_append,List.mem_append,List.mem_append] at there
    rcases there with (front | gap) | back
    · exact run _ front
    · exact .inl (by simpa using gap)
    · exact run _ back
  · exact run _ there

namespace Host

structure Stands (cs : List Char) : Prop where
  apart : ∀ c ∈ cs, c ∉ borders
  alone : ∀ behind : List Char, (∀ c ∈ behind.head?, c = ':') → withoutNumber (cs ++ behind) = cs

theorem nameStands {cs : List Char} (apart : ∀ c ∈ cs, c ∉ borders)
    (plain : ∀ c ∈ cs, c ≠ ':' ∧ c ≠ '[') : Stands cs := by
  refine ⟨apart,fun behind number => ?_⟩
  have taken : (cs ++ behind).takeWhile (fun c => decide (c ≠ ':')) = cs :=
    takeUpTo (fun c there => decide_eq_true (plain c there).1) fun c first => by simp [number c first]
  unfold withoutNumber
  split
  · rename_i rest same
    cases cs with
    | nil => exact nomatch number '[' (by rw [List.nil_append] at same; rw [same]; rfl)
    | cons c cs => exact absurd (List.cons.inj same).1 (plain c (by simp)).2
  · exact taken

theorem bracketsStand {cs : List Char} (apart : ∀ c ∈ cs, c ∉ borders)
    (inner : ∀ c ∈ cs, c ≠ ']') : Stands ('[' :: (cs ++ [']'])) := by
  refine ⟨fun c there => ?_,fun behind _ => ?_⟩
  · rcases List.mem_cons.mp there with rfl | there
    · decide
    · rcases List.mem_append.mp there with within | last
      · exact apart c within
      · cases List.mem_singleton.mp last
        decide
  · have taken : (cs ++ ']' :: behind).takeWhile (fun c => decide (c ≠ ']')) = cs :=
      takeUpTo (fun c there => decide_eq_true (inner c there)) fun c first => by
        cases first
        rfl
    rw [List.cons_append,List.append_assoc,List.singleton_append,withoutNumber,taken]

theorem OfWeb.stands {host : Host} (web : host.OfWeb) : Stands host.text.toList := by
  cases web with
  | @domain name clean lower =>
    rw [text,String.toList_ofList]
    have all : (':' :: '[' :: borders).all Domain.isForbidden = true := by decide
    have forbids : ∀ c ∈ ':' :: '[' :: borders, Domain.isForbidden c = true := List.all_eq_true.mp all
    refine nameStands (fun c there => ?_) fun c there => ⟨?_,?_⟩
    · intro border
      exact Bool.eq_false_iff.mp (clean c there) (forbids c (by simp [border]))
    · rintro rfl
      exact Bool.eq_false_iff.mp (clean _ there) (forbids _ (by simp))
    · rintro rfl
      exact Bool.eq_false_iff.mp (clean _ there) (forbids _ (by simp))
  | ipv4 address =>
    have digit : ∀ d < 10, Text.digitChar d ∉ borders ∧ Text.digitChar d ≠ ':' ∧
        Text.digitChar d ≠ '[' := by decide
    refine nameStands (fun c there => ?_) fun c there => ?_
    · rcases ipv4Characters there with rfl | ⟨d,small,rfl⟩
      · decide
      · exact (digit d small).1
    · rcases ipv4Characters there with rfl | ⟨d,small,rfl⟩
      · decide
      · exact (digit d small).2
  | ipv6 pieces =>
    have digit : ∀ d < 16, Text.hexDigit d ∉ borders ∧ Text.hexDigit d ≠ ']' := by decide
    have whole : (Host.ipv6 pieces).text.toList = '[' :: ((Ipv6.text pieces).toList ++ [']']) := by
      simp [text]
    rw [whole]
    refine bracketsStand (fun c there => ?_) fun c there => ?_
    · rcases ipv6Characters there with rfl | ⟨d,small,rfl⟩
      · decide
      · exact (digit d small).1
    · rcases ipv6Characters there with rfl | ⟨d,small,rfl⟩
      · decide
      · exact (digit d small).2

end Host

theorem withoutUserOf {front back : List Char} (user : ∀ c ∈ front.getLast?, c = '@')
    (host : '@' ∉ back) : withoutUser (front ++ back) = back := by
  have taken : (back.reverse ++ front.reverse).takeWhile (fun c => decide (c ≠ '@')) = back.reverse := by
    refine takeUpTo (fun c there => decide_eq_true ?_) fun c last => ?_
    · exact ne_of_mem_of_not_mem (List.mem_reverse.mp there) host
    · rw [List.head?_reverse] at last
      simp [user c last]
  rw [withoutUser,List.reverse_append,taken,List.reverse_reverse]

theorem authorityPartOf {scheme whole tail : List Char} (web : Bool) (named : ':' ∉ scheme)
    (inside : ∀ c ∈ whole, endsAuthority web c = false)
    (ends : ∀ c ∈ tail.head?, endsAuthority web c = true) :
    authorityPart web (scheme ++ ':' :: '/' :: '/' :: (whole ++ tail)) = whole := by
  have behind : (scheme ++ ':' :: '/' :: '/' :: (whole ++ tail)).dropWhile (fun c => decide (c ≠ ':')) =
      ':' :: '/' :: '/' :: (whole ++ tail) := by
    rw [List.dropWhile_append_of_pos fun c there => decide_eq_true (ne_of_mem_of_not_mem there named)]
    rfl
  rw [authorityPart,behind]
  refine takeUpTo (fun c there => ?_) fun c first => ?_
  · rw [inside c there]; rfl
  · rw [ends c first]; rfl

def userPart (user : String) : String := if user.isEmpty then "" else user ++ "@"

def numberPart (portNumber : Option Nat) : String := (portNumber.map fun n => ":" ++ Text.ofNat n).getD ""

def tailPart (segments : List String) (query fragment : Option String) : String :=
  (Path.rooted segments).text ++ (query.map ("?" ++ ·)).getD "" ++ (fragment.map ("#" ++ ·)).getD ""

theorem textParts (scheme user : String) (host : Host) (portNumber : Option Nat)
    (segments : List String) (query fragment : Option String) :
    Address.text ⟨scheme,some ⟨user,some host,portNumber⟩,.rooted segments,query,fragment⟩ =
      scheme ++ "://" ++ (userPart user ++ (host.text ++ numberPart portNumber) ++
        tailPart segments query fragment) := by
  have slashes : "://" = ":" ++ "//" := rfl
  simp only [Address.text,Address.body,Authority.text,Authority.hostText,userPart,numberPart,tailPart,
    Option.map_some,Option.getD_some,slashes,String.append_assoc]

theorem tailPartEnds (segments : List String) (query fragment : Option String) (web : Bool) :
    ∀ c ∈ (tailPart segments query fragment).toList.head?, endsAuthority web c = true := by
  have path : ∀ c ∈ (Path.rooted segments).text.toList.head?, c = '/' := by
    cases segments <;> simp [Path.text]
  have asked : ∀ c ∈ ((query.map ("?" ++ ·)).getD "").toList.head?, c = '?' := by
    cases query <;> simp
  have placed : ∀ c ∈ ((fragment.map ("#" ++ ·)).getD "").toList.head?, c = '#' := by
    cases fragment <;> simp
  intro c first
  rw [tailPart,String.toList_append,String.toList_append,List.head?_append,List.head?_append,
    Option.mem_def,Option.or_eq_some_iff,Option.or_eq_some_iff] at first
  rcases first with (first | ⟨-,first⟩) | ⟨-,first⟩
  · cases path c first
    cases web <;> decide
  · cases asked c first
    cases web <;> decide
  · cases placed c first
    cases web <;> decide

theorem userPartEnds (user : String) : ∀ c ∈ (userPart user).toList.getLast?, c = '@' := by
  unfold userPart
  split <;> simp

theorem userPartInside (cs : List Char) (web : Bool) :
    ∀ c ∈ (userPart (String.ofList (userText cs))).toList, endsAuthority web c = false := by
  intro c there
  unfold userPart at there
  split at there
  · cases there
  · rw [String.toList_append,String.toList_ofList,List.mem_append] at there
    rcases there with user | last
    · exact endsNot (userApart user) web
    · cases List.mem_singleton.mp last
      cases web <;> decide

theorem numberPartBegins (portNumber : Option Nat) : ∀ c ∈ (numberPart portNumber).toList.head?, c = ':' := by
  cases portNumber <;> simp [numberPart]

theorem numberPartApart (portNumber : Option Nat) : ∀ c ∈ (numberPart portNumber).toList, c ∉ borders := by
  have digit : ∀ d < 10, Text.digitChar d ∉ borders := by decide
  intro c there
  cases portNumber with
  | none => cases there
  | some n =>
    change c ∈ (":" ++ Text.ofNat n).toList at there
    rw [String.toList_append,List.mem_append] at there
    rcases there with colon | number
    · cases List.mem_singleton.mp colon
      decide
    · obtain ⟨d,small,rfl⟩ := Text.digitOfNat number
      exact digit d small

theorem Address.OfWeb.found {a : Address} (ofWeb : a.OfWeb) (apart : ':' ∉ a.scheme.toList)
    (web : Bool) : ∃ host, a.host? = some host ∧ host.OfWeb ∧ clientHost web a.text = host.text := by
  cases ofWeb with | @mk scheme user host named portNumber segments query fragment
  refine ⟨host,rfl,named,?_⟩
  obtain ⟨hostApart,hostAlone⟩ := named.stands
  have whole : (Address.text ⟨scheme,some ⟨String.ofList (userText user),some host,portNumber⟩,
      .rooted segments,query,fragment⟩).toList = scheme.toList ++ ':' :: '/' :: '/' ::
        ((userPart (String.ofList (userText user))).toList ++
          (host.text.toList ++ (numberPart portNumber).toList) ++
          (tailPart segments query fragment).toList) := by
    rw [textParts]
    simp
  -- the last `@` is the user's own, as neither the host nor the number has one
  have behindUser : ∀ c ∈ host.text.toList ++ (numberPart portNumber).toList, c ∉ borders := by
    intro c there
    rcases List.mem_append.mp there with own | number
    · exact hostApart c own
    · exact numberPartApart portNumber c number
  have inside : ∀ c ∈ (userPart (String.ofList (userText user))).toList ++
      (host.text.toList ++ (numberPart portNumber).toList), endsAuthority web c = false := by
    intro c there
    rcases List.mem_append.mp there with user | behind
    · exact userPartInside _ web c user
    · exact endsNot (behindUser c behind) web
  rw [clientHost,whole,authorityPartOf web apart inside (tailPartEnds segments query fragment web),
    withoutUserOf (userPartEnds _) fun there => behindUser _ there (by decide),
    hostAlone _ (numberPartBegins portNumber),String.ofList_toList]

example : clientHost false "http://e.org:80@127.0.0.1:8080/t" = "127.0.0.1" := by decide

theorem Address.OfWeb.begins {a : Address} (ofWeb : a.OfWeb) :
    ∃ rest, a.text = a.scheme ++ "://" ++ rest := by
  cases ofWeb with | mk
  exact ⟨_,textParts ..⟩

theorem schemeTaken {a : Address} (named : ':' ∉ a.scheme.toList) :
    a.text.toList.takeWhile (fun c => decide (c ≠ ':')) = a.scheme.toList := by
  have colon : a.text = a.scheme ++ (":" ++ (a.body ++ (a.query.map ("?" ++ ·)).getD "" ++
      (a.fragment.map ("#" ++ ·)).getD "")) := by
    simp only [Address.text,String.append_assoc]
  rw [colon,String.toList_append]
  refine takeUpTo (fun c there => decide_eq_true (ne_of_mem_of_not_mem there named)) fun c first => ?_
  rw [String.toList_append] at first
  cases first
  rfl

theorem schemeClear {a : Address} {rest : String} (named : ':' ∉ a.scheme.toList)
    (clear : a.text = "http://" ++ rest) : a.scheme = "http" := by
  have taken := schemeTaken named
  rw [clear,String.toList_append] at taken
  exact String.toList_inj.mp taken.symm

theorem loopbackHost {a : Address} (loop : a.isLoopback = true) :
    ∃ host, a.host? = some host ∧ host.isLoopback = true := by
  unfold Address.isLoopback at loop
  split at loop
  · rename_i host there
    exact ⟨host,there,loop⟩
  · cases loop

inductive Home : String → Prop
  | domain : Home "localhost"
  | ipv4 {b c d : Nat} (octets : b < 256 ∧ c < 256 ∧ d < 256) :
      Home ("127." ++ Text.ofNat b ++ "." ++ Text.ofNat c ++ "." ++ Text.ofNat d)
  | ipv6 : Home "[::1]"

theorem Host.OfWeb.home {host : Host} (web : host.OfWeb) (loop : host.isLoopback = true) :
    Home host.text := by
  cases web with
  | @domain name clean lower =>
    have same : (String.ofList name).map Char.toLower = "localhost" := of_decide_eq_true loop
    have kept : (String.ofList name).map Char.toLower = String.ofList name := by
      rw [← String.toList_inj,String.toList_map,String.toList_ofList,lower]
    rw [text,← kept,same]
    exact .domain
  | ipv4 address =>
    have first : Ipv4.octet address 0 = 127 := of_decide_eq_true loop
    have small : ∀ i, Ipv4.octet address i < 256 := fun i => Nat.mod_lt _ (by decide)
    have whole : Ipv4.text address = "127." ++ Text.ofNat (Ipv4.octet address 1) ++ "." ++
        Text.ofNat (Ipv4.octet address 2) ++ "." ++ Text.ofNat (Ipv4.octet address 3) := by
      have written : "127." = Text.ofNat 127 ++ "." := by decide +kernel
      have four : List.range 4 = [0,1,2,3] := rfl
      simp only [Ipv4.text,four,List.map_cons,List.map_nil,String.intercalate_cons_cons,
        String.intercalate_singleton,first,written,String.append_assoc]
    rw [text,whole]
    exact .ipv4 ⟨small 1,small 2,small 3⟩
  | ipv6 pieces =>
    cases of_decide_eq_true loop
    have short : Ipv6.text [0,0,0,0,0,0,0,1] = "::1" := by decide +kernel
    rw [text,short]
    exact .ipv6

end GrantKeeper.Endpoint
