import GrantKeeper.Proofs.Exchange.Body

/-! What an answer is taken for: a reply, a refusal in the endpoint's own words, or neither, and whether
the refresh token is spent with it. -/
namespace GrantKeeper.Exchange
open Json (Entry Holds Layout Lexeme Mentions Reader)
open Text (Octets)

namespace Refusal
variable {entries : List Entry} {octets : Octets} {r : Refusal}

theorem exact : layout.Exact := by
  intro field member draft
  simp only [layout,List.mem_cons,List.not_mem_nil,or_false] at member
  obtain rfl | rfl := member
  · exact Json.Field.exact Reader.exactText
  · exact Json.Field.exact Reader.exactText

theorem parts : layout.Parts "error" code ∧ layout.Parts "error_description" description := by
  refine ⟨?_,?_⟩
  all_goals
    intro field member other draft
    simp only [layout,List.mem_cons,List.not_mem_nil,or_false] at member
    obtain rfl | rfl := member
  all_goals first
    | exact absurd rfl other
    | exact Json.Field.gives (Reader.givesAny _) fun _ _ => rfl

structure Told (entries : List Entry) (r : Refusal) : Prop where
  code : Layout.Told entries "error" .text "" r.code
  description : Layout.Told entries "error_description" .text "" r.description

theorem told {seen : List String} (builds : layout.Builds ([],layout.blank) entries (seen,r)) :
    r.Told entries :=
  ⟨Layout.builtTold rfl parts.1 (fun _ _ => rfl) builds rfl,
    Layout.builtTold rfl parts.2 (fun _ _ => rfl) builds rfl⟩

theorem finished {seen : List String} : layout.finish seen r = .ok r ↔ seen.contains "error" = true := by
  simp only [Layout.finish,layout,Json.Field.of,List.find?]
  cases seen.contains "error" with
  | true => exact ⟨fun _ => rfl,fun _ => rfl⟩
  | false =>
    constructor
    · intro ended
      cases ended
    · intro seen
      cases seen

theorem decoded (holds : Holds octets entries) : Json.decode reader octets = .ok r ↔
    (∃ value, ("error",value) ∈ entries) ∧ r.Told entries := by
  have known : layout.field? "error" = some (.of "error" .always .text fun r s => { r with code := s }) := rfl
  refine (Layout.decodedObject exact holds).trans ?_
  constructor
  · rintro ⟨seen,builds,ended⟩
    have present := (Layout.builtSeen known builds).mp (finished.mp ended)
    exact ⟨present.resolve_left (by decide),told builds⟩
  · rintro ⟨present,said⟩
    have some : ∃ q, layout.Builds ([],layout.blank) entries q := by
      refine Layout.buildable holds.whole ?_ fun _ seen => by cases seen
      intro name field known
      obtain ⟨member,rfl⟩ := Layout.fieldNamed known
      simp only [layout,List.mem_cons,List.not_mem_nil,or_false] at member
      obtain rfl | rfl := member
      · exact said.code.fits
      · exact said.description.fits
    obtain ⟨⟨seen,other⟩,builds⟩ := some
    have again := told builds
    obtain rfl : other = r := by
      cases other
      cases r
      rw [mk.injEq]
      exact ⟨again.code.unique said.code,again.description.unique said.description⟩
    have contains := (Layout.builtSeen known builds).mpr (.inr present)
    exact ⟨seen,builds,finished.mpr contains⟩

theorem unlisted {b : Body} (same : Json.lex octets = Json.list b.elements) :
    Json.decode reader octets ≠ .ok r := by
  intro decoded
  obtain ⟨access,kind,lifetime,refresh,scope,code,description⟩ := b
  simp only [Json.decode,same] at decoded
  cases access <;> cases kind <;> cases decoded

end Refusal

namespace Answer
variable {a : Answer} {status : Status} {b : Body} {reply : Reply} {fault : Fault}

theorem successBetween : status.isSuccess = true ↔ 200 ≤ status.code ∧ status.code < 300 := by
  simp [Status.isSuccess]

theorem rejectionEither : status.isRejection = true ↔ status.code = 400 ∨ status.code = 401 := by
  simp [Status.isRejection]

theorem judgeReply : judge status b = .ok reply ↔ b.code = none ∧
    ∃ access, b.access = some access ∧ access ≠ "" ∧
      reply = ⟨access,b.kind,b.lifetime,b.refresh,b.scope⟩ := by
  unfold judge
  cases b.code with
  | some code =>
    constructor
    · intro judged
      cases judged
    · intro made
      cases made.1
  | none =>
    cases b.access with
    | none =>
      constructor
      · intro judged
        cases judged
      · rintro ⟨-,access,given,-⟩
        cases given
    | some access =>
      by_cases empty : access = ""
      · subst empty
        constructor
        · intro judged
          cases judged
        · rintro ⟨-,access,given,filled,-⟩
          cases given
          exact absurd rfl filled
      · have filled : access.isEmpty = false := by simpa [String.isEmpty_iff] using empty
        simp [filled,empty,eq_comm]

theorem judgeFault (failed : judge status b = .error fault) :
    (∃ code, b.code = some code ∧ fault = .refused status code (b.description.getD "")) ∨
    b.code = none ∧ fault = .badReply "missing access_token" := by
  unfold judge at failed
  split at failed
  · rename_i code given
    cases failed
    exact .inl ⟨code,given,rfl⟩
  · rename_i uncoded
    split at failed
    · split at failed
      · cases failed
        exact .inr ⟨uncoded,rfl⟩
      · cases failed
    · cases failed
      exact .inr ⟨uncoded,rfl⟩

theorem readSuccess (success : a.status.isSuccess = true) : a.read =
    match Json.decode Body.reader (Text.encode a.body) with
    | .error fault => .error (.unreadable fault)
    | .ok body => judge a.status body := by
  unfold read
  exact if_pos success

theorem readFailure (failure : a.status.isSuccess = false) : a.read = .error a.fault := by
  unfold read
  exact if_neg (by simp [failure])

theorem readReply : a.read = .ok reply ↔ a.status.isSuccess = true ∧
    ∃ b, Json.decode Body.reader (Text.encode a.body) = .ok b ∧ judge a.status b = .ok reply := by
  cases success : a.status.isSuccess with
  | false =>
    rw [readFailure success]
    constructor
    · intro read
      cases read
    · intro made
      cases made.1
  | true =>
    rw [readSuccess success]
    simp only [true_and]
    cases Json.decode Body.reader (Text.encode a.body) with
    | error fault =>
      constructor
      · intro read
        cases read
      · rintro ⟨b,decoded,-⟩
        cases decoded
    | ok b =>
      constructor
      · exact fun judged => ⟨b,rfl,judged⟩
      · rintro ⟨c,same,judged⟩
        cases same
        exact judged

def Spent (status : Status) (fault : Fault) : Prop :=
  status.code = 400 ∨ status.code = 401 ∨ ∃ code description, fault = .refused status code description ∧
    code ∈ ["invalid_grant","invalid_client","unauthorized_client"]

theorem refusedFinal {code description : String} :
    (Fault.refused status code description).isFinal = true ↔ Spent status (.refused status code description) := by
  simp only [Fault.isFinal,Bool.or_eq_true,rejectionEither,List.contains_iff_mem,Fault.rejectionCodes,Spent,
    or_assoc]
  refine or_congr_right (or_congr_right ⟨fun member => ⟨_,_,rfl,member⟩,?_⟩)
  rintro ⟨code,description,same,member⟩
  cases same
  exact member

theorem otherSpent (other : ∀ code description, fault ≠ .refused status code description) :
    Spent status fault ↔ status.isRejection = true := by
  rw [rejectionEither,Spent,← or_assoc]
  refine or_iff_left ?_
  rintro ⟨code,description,same,-⟩
  exact other code description same

theorem readFinal (failed : a.read = .error fault) : fault.isFinal = true ↔ Spent a.status fault := by
  cases success : a.status.isSuccess with
  | false =>
    rw [readFailure success] at failed
    cases failed
    unfold fault
    split
    · exact refusedFinal
    · exact (otherSpent fun _ _ same => by cases same).symm
  | true =>
    have unspent : a.status.isRejection = false := by
      have between := successBetween.mp success
      rw [Bool.eq_false_iff,ne_eq,rejectionEither]
      omega
    rw [readSuccess success] at failed
    split at failed
    · cases failed
      rw [otherSpent (fun _ _ same => by cases same),unspent]
      exact Iff.rfl
    · rcases judgeFault failed with ⟨code,-,rfl⟩ | ⟨-,rfl⟩
      · exact refusedFinal
      · rw [otherSpent (fun _ _ same => by cases same),unspent]
        exact Iff.rfl

/-- A reply is read from a successful answer without an error code and with an access token, and from no
other; every other answer gives a fault, which is final for a spent refresh token only. -/
theorem classified (a : Answer) :
    (∀ b, Json.decode Body.reader (Text.encode a.body) = .ok b ↔ b.Spelled (Text.encode a.body)) ∧
    (∀ reply, a.read = .ok reply ↔ (200 ≤ a.status.code ∧ a.status.code < 300) ∧
      ∃ b, Json.decode Body.reader (Text.encode a.body) = .ok b ∧ b.code = none ∧
        ∃ access, b.access = some access ∧ access ≠ "" ∧
          reply = ⟨access,b.kind,b.lifetime,b.refresh,b.scope⟩) ∧
    ((∀ reply, a.read ≠ .ok reply) → ∃ fault, a.read = .error fault ∧
      (fault.isFinal = true ↔ a.status.code = 400 ∨ a.status.code = 401 ∨
        ∃ code description, fault = .refused a.status code description ∧
          code ∈ ["invalid_grant","invalid_client","unauthorized_client"])) ∧
    ∀ code, Body.Coded (Text.encode a.body) code → ∀ reply, a.read ≠ .ok reply := by
  refine ⟨fun b => Body.decoded,?_,?_,?_⟩
  · intro reply
    simp only [readReply,successBetween,judgeReply]
  · intro none
    cases failed : a.read with
    | ok reply => exact absurd failed (none reply)
    | error fault => exact ⟨fault,rfl,readFinal failed⟩
  · intro code coded reply read
    obtain ⟨-,b,decoded,judged⟩ := readReply.mp read
    cases (judgeReply.mp judged).1.symm.trans ((Body.decoded.mp decoded).code coded)

def grantedBody : String := "\x7b\"access_token\":\"B\"\x7d"

def expiredBody : String := "\x7b\"error\":\"invalid_grant\",\"error_description\":\"expired\"\x7d"

theorem expiredHolds : Holds (Text.encode expiredBody)
    [("error",[.ofText "invalid_grant"]),("error_description",[.ofText "expired"])] := by
  refine ⟨by decide +kernel,?_⟩
  simp only [List.mem_cons,List.not_mem_nil,or_false,forall_eq_or_imp,forall_eq]
  exact ⟨fun _ => rfl,fun _ => rfl⟩

theorem expiredRefused :
    (Answer.mk ⟨200⟩ expiredBody).read = .error (.refused ⟨200⟩ "invalid_grant" "expired") := by
  decide +kernel

theorem expiredClassified :
    (Answer.mk ⟨200⟩ grantedBody).read = .ok ⟨"B",none,none,none,none⟩ ∧
    ∃ fault, (Answer.mk ⟨200⟩ expiredBody).read = .error fault ∧ fault.isFinal = true := by
  obtain ⟨-,replies,-,-⟩ := classified ⟨⟨200⟩,grantedBody⟩
  obtain ⟨-,-,faults,coded⟩ := classified ⟨⟨200⟩,expiredBody⟩
  have granted : Json.decode Body.reader (Text.encode grantedBody) =
      .ok ⟨some "B",none,none,none,none,none,none⟩ := by decide +kernel
  refine ⟨(replies _).mpr ⟨by decide,_,granted,rfl,"B",rfl,by decide,rfl⟩,?_⟩
  obtain ⟨fault,refused,final⟩ := faults (coded "invalid_grant" (.inl ⟨_,expiredHolds,by decide⟩))
  cases expiredRefused.symm.trans refused
  exact ⟨_,refused,final.mpr (.inr (.inr ⟨"invalid_grant","expired",rfl,by decide⟩))⟩

theorem faultRefused {refusal : Refusal}
    (decoded : Json.decode Refusal.reader (Text.encode a.body) = .ok refusal) :
    a.fault = .refused a.status refusal.code refusal.description := by
  simp only [fault,decoded]

theorem faultFailed (undecoded : ∀ refusal, Json.decode Refusal.reader (Text.encode a.body) ≠ .ok refusal) :
    a.fault = .failed a.status (shorten a.body) := by
  unfold fault
  split
  · rename_i refusal decoded
    exact absurd decoded (undecoded refusal)
  · rfl

theorem readRefused {code description : String} (success : a.status.isSuccess = true)
    (refused : a.read = .error (.refused a.status code description)) :
    ∃ b : Body, b.Spelled (Text.encode a.body) ∧ b.code = some code ∧ description = b.description.getD "" := by
  rw [readSuccess success] at refused
  split at refused
  · cases refused
  · rename_i b decoded
    rcases judgeFault refused with ⟨code,coded,same⟩ | ⟨-,same⟩
    · cases same
      exact ⟨b,Body.decoded.mp decoded,coded,rfl⟩
    · cases same

theorem bodyRefusal {octets : Octets} {entries : List Entry} {code : String} (holds : Holds octets entries)
    (members : b.Members entries) (coded : b.code = some code) :
    (("error_description",[.null]) ∉ entries →
      Json.decode Refusal.reader octets = .ok ⟨code,b.description.getD ""⟩) ∧
    (("error_description",[.null]) ∈ entries → ∀ refusal, Json.decode Refusal.reader octets ≠ .ok refusal) := by
  have said := coded ▸ members.code
  constructor
  · intro unnulled
    refine (Refusal.decoded holds).mpr ⟨?_,Layout.toldText.mpr ⟨some code,said,?_,rfl⟩,
      Layout.toldText.mpr ⟨_,members.description,unnulled,rfl⟩⟩
    · by_contra absent
      cases said.absent (not_exists.mp absent)
    · intro member
      cases said.each _ member
  · intro nulled refusal decoded
    obtain ⟨-,-,unnulled,-⟩ := Layout.toldText.mp ((Refusal.decoded holds).mp decoded).2.description
    exact unnulled nulled

/-- The refusal that a successful answer is read as is found under every other status as well if the body
is an object whose description is not `null`; otherwise the status alone is told. -/
theorem refusedElsewhere {body : String} {status other : Status} {code description : String}
    (success : status.isSuccess = true) (failure : other.isSuccess = false)
    (refused : (Answer.mk status body).read = .error (.refused status code description)) :
    ((∃ entries, Holds (Text.encode body) entries ∧ ("error_description",[.null]) ∉ entries) →
      (Answer.mk other body).read = .error (.refused other code description)) ∧
    ((¬∃ entries, Holds (Text.encode body) entries ∧ ("error_description",[.null]) ∉ entries) →
      (Answer.mk other body).read = .error (.failed other (shorten body))) := by
  obtain ⟨b,spelled,coded,rfl⟩ := readRefused success refused
  rw [readFailure failure]
  constructor
  · rintro ⟨entries,holds,unnulled⟩
    rcases spelled.spelling with ⟨others,again,members⟩ | same
    · cases holds.unique again
      exact congrArg Except.error (faultRefused (a := ⟨other,body⟩) ((bodyRefusal holds members coded).1 unnulled))
    · cases entries <;> cases holds.lexemes.symm.trans same
  · intro otherwise
    refine congrArg Except.error (faultFailed fun refusal => ?_)
    rcases spelled.spelling with ⟨entries,holds,members⟩ | same
    · have nulled : ("error_description",[.null]) ∈ entries := by
        by_contra unnulled
        exact otherwise ⟨entries,holds,unnulled⟩
      exact (bodyRefusal holds members coded).2 nulled refusal
    · exact Refusal.unlisted same

theorem expiredElsewhere :
    (Answer.mk ⟨200⟩ expiredBody).read = .error (.refused ⟨200⟩ "invalid_grant" "expired") ∧
    (Answer.mk ⟨403⟩ expiredBody).read = .error (.refused ⟨403⟩ "invalid_grant" "expired") :=
  ⟨expiredRefused,(refusedElsewhere rfl rfl expiredRefused).1 ⟨_,expiredHolds,by decide⟩⟩

def nullBody : String := "\x7b\"error\":\"invalid_grant\",\"error_description\":null\x7d"

theorem nullDescriptionLost :
    (Answer.mk ⟨200⟩ nullBody).read = .error (.refused ⟨200⟩ "invalid_grant" "") ∧
    (Fault.refused ⟨200⟩ "invalid_grant" "").isFinal = true ∧
    (Answer.mk ⟨403⟩ nullBody).read = .error (.failed ⟨403⟩ nullBody) ∧
    (Fault.failed ⟨403⟩ nullBody).isFinal = false := by
  decide +kernel

end Answer

end GrantKeeper.Exchange
