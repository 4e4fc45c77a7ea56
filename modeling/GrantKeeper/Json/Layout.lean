import GrantKeeper.Json.Reader

/-! Records with named fields. A record is written as an object, its fields in
any order and others between them, or as a list of its fields in order. -/
namespace GrantKeeper.Json

inductive Need
  | always
  | inLists
  | never
  deriving DecidableEq, Repr

structure Field (σ : Type) where
  name : String
  need : Need
  reader : σ → Reader σ

def Field.of {σ α : Type} (name : String) (need : Need) (r : Reader α) (put : σ → α → σ) : Field σ :=
  ⟨name,need,fun draft => r.map (put draft)⟩

structure Layout (σ : Type) where
  name : String
  blank : σ
  fields : List (Field σ)

namespace Layout
variable {σ : Type}

def wanted (layout : Layout σ) : String := "struct " ++ layout.name

def wantedLength (layout : Layout σ) : String :=
  layout.wanted ++ " with " ++ Text.ofNat layout.fields.length ++ " elements"

def field? (layout : Layout σ) (name : String) : Option (Field σ) :=
  layout.fields.find? (·.name == name)

def takeColon : List Lexeme → Except Fault (List Lexeme)
  | .colon :: rest => .ok rest
  | [] => .error .truncated
  | _ => .error .malformed

theorem takeColonLength {s rest} (h : takeColon s = .ok rest) : rest.length < s.length := by
  unfold takeColon at h
  split at h <;> simp at h
  simp [h]

abbrev Progress (σ : Type) := List String × σ

def memberValue (layout : Layout σ) (seen : List String) (draft : σ) (key : String)
    (s : List Lexeme) : Except Fault (Progress σ × List Lexeme) :=
  match layout.field? key with
  | some field =>
    if seen.contains key then .error (.unfit (.repeatedField key))
    else
      match takeColon s with
      | .error fault => .error fault
      | .ok s => ((field.reader draft).map (key :: seen,·)).read s
  | none =>
    match takeColon s with
    | .error fault => .error fault
    | .ok s =>
      match skim .skipped [] .value s with
      | .error fault => .error fault
      | .ok rest => .ok ((seen,draft),rest)

def member (layout : Layout σ) (seen : List String) (draft : σ) :
    List Lexeme → Except Fault (Progress σ × List Lexeme)
  | .text (some key) :: rest => memberValue layout seen draft key rest
  | .tornText kept _ :: _ => .error kept
  | [] => .error .truncated
  | _ => .error .malformed

theorem memberValueLength {layout : Layout σ} {seen draft key s p}
    (h : memberValue layout seen draft key s = .ok p) : p.2.length < s.length := by
  unfold memberValue at h
  split at h
  · split at h
    · simp at h
    · split at h
      · simp at h
      · next e =>
        have := takeColonLength e
        have : p.2.length < _ := Reader.consumes _ h
        omega
  · split at h
    · simp at h
    · next e =>
      have := takeColonLength e
      split at h
      · simp at h
      · next e =>
        have := skimLength e
        simp at h
        simp [← h]
        omega

theorem memberLength {layout : Layout σ} {seen draft s p}
    (h : member layout seen draft s = .ok p) : p.2.length < s.length := by
  unfold member at h
  split at h
  · have := memberValueLength h
    simp
    omega
  all_goals simp at h

def finish (layout : Layout σ) (seen : List String) (draft : σ) : Except Fault σ :=
  match layout.fields.find? (fun field => field.need == .always && !seen.contains field.name) with
  | some field => .error (.unfit (.missingField field.name))
  | none => .ok draft

def members (layout : Layout σ) (seen : List String) (draft : σ) (s : List Lexeme) :
    Except Fault (σ × List Lexeme) :=
  match _taken : member layout seen draft s with
  | .error fault => .error fault
  | .ok ((seen,draft),.closeObject :: rest) => (finish layout seen draft).map (·,rest)
  | .ok ((seen,draft),.comma :: rest) => members layout seen draft rest
  | .ok (_,[]) => .error .truncated
  | .ok _ => .error .malformed
termination_by s.length
decreasing_by
  have := memberLength _taken
  simp at this
  omega

theorem membersLength {layout : Layout σ} {seen draft s p}
    (h : members layout seen draft s = .ok p) : p.2.length < s.length := by
  fun_induction members layout seen draft s with
  | case1 => simp at h
  | case2 seen draft s seen' draft' rest eq =>
    have := memberLength eq
    cases e : finish layout seen' draft' <;> simp [e,Except.map] at h
    simp at this
    simp [← h]
    omega
  | case3 seen draft s seen' draft' rest eq ih =>
    have := memberLength eq
    have := ih h
    simp at *
    omega
  | case4 => simp at h
  | case5 => simp at h

def firstNeeded (index : Nat) : List (Field σ) → Option Nat
  | [] => none
  | field :: fields => if field.need == .never then firstNeeded (index + 1) fields else some index

def takeComma (index : Nat) (s : List Lexeme) : Except Fault (List Lexeme) :=
  if index = 0 then .ok s
  else
    match s with
    | .comma :: rest => .ok rest
    | [] => .error .truncated
    | _ => .error .malformed

def elements (layout : Layout σ) (index : Nat) (draft : σ) :
    List (Field σ) → List Lexeme → Except Fault (σ × List Lexeme)
  | [], .closeList :: rest => .ok (draft,rest)
  | [], [] => .error .truncated
  | [], _ => .error .malformed
  | field :: fields, .closeList :: rest =>
    match firstNeeded index (field :: fields) with
    | some given => .error (.unfit (.shortList given layout.wantedLength))
    | none => .ok (draft,rest)
  | field :: fields, s =>
    match takeComma index s with
    | .error fault => .error fault
    | .ok s =>
      match (field.reader draft).read s with
      | .error fault => .error fault
      | .ok (draft,rest) => elements layout (index + 1) draft fields rest

theorem takeCommaLength {index s rest} (h : takeComma index s = .ok rest) :
    rest.length ≤ s.length := by
  unfold takeComma at h
  split at h
  · simp at h; simp [h]
  · split at h <;> simp at h
    simp [h]

theorem elementsLength {layout : Layout σ} {index draft fields s p}
    (h : elements layout index draft fields s = .ok p) : p.2.length < s.length := by
  fun_induction elements layout index draft fields s
  all_goals try simp at h
  · simp [← h]
  · simp [← h]
  · next e₁ _ _ e₂ ih =>
    have := takeCommaLength e₁
    have := Reader.consumes _ e₂
    have := ih h
    omega

def reader (layout : Layout σ) : Reader σ where
  read s :=
    match s with
    | .openObject :: .closeObject :: rest => (finish layout [] layout.blank).map (·,rest)
    | .openObject :: rest => members layout [] layout.blank rest
    | .openList :: rest => elements layout 0 layout.blank layout.fields rest
    | [] => .error .truncated
    | lexeme :: _ => .error (mismatch layout.wanted lexeme)
  consumes {s a rest} h := by
    split at h
    · cases e : finish layout [] layout.blank with
      | error fault => simp [e,Except.map] at h
      | ok record =>
        simp only [e,Except.map,Except.ok.injEq,Prod.mk.injEq] at h
        rw [← h.2]
        simp only [List.length_cons]
        omega
    · have := membersLength h
      simp at *
      omega
    · have := elementsLength h
      simp at *
      omega
    · simp at h
    · simp at h

end Layout

end GrantKeeper.Json
