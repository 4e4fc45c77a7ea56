import GrantKeeper.Proofs.Json.Member
import GrantKeeper.Proofs.Json.Written

/-! Readers of lists and of records, item by item: a list is read back from its document, and what
every field keeps is so for each record that can be read. -/
namespace GrantKeeper.Json

def Reader.Gives {α : Type} (r : Reader α) (P : α → Prop) : Prop :=
  ∀ s a rest, r.read s = .ok (a,rest) → P a

def Reader.Takes {α : Type} (r : Reader α) (d : Document) (a : α) : Prop :=
  ∀ rest, r.read (d.lexemes ++ rest) = .ok (a,rest)

namespace Reader
variable {α β : Type} {r : Reader α} {P : α → Prop}

theorem Gives.map {f : α → β} {Q : β → Prop} (gives : r.Gives P) (keeps : ∀ a, P a → Q (f a)) :
    (r.map f).Gives Q := by
  intro s b rest read
  simp only [Reader.map] at read
  cases first : r.read s with
  | error fault =>
    rw [first] at read
    cases read
  | ok p =>
    rw [first] at read
    cases read
    exact keeps p.1 (gives s p.1 p.2 first)

theorem givesAny (r : Reader α) : r.Gives fun _ => True := fun _ _ _ _ => trivial

theorem Gives.moreItems (gives : r.Gives P) {items all : List α} {s rest : List Lexeme}
    (before : ∀ a ∈ items, P a) (read : moreItems r items s = .ok (all,rest)) : ∀ a ∈ all, P a := by
  fun_induction Reader.moreItems r items s with
  | case1 items rest =>
    cases read
    exact before
  | case2 => cases read
  | case3 items s a left taken ih =>
    refine ih ?_ read
    intro b member
    rcases List.mem_append.mp member with old | new
    · exact before b old
    · rw [List.mem_singleton.mp new]
      exact gives s a left taken
  | case4 => cases read
  | case5 => cases read

theorem Gives.list (gives : r.Gives P) : (Reader.list r).Gives fun items => ∀ a ∈ items, P a := by
  intro s items rest read
  simp only [Reader.list] at read
  split at read
  · cases read
    simp
  · split at read
    · cases read
    · rename_i a left taken
      refine gives.moreItems ?_ read
      intro b member
      rw [List.mem_singleton.mp member]
      exact gives _ a left taken
  · cases read
  · cases read

theorem documentOpens (d : Document) : ∃ lexeme rest, d.lexemes = lexeme :: rest ∧ lexeme ≠ .closeList := by
  cases d with
  | list items => exact ⟨_,_,rfl,nofun⟩
  | object members => exact ⟨_,_,rfl,nofun⟩
  | _ => exact ⟨_,_,rfl,nofun⟩

theorem moreItemsWritten {document : α → Document} {more : List α}
    (takes : ∀ a ∈ more, r.Takes (document a) a) (items : List α) (rest : List Lexeme) :
    moreItems r items ((itemLexemes (more.map document)).flatMap (.comma :: ·) ++ .closeList :: rest) =
      .ok (items ++ more,rest) := by
  induction more generalizing items with
  | nil =>
    rw [List.append_nil]
    unfold moreItems
    rfl
  | cons a more ih =>
    have first := takes a List.mem_cons_self
      ((itemLexemes (more.map document)).flatMap (.comma :: ·) ++ .closeList :: rest)
    have later := ih (fun b member => takes b (List.mem_cons_of_mem a member)) (items ++ [a])
    simp only [List.map_cons,itemLexemes,List.flatMap_cons,List.cons_append,List.append_assoc]
    rw [moreItems]
    split
    · rename_i failed
      cases first.symm.trans failed
    · rename_i taken
      cases first.symm.trans taken
      rw [later]
      simp

theorem readOpened {lexeme : Lexeme} (other : lexeme ≠ .closeList) (s : List Lexeme) :
    (Reader.list r).read (.openList :: lexeme :: s) =
      match r.read (lexeme :: s) with
      | .error fault => .error fault
      | .ok (a,rest) => moreItems r [a] rest := by
  cases lexeme <;> first | rfl | contradiction

theorem listWritten {document : α → Document} {items : List α}
    (takes : ∀ a ∈ items, r.Takes (document a) a) :
    (Reader.list r).Takes (.list (items.map document)) items := by
  have commas : ∀ (part : List Lexeme) (parts : List (List Lexeme)),
      [Lexeme.comma].intercalate (part :: parts) = part ++ parts.flatMap (.comma :: ·) := by
    intro part parts
    induction parts generalizing part with
    | nil => simp
    | cons next parts ih => simp [List.intercalate_cons_cons,ih]
  intro rest
  cases items with
  | nil => rfl
  | cons a items =>
    obtain ⟨lexeme,tail,opens,other⟩ := documentOpens (document a)
    have first := takes a List.mem_cons_self
      ((itemLexemes (items.map document)).flatMap (.comma :: ·) ++ .closeList :: rest)
    have later := moreItemsWritten (fun b member => takes b (List.mem_cons_of_mem a member)) [a] rest
    have written : (Document.list ((a :: items).map document)).lexemes ++ rest =
        .openList :: ((document a).lexemes ++
          ((itemLexemes (items.map document)).flatMap (.comma :: ·) ++ .closeList :: rest)) := by
      simp [Document.lexemes,itemLexemes,commas]
    rw [opens] at first written
    rw [written,List.cons_append,readOpened other,← List.cons_append,first]
    exact later

end Reader

theorem Field.gives {σ α : Type} {P : σ → Prop} {Q : α → Prop} {name : String} {need : Need}
    {r : Reader α} {put : σ → α → σ} {draft : σ} (gives : r.Gives Q) (keeps : ∀ a, Q a → P (put draft a)) :
    ((Field.of name need r put).reader draft).Gives P := gives.map keeps

namespace Layout
variable {σ : Type} {layout : Layout σ} {P : σ → Prop}

structure Keeps (layout : Layout σ) (P : σ → Prop) : Prop where
  blank : P layout.blank
  field : ∀ field ∈ layout.fields, ∀ draft, P draft → (field.reader draft).Gives P

theorem finished {seen : List String} {draft a : σ} (read : layout.finish seen draft = .ok a) :
    a = draft := by
  unfold Layout.finish at read
  split at read
  · cases read
  · cases read
    rfl

theorem Keeps.member (keeps : layout.Keeps P) {seen : List String} {draft : σ} {s : List Lexeme}
    {p : Progress σ × List Lexeme} (before : P draft) (read : layout.member seen draft s = .ok p) :
    P p.1.2 := by
  unfold Layout.member at read
  split at read
  · unfold memberValue at read
    split at read
    · rename_i field known
      split at read
      · cases read
      · split at read
        · cases read
        · have inner := keeps.field field (List.mem_of_find?_eq_some known) draft before
          exact (inner.map (Q := fun q : Progress σ => P q.2) fun a here => here) _ p.1 p.2 read
    · split at read
      · cases read
      · split at read
        · cases read
        · cases read
          exact before
  all_goals cases read

theorem Keeps.members (keeps : layout.Keeps P) {seen : List String} {draft a : σ}
    {s rest : List Lexeme} (before : P draft) (read : layout.members seen draft s = .ok (a,rest)) :
    P a := by
  fun_induction Layout.members layout seen draft s with
  | case1 => cases read
  | case2 seen draft s seen' draft' left taken =>
    have here := keeps.member before taken
    cases ended : layout.finish seen' draft' with
    | error fault =>
      rw [ended] at read
      cases read
    | ok b =>
      rw [ended] at read
      cases read
      rw [finished ended]
      exact here
  | case3 seen draft s seen' draft' left taken ih => exact ih (keeps.member before taken) read
  | case4 => cases read
  | case5 => cases read

theorem Keeps.elements (keeps : layout.Keeps P) {index : Nat} {draft a : σ}
    {fields : List (Field σ)} {s rest : List Lexeme} (known : ∀ field ∈ fields, field ∈ layout.fields)
    (before : P draft) (read : layout.elements index draft fields s = .ok (a,rest)) : P a := by
  fun_induction Layout.elements layout index draft fields s with
  | case1 =>
    cases read
    exact before
  | case5 =>
    cases read
    exact before
  | case8 index draft field fields s opens s' comma draft' left taken ih =>
    have here := keeps.field field (known field List.mem_cons_self) draft before _ _ _ taken
    exact ih (fun other member => known other (List.mem_cons_of_mem field member)) here read
  | _ => cases read

theorem Keeps.gives (keeps : layout.Keeps P) : layout.reader.Gives P := by
  intro s a rest read
  simp only [Layout.reader] at read
  split at read
  · cases ended : layout.finish [] layout.blank with
    | error fault =>
      rw [ended] at read
      cases read
    | ok b =>
      rw [ended] at read
      cases read
      rw [finished ended]
      exact keeps.blank
  · exact keeps.members keeps.blank read
  · exact keeps.elements (fun _ member => member) keeps.blank read
  · cases read
  · cases read

end Layout

theorem decodeGives {α : Type} {r : Reader α} {P : α → Prop} (gives : r.Gives P) {octets : Text.Octets}
    {a : α} (read : decode r octets = .ok a) : P a := by
  unfold decode at read
  split at read
  · cases read
  · rename_i b rest taken
    split at read
    · cases read
      exact gives _ a rest taken
    · cases read

theorem decodeWritten {α : Type} {r : Reader α} {d : Document} {a : α} (fits : d.InWords)
    (takes : r.Takes d a) : decode r (Text.encode (d.pretty 0)) = .ok a := by
  have read := takes []
  rw [List.append_nil] at read
  unfold decode
  rw [lexPretty fits,read]
  rfl

end GrantKeeper.Json
