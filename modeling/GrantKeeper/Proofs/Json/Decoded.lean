import GrantKeeper.Proofs.Json.Object

/-! The texts that a record is decoded from: an object with its members or a list with its elements,
and the single lexemes of optional values. -/
namespace GrantKeeper.Json

def list : List (List Lexeme) → List Lexeme
  | [] => [.openList,.closeList]
  | value :: values => .openList :: (value ++ (values.flatMap (.comma :: ·) ++ [.closeList]))

theorem wholeOpens {value : List Lexeme} (whole : Whole value) :
    ∃ lexeme more, value = lexeme :: more ∧ lexeme ≠ .closeList := by
  cases value with
  | nil => cases whole []
  | cons lexeme more =>
    refine ⟨lexeme,more,rfl,?_⟩
    rintro rfl
    cases whole []

theorem elementsApart {values others : List (List Lexeme)} (whole : ∀ value ∈ values, Whole value)
    (wholes : ∀ value ∈ others, Whole value)
    (same : values.flatMap (.comma :: ·) ++ [Lexeme.closeList] = others.flatMap (.comma :: ·) ++ [.closeList]) :
    values = others := by
  induction values generalizing others with
  | nil =>
    cases others with
    | nil => rfl
    | cons other others => cases (List.cons.inj same).1
  | cons value values ih =>
    cases others with
    | nil => cases (List.cons.inj same).1
    | cons other others =>
      simp only [List.flatMap_cons,List.cons_append,List.append_assoc,List.cons.injEq,true_and] at same
      obtain ⟨rfl,later⟩ := wholeApart (whole value List.mem_cons_self) (wholes other List.mem_cons_self) same
      rw [ih (fun v member => whole v (List.mem_cons_of_mem _ member))
        (fun v member => wholes v (List.mem_cons_of_mem _ member)) later]

structure Lists (octets : Text.Octets) (values : List (List Lexeme)) : Prop where
  lexemes : lex octets = list values
  whole : ∀ value ∈ values, Whole value

theorem Lists.unique {octets : Text.Octets} {values others : List (List Lexeme)} (lists : Lists octets values)
    (again : Lists octets others) : values = others := by
  have same := lists.lexemes.symm.trans again.lexemes
  cases values with
  | nil =>
    cases others with
    | nil => rfl
    | cons other others =>
      obtain ⟨lexeme,more,rfl,closes⟩ := wholeOpens (again.whole other List.mem_cons_self)
      exact absurd (List.cons.inj (List.cons.inj same).2).1.symm closes
  | cons value values =>
    cases others with
    | nil =>
      obtain ⟨lexeme,more,rfl,closes⟩ := wholeOpens (lists.whole value List.mem_cons_self)
      exact absurd (List.cons.inj (List.cons.inj same).2).1 closes
    | cons other others =>
      refine elementsApart lists.whole again.whole ?_
      simp only [List.flatMap_cons,List.cons_append,List.append_assoc]
      exact congrArg (Lexeme.comma :: ·) (List.cons.inj same).2

theorem Field.exact {σ α : Type} {r : Reader α} (exact : r.Exact) {name : String} {need : Need}
    {put : σ → α → σ} {draft : σ} : ((Field.of name need r put).reader draft).Exact := exact.map (put draft)

namespace Layout
variable {σ α : Type} {layout : Layout σ} {draft a : σ} {fields : List (Field σ)}
  {values : List (List Lexeme)} {octets : Text.Octets}

inductive Fills : σ → List (Field σ) → List (List Lexeme) → σ → Prop
  | none (draft : σ) : Fills draft [] [] draft
  | next {draft next last : σ} {field fields value values}
      (reads : ∀ rest, (field.reader draft).read (value ++ rest) = .ok (next,rest))
      (later : Fills next fields values last) : Fills draft (field :: fields) (value :: values) last

theorem unneeded {index : Nat} : firstNeeded index fields = none ↔ ∀ field ∈ fields, field.need = .never := by
  induction fields generalizing index with
  | nil => simp [firstNeeded]
  | cons field fields ih =>
    rw [firstNeeded,List.forall_mem_cons]
    split
    · rename_i never
      rw [ih,and_iff_right (beq_iff_eq.mp never)]
    · rename_i needed
      exact iff_of_false nofun fun each => needed (beq_iff_eq.mpr each.1)

theorem elementsFill (exact : ∀ field ∈ fields, ∀ draft, (field.reader draft).Exact) {index : Nat}
    {s rest : List Lexeme} (read : layout.elements index draft fields s = .ok (a,rest)) :
    ∃ values early late, fields = early ++ late ∧ (∀ field ∈ late, field.need = .never) ∧
      Fills draft early values a ∧ (0 < index → s = values.flatMap (.comma :: ·) ++ .closeList :: rest) ∧
      (index = 0 → .openList :: s = list values ++ rest) := by
  fun_induction Layout.elements layout index draft fields s with
  | case1 index draft s =>
    cases read
    exact ⟨[],[],[],rfl,List.forall_mem_nil _,.none _,fun _ => rfl,fun _ => rfl⟩
  | case2 => cases read
  | case3 => cases read
  | case4 => cases read
  | case5 index draft field fields s none =>
    cases read
    exact ⟨[],[],field :: fields,rfl,unneeded.mp none,.none _,fun _ => rfl,fun _ => rfl⟩
  | case6 => cases read
  | case7 => cases read
  | case8 index draft field fields s before s' comma draft' left taken ih =>
    obtain ⟨value,same,-,reads⟩ := exact field List.mem_cons_self draft _ _ _ taken
    obtain ⟨values,early,late,split,never,later,behind,-⟩ :=
      ih (fun f member => exact f (List.mem_cons_of_mem _ member)) read
    have behind := behind (Nat.succ_pos index)
    refine ⟨value :: values,field :: early,late,by rw [split]; rfl,never,.next reads later,?_,?_⟩
    · intro later
      obtain ⟨rest,rfl⟩ : ∃ rest, s = .comma :: rest := by
        simp only [takeComma,if_neg (Nat.ne_of_gt later)] at comma
        split at comma
        · exact ⟨_,rfl⟩
        · cases comma
        · cases comma
      simp only [takeComma,if_neg (Nat.ne_of_gt later),Except.ok.injEq] at comma
      rw [comma,same,behind]
      simp
    · intro first
      simp only [takeComma,if_pos first,Except.ok.injEq] at comma
      rw [comma,same,behind]
      simp [list]

theorem elementsEnd {late : List (Field σ)} (never : ∀ field ∈ late, field.need = .never) (index : Nat)
    (draft : σ) (rest : List Lexeme) :
    layout.elements index draft late (.closeList :: rest) = .ok (draft,rest) := by
  cases late with
  | nil => rfl
  | cons field late => simp only [elements,unneeded.mpr never]

theorem fillsElements {early late : List (Field σ)} (fills : Fills draft early values a)
    (never : ∀ field ∈ late, field.need = .never) (index : Nat) (rest : List Lexeme) :
    layout.elements (index + 1) draft (early ++ late) (values.flatMap (.comma :: ·) ++ .closeList :: rest) =
      .ok (a,rest) := by
  induction fills generalizing index with
  | none draft => exact elementsEnd never (index + 1) draft rest
  | @next draft _ last field fields value values reads later ih =>
    simp only [List.flatMap_cons,List.cons_append,List.append_assoc,elements,takeComma,
      if_neg (Nat.succ_ne_zero index),reads]
    exact ih (index + 1)

theorem elementsOpened {lexeme : Lexeme} (other : lexeme ≠ .closeList) {field : Field σ} (s : List Lexeme) :
    layout.elements 0 draft (field :: fields) (lexeme :: s) =
      match (field.reader draft).read (lexeme :: s) with
      | .error fault => .error fault
      | .ok (draft,rest) => layout.elements 1 draft fields rest := by
  cases lexeme <;> first | rfl | contradiction

theorem listRead (exact : layout.Exact) {early late : List (Field σ)} (split : layout.fields = early ++ late)
    (never : ∀ field ∈ late, field.need = .never) (fills : Fills layout.blank early values a)
    (rest : List Lexeme) : layout.reader.read (list values ++ rest) = .ok (a,rest) := by
  have read : layout.reader.read (list values ++ rest) =
      layout.elements 0 layout.blank layout.fields (list values ++ rest).tail := by
    cases values <;> rfl
  rw [read]
  unfold Exact at exact
  rw [split] at exact ⊢
  cases fills with
  | none => exact elementsEnd never 0 _ rest
  | @next _ _ _ field fields value values reads later =>
    obtain ⟨part,same,whole,-⟩ := exact field (List.mem_append_left _ List.mem_cons_self) layout.blank _ _ _ (reads [])
    have same : value = part := List.append_cancel_right same
    obtain ⟨lexeme,more,opens,other⟩ := wholeOpens (same ▸ whole)
    have first := reads (values.flatMap (.comma :: ·) ++ .closeList :: rest)
    subst opens
    rw [List.cons_append] at first
    simp only [list,List.cons_append,List.append_assoc,List.nil_append,List.tail_cons]
    rw [elementsOpened other,first]
    exact fillsElements later never 0 rest

theorem decodedObject (exact : layout.Exact) {entries : List Entry} (holds : Holds octets entries) :
    decode layout.reader octets = .ok a ↔
      ∃ seen, layout.Builds ([],layout.blank) entries (seen,a) ∧ layout.finish seen a = .ok a := by
  constructor
  · intro decoded
    simp only [decode] at decoded
    split at decoded
    · cases decoded
    · rename_i b rest read
      split at decoded
      · rename_i nothing
        cases decoded
        obtain rfl := List.isEmpty_iff.mp nothing
        obtain ⟨s,opens⟩ : ∃ s, lex octets = .openObject :: s := by
          rw [holds.lexemes]
          cases entries <;> exact ⟨_,rfl⟩
        rw [opens] at read
        obtain ⟨others,seen,same,whole,builds,ended⟩ := objectBuilt exact read
        rw [List.append_nil,← opens] at same
        obtain rfl := holds.unique ⟨same,whole⟩
        exact ⟨seen,builds,ended⟩
      · cases decoded
  · rintro ⟨seen,builds,ended⟩
    have read := objectRead builds ended []
    rw [List.append_nil] at read
    simp only [decode,holds.lexemes,read]
    rfl

theorem decodedElements (exact : layout.Exact) {s : List Lexeme} (opens : lex octets = .openList :: s) :
    decode layout.reader octets = .ok a ↔ ∃ values early late, lex octets = list values ∧
      layout.fields = early ++ late ∧ (∀ field ∈ late, field.need = .never) ∧
      Fills layout.blank early values a := by
  constructor
  · intro decoded
    simp only [decode,opens] at decoded
    split at decoded
    · cases decoded
    · rename_i b rest read
      split at decoded
      · rename_i nothing
        cases decoded
        obtain rfl := List.isEmpty_iff.mp nothing
        obtain ⟨values,early,late,split,never,fills,-,same⟩ := elementsFill exact read
        rw [same rfl,List.append_nil] at opens
        exact ⟨values,early,late,opens,split,never,fills⟩
      · cases decoded
  · rintro ⟨values,early,late,same,split,never,fills⟩
    have read := listRead exact split never fills []
    rw [List.append_nil] at read
    simp only [decode,same,read]
    rfl

theorem decodedList (exact : layout.Exact) (needed : ∀ field ∈ layout.fields, field.need ≠ .never)
    {s : List Lexeme} (opens : lex octets = .openList :: s) :
    decode layout.reader octets = .ok a ↔
      ∃ values, lex octets = list values ∧ Fills layout.blank layout.fields values a := by
  rw [decodedElements exact opens]
  constructor
  · rintro ⟨values,early,late,same,split,never,fills⟩
    cases late with
    | nil =>
      rw [List.append_nil] at split
      exact ⟨values,same,split ▸ fills⟩
    | cons field late =>
      have member : field ∈ layout.fields := by simp [split]
      exact absurd (never field List.mem_cons_self) (needed field member)
  · rintro ⟨values,same,fills⟩
    exact ⟨values,layout.fields,[],same,(List.append_nil _).symm,nofun,fills⟩

theorem decodedShape (exact : layout.Exact) (decoded : decode layout.reader octets = .ok a) :
    (∃ entries, Holds octets entries) ∨ ∃ s, lex octets = .openList :: s := by
  simp only [decode] at decoded
  split at decoded
  · cases decoded
  · rename_i b rest read
    split at decoded
    · rename_i nothing
      obtain rfl := List.isEmpty_iff.mp nothing
      generalize lexemes : lex octets = s at read ⊢
      cases s with
      | nil => cases read
      | cons lexeme s =>
        by_cases object : lexeme = .openObject
        · subst object
          obtain ⟨entries,seen,same,whole,-⟩ := objectBuilt exact read
          exact .inl ⟨entries,by rw [lexemes,same,List.append_nil],whole⟩
        · right
          cases lexeme <;> first | exact ⟨s,rfl⟩ | contradiction
    · cases decoded

end Layout

structure Mentions {α : Type} (entries : List Entry) (name : String) (shown : α → Lexeme) (v : Option α) :
    Prop where
  once : entries.countP (·.1 = name) ≤ 1
  each : ∀ value, (name,value) ∈ entries → value = [v.elim .null shown]
  absent : (∀ value, (name,value) ∉ entries) → v = none

def Lexeme.ofText (s : String) : Lexeme := .text (some s)

def Lexeme.ofInteger (n : Int) : Lexeme := .number (some (.integer n))

def Reader.Shows {α : Type} (r : Reader α) (shown : α → Lexeme) (valid : α → Prop) : Prop :=
  ∀ value v, (∀ rest, (optional r).read (value ++ rest) = .ok (v,rest)) ↔
    value = [v.elim .null shown] ∧ ∀ a, v = some a → valid a

theorem Layout.toldMentions {α : Type} {r : Reader α} {shown : α → Lexeme} {valid : α → Prop}
    (shows : r.Shows shown valid) {entries : List Entry} {name : String} {v : Option α} :
    Layout.Told entries name (.optional r) none v ↔
      Mentions entries name shown v ∧ ∀ a, v = some a → valid a := by
  constructor
  · intro told
    refine ⟨⟨told.once,fun value member => ((shows value v).mp (told.read value member)).1,told.absent⟩,?_⟩
    by_cases absent : ∀ value, (name,value) ∉ entries
    · rw [told.absent absent]
      intro a none
      cases none
    · obtain ⟨value,member⟩ := not_forall_not.mp absent
      exact ((shows value v).mp (told.read value member)).2
  · rintro ⟨mentions,holds⟩
    exact ⟨mentions.once,fun value member => (shows value v).mpr ⟨mentions.each value member,holds⟩,
      mentions.absent⟩

theorem Reader.showsSingle {α : Type} {take : Lexeme → Except Fault α} {shown : α → Lexeme} {valid : α → Prop}
    (filled : ∀ a, shown a ≠ .null) (takes : ∀ lexeme a, take lexeme = .ok a ↔ lexeme = shown a ∧ valid a) :
    (single take).Shows shown valid := by
  have one : ∀ lexeme more a rest, (single take).read (lexeme :: more) = .ok (a,rest) ↔
      more = rest ∧ lexeme = shown a ∧ valid a := by
    intro lexeme more a rest
    rw [← takes]
    simp only [single]
    cases take lexeme <;> simp [Except.map,and_comm]
  intro value v
  constructor
  · intro read
    have once := read []
    rw [List.append_nil] at once
    cases value with
    | nil => cases once
    | cons lexeme more =>
      by_cases null : lexeme = .null
      · subst null
        cases once
        exact ⟨rfl,fun a none => by cases none⟩
      · rw [optionalFilled null] at once
        simp only [Reader.map] at once
        cases first : (single take).read (lexeme :: more) with
        | error fault =>
          rw [first] at once
          cases once
        | ok taken =>
          rw [first] at once
          obtain ⟨rfl,left⟩ := Prod.mk.inj (Except.ok.inj once)
          obtain ⟨same,rfl,holds⟩ := (one _ _ taken.1 taken.2).mp first
          rw [same,left]
          exact ⟨rfl,fun a same => Option.some.inj same ▸ holds⟩
  · rintro ⟨rfl,holds⟩ rest
    cases v with
    | none => rfl
    | some a =>
      have first := (one (shown a) rest a rest).mpr ⟨rfl,rfl,holds a rfl⟩
      refine (optionalFilled (filled a) rest).trans ?_
      simp only [Reader.map,first]
      rfl

theorem Reader.Shows.field {σ α : Type} {r : Reader α} {shown : α → Lexeme} {valid : α → Prop}
    (shows : r.Shows shown valid) (exact : r.Exact) {name : String} {need : Need} {put : σ → Option α → σ}
    {draft next : σ} {value : List Lexeme} :
    (∀ rest, ((Field.of name need (.optional r) put).reader draft).read (value ++ rest) = .ok (next,rest)) ↔
      ∃ v, value = [v.elim .null shown] ∧ (∀ a, v = some a → valid a) ∧ next = put draft v := by
  simp only [Field.of,Reader.map]
  constructor
  · intro reads
    have once := reads []
    cases first : (Reader.optional r).read (value ++ []) with
    | error fault =>
      rw [first] at once
      cases once
    | ok taken =>
      obtain ⟨v,rest⟩ := taken
      rw [first] at once
      obtain ⟨rfl,rfl⟩ := Prod.mk.inj (Except.ok.inj once)
      obtain ⟨part,same,-,each⟩ := exact.optional _ _ _ first
      obtain rfl := List.append_cancel_right same
      obtain ⟨one,holds⟩ := (shows value v).mp each
      exact ⟨v,one,holds,rfl⟩
  · rintro ⟨v,one,holds,rfl⟩ rest
    rw [(shows value v).mpr ⟨one,holds⟩ rest]
    rfl

theorem Layout.fillsShown {σ α : Type} {r : Reader α} {shown : α → Lexeme} {valid : α → Prop}
    (shows : r.Shows shown valid) (exact : r.Exact) {name : String} {need : Need} {put : σ → Option α → σ}
    {draft last : σ} {fields : List (Field σ)} {values : List (List Lexeme)} :
    Fills draft (.of name need (.optional r) put :: fields) values last ↔
      ∃ v more, values = [v.elim .null shown] :: more ∧ (∀ a, v = some a → valid a) ∧
        Fills (put draft v) fields more last := by
  constructor
  · intro fills
    cases fills with
    | next reads later =>
      obtain ⟨v,rfl,holds,rfl⟩ := (shows.field exact).mp reads
      exact ⟨v,_,rfl,holds,later⟩
  · rintro ⟨v,more,rfl,holds,later⟩
    exact .next ((shows.field exact).mpr ⟨v,rfl,holds,rfl⟩) later

theorem Reader.textShows : text.Shows .ofText fun _ => True := by
  refine showsSingle (fun _ same => by cases same) ?_
  intro lexeme s
  constructor
  · intro taken
    split at taken
    · cases taken
      exact ⟨rfl,trivial⟩
    · cases taken
  · rintro ⟨rfl,-⟩
    rfl

theorem Reader.readsText {value : List Lexeme} {s : String} :
    (∀ rest, text.read (value ++ rest) = .ok (s,rest)) ↔ value = [.ofText s] := by
  constructor
  · intro reads
    have once := reads []
    rw [List.append_nil] at once
    cases value with
    | nil => cases once
    | cons lexeme more =>
      cases lexeme with
      | text content =>
        cases content with
        | none => cases once
        | some t =>
          cases once
          rfl
      | _ => cases once
  · rintro rfl rest
    rfl

theorem Layout.toldText {entries : List Entry} {name s : String} :
    Layout.Told entries name .text "" s ↔
      ∃ v, Mentions entries name .ofText v ∧ (name,[.null]) ∉ entries ∧ s = v.getD "" := by
  constructor
  · intro told
    have each := fun value member => Reader.readsText.mp (told.read value member)
    have unnulled : (name,[.null]) ∉ entries := fun member => by cases each _ member
    by_cases absent : ∀ value, (name,value) ∉ entries
    · exact ⟨none,⟨told.once,fun value member => absurd member (absent value),fun _ => rfl⟩,unnulled,
        told.absent absent⟩
    · exact ⟨some s,⟨told.once,each,fun none => absurd none absent⟩,unnulled,rfl⟩
  · rintro ⟨v,mentions,unnulled,rfl⟩
    refine ⟨mentions.once,?_,fun absent => by rw [mentions.absent absent]; rfl⟩
    intro value member
    have shown := mentions.each value member
    cases v with
    | none => exact absurd (shown ▸ member) unnulled
    | some s => exact Reader.readsText.mpr shown

theorem Reader.wordShows : word.Shows .ofInteger fun n => Text.inWord n = true := by
  refine showsSingle (fun _ same => by cases same) ?_
  intro lexeme n
  constructor
  · intro taken
    split at taken
    · split at taken
      · cases taken
        exact ⟨rfl,‹_›⟩
      · cases taken
    · cases taken
  · rintro ⟨rfl,holds⟩
    simp only [Lexeme.ofInteger,holds,if_true]

end GrantKeeper.Json
