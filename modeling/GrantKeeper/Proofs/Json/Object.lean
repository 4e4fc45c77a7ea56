import GrantKeeper.Proofs.Json.Listed

/-! The members of an object as its text has them: names, each with the lexemes of its value. A record
is read from them one by one, in whatever order they come and whatever else is between them. -/
namespace GrantKeeper.Json

def Whole (value : List Lexeme) : Prop := ∀ rest, skim .skipped [] .value (value ++ rest) = .ok rest

theorem skimWhole {care : Care} {brackets : List Bracket} {expecting : Expecting} {s rest : List Lexeme}
    (past : skim care brackets expecting s = .ok rest) :
    ∃ value, s = value ++ rest ∧ ∀ more, skim care brackets expecting (value ++ more) = .ok more := by
  induction s generalizing brackets expecting with
  | nil => cases past
  | cons lexeme s ih =>
    simp only [skim] at past
    split at past
    · cases past
    · rename_i ended
      cases past
      exact ⟨[lexeme],rfl,fun more => by simp only [List.singleton_append,skim,ended]⟩
    · rename_i inner wanted goesOn went
      obtain ⟨value,rfl,whole⟩ := ih past
      refine ⟨lexeme :: value,rfl,fun more => ?_⟩
      simp only [List.cons_append,skim,went]
      exact whole more

theorem wholeApart {value other rest more : List Lexeme} (whole : Whole value) (others : Whole other)
    (same : value ++ rest = other ++ more) : value = other ∧ rest = more := by
  have past := whole rest
  rw [same,others more] at past
  cases past
  exact ⟨List.append_cancel_right same,rfl⟩

abbrev Entry := String × List Lexeme

def following : List Entry → List Lexeme
  | [] => [.closeObject]
  | (name,value) :: entries => .comma :: .text (some name) :: .colon :: (value ++ following entries)

theorem followingEntry (entry : Entry) (entries : List Entry) (rest : List Lexeme) :
    following (entry :: entries) ++ rest =
      .comma :: .text (some entry.1) :: .colon :: (entry.2 ++ (following entries ++ rest)) := by
  simp [following]

def object : List Entry → List Lexeme
  | [] => [.openObject,.closeObject]
  | (name,value) :: entries => .openObject :: .text (some name) :: .colon :: (value ++ following entries)

theorem followingApart {entries others : List Entry} (whole : ∀ entry ∈ entries, Whole entry.2)
    (wholes : ∀ entry ∈ others, Whole entry.2) {rest more : List Lexeme}
    (same : following entries ++ rest = following others ++ more) : entries = others ∧ rest = more := by
  induction entries generalizing others with
  | nil =>
    cases others with
    | nil => exact ⟨rfl,(List.cons.inj same).2⟩
    | cons other others => cases (List.cons.inj same).1
  | cons entry entries ih =>
    cases others with
    | nil => cases (List.cons.inj same).1
    | cons other others =>
      simp only [following,List.cons_append,List.append_assoc,List.cons.injEq,Lexeme.text.injEq,
        Option.some.injEq,true_and] at same
      obtain ⟨name,same⟩ := same
      obtain ⟨value,later⟩ := wholeApart (whole entry (by simp)) (wholes other (by simp)) same
      obtain ⟨rfl,rest⟩ := ih (fun e member => whole e (by simp [member]))
        (fun e member => wholes e (by simp [member])) later
      exact ⟨by rw [Prod.ext name value],rest⟩

theorem objectApart {entries others : List Entry} (whole : ∀ entry ∈ entries, Whole entry.2)
    (wholes : ∀ entry ∈ others, Whole entry.2) (same : object entries = object others) :
    entries = others := by
  have leads : ∀ entry entries, object (entry :: entries) = .openObject :: (following (entry :: entries)).tail :=
    fun _ _ => rfl
  cases entries with
  | nil => cases others with
    | nil => rfl
    | cons other others => cases (List.cons.inj (List.cons.inj same).2).1
  | cons entry entries => cases others with
    | nil => cases (List.cons.inj (List.cons.inj same).2).1
    | cons other others =>
      rw [leads,leads] at same
      have behind : following (entry :: entries) = following (other :: others) :=
        congrArg (Lexeme.comma :: ·) (List.cons.inj same).2
      exact (followingApart whole wholes (congrArg (· ++ []) behind)).1

def Reader.Exact {α : Type} (r : Reader α) : Prop :=
  ∀ s a rest, r.read s = .ok (a,rest) →
    ∃ value, s = value ++ rest ∧ Whole value ∧ ∀ more, r.read (value ++ more) = .ok (a,more)

namespace Reader
variable {α β : Type} {r : Reader α}

theorem exactSingle {take : Lexeme → Except Fault α} (whole : ∀ lexeme a, take lexeme = .ok a → Whole [lexeme]) :
    (single take).Exact := by
  intro s a rest read
  cases s with
  | nil => cases read
  | cons lexeme s =>
    simp only [single] at read
    cases taken : take lexeme with
    | error fault =>
      rw [taken] at read
      cases read
    | ok b =>
      rw [taken] at read
      cases read
      refine ⟨[lexeme],rfl,whole lexeme _ taken,fun more => ?_⟩
      simp only [List.singleton_append,single,taken]
      rfl

theorem exactText : text.Exact := by
  refine exactSingle ?_
  intro lexeme s taken
  split at taken
  · exact fun _ => rfl
  · cases taken

theorem exactWord : word.Exact := by
  refine exactSingle ?_
  intro lexeme n taken
  split at taken
  · exact fun _ => rfl
  · cases taken

theorem Exact.map (exact : r.Exact) (f : α → β) : (r.map f).Exact := by
  intro s b rest read
  simp only [Reader.map] at read
  cases first : r.read s with
  | error fault =>
    rw [first] at read
    cases read
  | ok p =>
    rw [first] at read
    cases read
    obtain ⟨value,same,whole,reads⟩ := exact _ _ _ first
    refine ⟨value,same,whole,fun more => ?_⟩
    simp only [Reader.map,reads]
    rfl

theorem optionalFilled {lexeme : Lexeme} (filled : lexeme ≠ .null) (s : List Lexeme) :
    (optional r).read (lexeme :: s) = (r.map some).read (lexeme :: s) := by
  cases lexeme <;> first | rfl | contradiction

theorem Exact.optional (exact : r.Exact) : (optional r).Exact := by
  intro s a rest read
  cases s with
  | nil => exact absurd ((Reader.optional r).consumes read) (by simp)
  | cons lexeme s =>
    by_cases filled : lexeme = .null
    · subst filled
      cases read
      exact ⟨[.null],rfl,fun _ => rfl,fun _ => rfl⟩
    · rw [optionalFilled filled] at read
      have shorter := (r.map some).consumes read
      obtain ⟨value,same,whole,reads⟩ := exact.map some _ _ _ read
      cases value with
      | nil =>
        rw [same] at shorter
        exact absurd shorter (by simp)
      | cons first value =>
        cases (List.cons.inj same).1
        refine ⟨lexeme :: value,same,whole,fun more => ?_⟩
        rw [List.cons_append,optionalFilled filled]
        exact reads more

end Reader

namespace Layout
variable {σ α β : Type} {layout : Layout σ} {p q : Progress σ} {entries : List Entry} {name : String}
  {value : List Lexeme} {field : Field σ}

def Exact (layout : Layout σ) : Prop := ∀ field ∈ layout.fields, ∀ draft, (field.reader draft).Exact

def Sets (layout : Layout σ) (p : Progress σ) (entry : Entry) (q : Progress σ) : Prop :=
  ∀ rest, layout.member p.1 p.2 (.text (some entry.1) :: .colon :: (entry.2 ++ rest)) = .ok (q,rest)

inductive Builds (layout : Layout σ) : Progress σ → List Entry → Progress σ → Prop
  | none (p : Progress σ) : Builds layout p [] p
  | next {p q r entry entries} (sets : layout.Sets p entry q) (later : Builds layout q entries r) :
      Builds layout p (entry :: entries) r

theorem setsKnown (known : layout.field? name = some field) (sets : layout.Sets p (name,value) q) :
    p.1.contains name = false ∧ q.1 = name :: p.1 ∧
    ∀ rest, (field.reader p.2).read (value ++ rest) = .ok (q.2,rest) := by
  simp only [Sets,member,memberValue,known,takeColon] at sets
  cases fresh : p.1.contains name with
  | true =>
    simp only [fresh,if_true] at sets
    cases sets []
  | false =>
    simp only [fresh,Bool.false_eq_true,if_false,Reader.map] at sets
    have each : ∀ rest, q.1 = name :: p.1 ∧ (field.reader p.2).read (value ++ rest) = .ok (q.2,rest) := by
      intro rest
      have read := sets rest
      cases first : (field.reader p.2).read (value ++ rest) with
      | error fault =>
        rw [first] at read
        cases read
      | ok taken =>
        rw [first] at read
        cases read
        exact ⟨rfl,rfl⟩
    exact ⟨rfl,(each []).1,fun rest => (each rest).2⟩

theorem setsUnknown (unknown : layout.field? name = none) (sets : layout.Sets p (name,value) q) : q = p := by
  have read := sets []
  simp only [member,memberValue,unknown,takeColon] at read
  split at read
  · cases read
  · cases read
    rfl

theorem setKnown (known : layout.field? name = some field) (fresh : p.1.contains name = false) {draft : σ}
    (reads : ∀ rest, (field.reader p.2).read (value ++ rest) = .ok (draft,rest)) :
    layout.Sets p (name,value) (name :: p.1,draft) := by
  intro rest
  simp only [member,memberValue,known,fresh,takeColon,Reader.map,reads,Bool.false_eq_true,if_false]
  rfl

theorem setUnknown (unknown : layout.field? name = none) (whole : Whole value) :
    layout.Sets p (name,value) p := by
  intro rest
  simp only [member,memberValue,unknown,takeColon,whole rest]

theorem colonThere {s rest : List Lexeme} (taken : takeColon s = .ok rest) : s = .colon :: rest := by
  unfold takeColon at taken
  split at taken
  · cases taken
    rfl
  · cases taken
  · cases taken

theorem memberEntry (exact : layout.Exact) {s rest : List Lexeme}
    (read : layout.member p.1 p.2 s = .ok (q,rest)) :
    ∃ name value, s = .text (some name) :: .colon :: (value ++ rest) ∧ Whole value ∧
      layout.Sets p (name,value) q := by
  unfold member at read
  split at read
  · rename_i name s
    unfold memberValue at read
    split at read
    · rename_i field known
      split at read
      · cases read
      · rename_i fresh
        split at read
        · cases read
        · rename_i s' colon
          have inner := exact field (List.mem_of_find?_eq_some known) p.2
          cases first : (field.reader p.2).read s' with
          | error fault =>
            simp only [Reader.map,first] at read
            cases read
          | ok taken =>
            simp only [Reader.map,first] at read
            cases read
            obtain ⟨value,same,whole,reads⟩ := inner _ _ _ first
            refine ⟨name,value,?_,whole,setKnown known (by simpa using fresh) reads⟩
            rw [colonThere colon,same]
    · rename_i unknown
      split at read
      · cases read
      · rename_i s' colon
        split at read
        · cases read
        · rename_i rest' past
          cases read
          obtain ⟨value,same,whole⟩ := skimWhole past
          refine ⟨name,value,?_,whole,setUnknown unknown whole⟩
          rw [colonThere colon,same]
  all_goals cases read

theorem membersBuilt (exact : layout.Exact) {s rest : List Lexeme} {a : σ}
    (read : layout.members p.1 p.2 s = .ok (a,rest)) :
    ∃ entry entries seen, .comma :: s = following (entry :: entries) ++ rest ∧
      (∀ e ∈ entry :: entries, Whole e.2) ∧ layout.Builds p (entry :: entries) (seen,a) ∧
      layout.finish seen a = .ok a := by
  obtain ⟨before,draft⟩ := p
  fun_induction Layout.members layout before draft s with
  | case1 => cases read
  | case2 before draft s seen draft' left taken =>
    obtain ⟨name,value,rfl,whole,sets⟩ := memberEntry (p := (before,draft)) exact taken
    cases ended : layout.finish seen draft' with
    | error fault =>
      rw [ended] at read
      cases read
    | ok b =>
      rw [ended] at read
      cases read
      cases finished ended
      refine ⟨(name,value),[],seen,by simp [following],by simpa using whole,?_,ended⟩
      exact .next sets (.none _)
  | case3 before draft s seen draft' left taken ih =>
    obtain ⟨name,value,rfl,whole,sets⟩ := memberEntry (p := (before,draft)) exact taken
    obtain ⟨entry,entries,last,later,wholes,builds,ended⟩ := ih read
    refine ⟨(name,value),entry :: entries,last,?_,?_,.next sets builds,ended⟩
    · rw [later]
      simp [following]
    · intro e member
      rcases List.mem_cons.mp member with rfl | more
      · exact whole
      · exact wholes e more
  | case4 => cases read
  | case5 => cases read

theorem membersOf {entry : Entry} {seen : List String} {a b : σ}
    (builds : layout.Builds p (entry :: entries) (seen,a)) (ended : layout.finish seen a = .ok b)
    (rest : List Lexeme) :
    layout.members p.1 p.2 (.text (some entry.1) :: .colon :: (entry.2 ++ (following entries ++ rest))) =
      .ok (b,rest) := by
  induction entries generalizing p entry with
  | nil =>
    cases builds with
    | next sets later =>
      cases later
      refine (membersEnd (sets (.closeObject :: rest))).trans ?_
      rw [ended]
      rfl
  | cons next entries ih =>
    cases builds with
    | next sets later =>
      have read := sets (following (next :: entries) ++ rest)
      rw [followingEntry] at read ⊢
      exact (membersGoOn read).trans (ih later)

theorem readMembers {s : List Lexeme} (filled : s.head? ≠ some .closeObject) :
    layout.reader.read (.openObject :: s) = layout.members [] layout.blank s := by
  cases s with
  | nil => rfl
  | cons lexeme s => cases lexeme <;> first | rfl | exact absurd rfl filled

theorem objectBuilt (exact : layout.Exact) {s rest : List Lexeme} {a : σ}
    (read : layout.reader.read (.openObject :: s) = .ok (a,rest)) :
    ∃ entries seen, .openObject :: s = object entries ++ rest ∧ (∀ e ∈ entries, Whole e.2) ∧
      layout.Builds ([],layout.blank) entries (seen,a) ∧ layout.finish seen a = .ok a := by
  by_cases empty : s.head? = some .closeObject
  · obtain ⟨s,rfl⟩ := List.head?_eq_some_iff.mp empty
    simp only [reader] at read
    cases ended : layout.finish [] layout.blank with
    | error fault =>
      rw [ended] at read
      cases read
    | ok b =>
      rw [ended] at read
      cases read
      cases finished ended
      exact ⟨[],[],rfl,by simp,.none _,ended⟩
  · rw [readMembers empty] at read
    obtain ⟨entry,entries,seen,same,whole,builds,ended⟩ := membersBuilt (p := ([],layout.blank)) exact read
    refine ⟨entry :: entries,seen,?_,whole,builds,ended⟩
    exact congrArg (Lexeme.openObject :: ·) (List.cons.inj same).2

theorem objectRead {seen : List String} {a b : σ} (builds : layout.Builds ([],layout.blank) entries (seen,a))
    (ended : layout.finish seen a = .ok b) (rest : List Lexeme) :
    layout.reader.read (object entries ++ rest) = .ok (b,rest) := by
  cases entries with
  | nil =>
    cases builds
    simp only [object,List.cons_append,List.nil_append,reader,ended]
    rfl
  | cons entry entries =>
    have read := membersOf builds ended rest
    rw [← List.append_assoc] at read
    exact read

structure Told (entries : List Entry) (name : String) (r : Reader α) (otherwise a : α) : Prop where
  once : entries.countP (·.1 = name) ≤ 1
  read : ∀ value, (name,value) ∈ entries → ∀ rest, r.read (value ++ rest) = .ok (a,rest)
  absent : (∀ value, (name,value) ∉ entries) → a = otherwise

section
variable {π : σ → β}

def Parts (layout : Layout σ) (name : String) (π : σ → β) : Prop :=
  ∀ field ∈ layout.fields, field.name ≠ name → ∀ draft, (field.reader draft).Gives (π · = π draft)

theorem fieldNamed (known : layout.field? name = some field) : field ∈ layout.fields ∧ field.name = name :=
  ⟨List.mem_of_find?_eq_some known,by simpa using List.find?_some known⟩

theorem setsOther (parts : layout.Parts name π) {other : String} (apart : other ≠ name)
    (sets : layout.Sets p (other,value) q) :
    q.1.contains name = p.1.contains name ∧ π q.2 = π p.2 := by
  cases known : layout.field? other with
  | none =>
    rw [setsUnknown known sets]
    exact ⟨rfl,rfl⟩
  | some field =>
    obtain ⟨-,seen,reads⟩ := setsKnown known sets
    obtain ⟨member,named⟩ := fieldNamed known
    refine ⟨by simp [seen,Ne.symm apart],?_⟩
    exact parts field member (by rw [named]; exact apart) p.2 _ q.2 [] (reads [])

theorem builtPassed (known : layout.field? name = some field) (parts : layout.Parts name π)
    (builds : layout.Builds p entries q) (seen : p.1.contains name = true) :
    (∀ value, (name,value) ∉ entries) ∧ π q.2 = π p.2 := by
  induction builds with
  | none p => exact ⟨by simp,rfl⟩
  | @next p q r entry entries sets later ih =>
    obtain ⟨other,value⟩ := entry
    by_cases same : other = name
    · subst same
      have fresh := (setsKnown known sets).1
      rw [seen] at fresh
      cases fresh
    · obtain ⟨contains,kept⟩ := setsOther parts same sets
      obtain ⟨absent,still⟩ := ih (by rw [contains,seen])
      refine ⟨?_,still.trans kept⟩
      intro value member
      rcases List.mem_cons.mp member with here | more
      · exact same (congrArg Prod.fst here).symm
      · exact absent value more

end

theorem countAbsent {entries : List Entry} : entries.countP (·.1 = name) = 0 ↔ ∀ value, (name,value) ∉ entries := by
  rw [List.countP_eq_zero]
  constructor
  · intro none value member
    exact none _ member (by simp)
  · rintro absent ⟨other,value⟩ member same
    have named : other = name := by simpa using same
    exact absent value (named ▸ member)

theorem builtTold {π : σ → α} {need : Need} {r : Reader α} {put : σ → α → σ}
    (known : layout.field? name = some (.of name need r put)) (parts : layout.Parts name π)
    (own : ∀ draft a, π (put draft a) = a) (builds : layout.Builds p entries q)
    (fresh : p.1.contains name = false) : Told entries name r (π p.2) (π q.2) := by
  induction builds with
  | none p => exact ⟨by simp,by simp,fun _ => rfl⟩
  | @next p q last entry entries sets later ih =>
    obtain ⟨other,value⟩ := entry
    by_cases same : other = name
    · subst same
      obtain ⟨-,seen,reads⟩ := setsKnown known sets
      obtain ⟨absent,still⟩ := builtPassed known parts later (by simp [seen])
      have here : ∀ rest, r.read (value ++ rest) = .ok (π q.2,rest) := by
        intro rest
        have read := reads rest
        simp only [Field.of,Reader.map] at read
        cases first : r.read (value ++ rest) with
        | error fault =>
          rw [first] at read
          cases read
        | ok taken =>
          rw [first] at read
          obtain ⟨put,rest⟩ := Prod.mk.inj (Except.ok.inj read)
          rw [← put,own,← rest]
      refine ⟨?_,?_,?_⟩
      · simp [countAbsent.mpr absent]
      · intro value' member rest
        rcases List.mem_cons.mp member with first | more
        · cases first
          rw [here,still]
        · exact absurd more (absent value')
      · intro none
        exact absurd List.mem_cons_self (none value)
    · obtain ⟨contains,kept⟩ := setsOther parts same sets
      obtain ⟨once,read,absent⟩ := ih (by rw [contains,fresh])
      have elsewhere : ∀ value', (name,value') ∈ (other,value) :: entries → (name,value') ∈ entries := by
        intro value' member
        rcases List.mem_cons.mp member with first | more
        · exact absurd (congrArg Prod.fst first).symm same
        · exact more
      refine ⟨by simpa [same] using once,fun value' member => read value' (elsewhere value' member),?_⟩
      intro none
      rw [absent fun value' member => none value' (List.mem_cons_of_mem _ member),kept]

theorem builtSeen (known : layout.field? name = some field) (builds : layout.Builds p entries q) :
    q.1.contains name = true ↔ p.1.contains name = true ∨ ∃ value, (name,value) ∈ entries := by
  induction builds with
  | none p => simp
  | @next p q last entry entries sets later ih =>
    obtain ⟨other,value⟩ := entry
    have step : q.1.contains name = true ↔ p.1.contains name = true ∨ other = name := by
      cases read : layout.field? other with
      | some field =>
        rw [(setsKnown read sets).2.1,List.contains_cons,Bool.or_eq_true,beq_iff_eq]
        exact or_comm.trans (or_congr_right eq_comm)
      | none =>
        rw [setsUnknown read sets]
        refine (or_iff_left ?_).symm
        rintro rfl
        cases read.symm.trans known
    rw [ih,step,or_assoc]
    refine or_congr_right ⟨?_,?_⟩
    · rintro (rfl | ⟨value,member⟩)
      · exact ⟨_,List.mem_cons_self⟩
      · exact ⟨value,List.mem_cons_of_mem _ member⟩
    · rintro ⟨value',member⟩
      rcases List.mem_cons.mp member with first | more
      · exact .inl (Prod.mk.inj first).1.symm
      · exact .inr ⟨value',more⟩

theorem buildable (whole : ∀ e ∈ entries, Whole e.2)
    (fits : ∀ name field, layout.field? name = some field → entries.countP (·.1 = name) ≤ 1 ∧
      ∀ value, (name,value) ∈ entries → ∀ draft, ∃ draft', ∀ rest,
        (field.reader draft).read (value ++ rest) = .ok (draft',rest))
    (fresh : ∀ name, p.1.contains name = true → ∀ value, (name,value) ∉ entries) :
    ∃ q, layout.Builds p entries q := by
  induction entries generalizing p with
  | nil => exact ⟨p,.none p⟩
  | cons entry entries ih =>
    obtain ⟨name,value⟩ := entry
    have wholes : ∀ e ∈ entries, Whole e.2 := fun e member => whole e (List.mem_cons_of_mem _ member)
    have later : ∀ name field, layout.field? name = some field → entries.countP (·.1 = name) ≤ 1 ∧
        ∀ value, (name,value) ∈ entries → ∀ draft, ∃ draft', ∀ rest,
          (field.reader draft).read (value ++ rest) = .ok (draft',rest) := by
      intro name' field known
      obtain ⟨once,reads⟩ := fits name' field known
      rw [List.countP_cons] at once
      exact ⟨by omega,fun value member => reads value (List.mem_cons_of_mem _ member)⟩
    cases known : layout.field? name with
    | none =>
      obtain ⟨q,builds⟩ := ih wholes later fun other seen value member =>
        fresh other seen value (List.mem_cons_of_mem _ member)
      exact ⟨q,.next (setUnknown known (whole _ List.mem_cons_self)) builds⟩
    | some field =>
      obtain ⟨once,reads⟩ := fits name field known
      obtain ⟨draft,read⟩ := reads value List.mem_cons_self p.2
      have new : p.1.contains name = false := by
        cases seen : p.1.contains name with
        | false => rfl
        | true => exact absurd List.mem_cons_self (fresh name seen value)
      have alone : ∀ value, (name,value) ∉ entries := by
        simp only [List.countP_cons,decide_true,if_true] at once
        exact countAbsent.mp (by omega)
      have others : ∀ other, (name :: p.1).contains other = true → ∀ value, (other,value) ∉ entries := by
        intro other seen value member
        by_cases apart : other = name
        · exact alone value (apart ▸ member)
        · have before : p.1.contains other = true := by simpa [apart] using seen
          exact fresh other before value (List.mem_cons_of_mem _ member)
      obtain ⟨q,builds⟩ := ih (p := (name :: p.1,draft)) wholes later others
      exact ⟨q,.next (setKnown known new read) builds⟩

theorem Told.fits {need : Need} {r : Reader α} {put : σ → α → σ} {otherwise a : α}
    (told : Told entries name r otherwise a) : entries.countP (·.1 = name) ≤ 1 ∧
      ∀ value, (name,value) ∈ entries → ∀ draft, ∃ draft', ∀ rest,
        ((Field.of name need r put).reader draft).read (value ++ rest) = .ok (draft',rest) := by
  refine ⟨told.once,fun value member draft => ⟨put draft a,fun rest => ?_⟩⟩
  simp only [Field.of,Reader.map,told.read value member rest]
  rfl

theorem Told.unique {r : Reader α} {otherwise a b : α} (told : Told entries name r otherwise a)
    (again : Told entries name r otherwise b) : a = b := by
  by_cases absent : ∀ value, (name,value) ∉ entries
  · rw [told.absent absent,again.absent absent]
  · obtain ⟨value,member⟩ := not_forall_not.mp absent
    have read := again.read value member []
    rw [told.read value member []] at read
    cases read
    rfl

end Layout

structure Holds (octets : Text.Octets) (entries : List Entry) : Prop where
  lexemes : lex octets = object entries
  whole : ∀ entry ∈ entries, Whole entry.2

theorem Holds.unique {octets : Text.Octets} {entries others : List Entry} (holds : Holds octets entries)
    (again : Holds octets others) : entries = others :=
  objectApart holds.whole again.whole (holds.lexemes.symm.trans again.lexemes)

end GrantKeeper.Json
