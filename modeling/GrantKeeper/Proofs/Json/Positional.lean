import GrantKeeper.Proofs.Json.Decoded

/-! A list of elements says what an object says that has them under the names of the fields, as far as
the list goes. -/
namespace GrantKeeper.Json.Layout
variable {σ : Type} {layout : Layout σ} {seen last : List String} {draft a : σ} {early : List (Field σ)}
  {values : List (List Lexeme)} {octets : Text.Octets}

def names (layout : Layout σ) : List String := layout.fields.map (·.name)

theorem fieldKnown {field : Field σ} (distinct : layout.names.Nodup) (member : field ∈ layout.fields) :
    layout.field? field.name = some field := by
  unfold names at distinct
  unfold field?
  generalize layout.fields = fields at distinct member
  induction fields with
  | nil => cases member
  | cons first fields ih =>
    obtain ⟨apart,distinct⟩ := List.nodup_cons.mp distinct
    rcases List.mem_cons.mp member with rfl | later
    · simp
    · have other : first.name ≠ field.name := fun same =>
        apart (List.mem_map.mpr ⟨field,later,same.symm⟩)
      rw [List.find?_cons_of_neg (by simpa using other)]
      exact ih distinct later

theorem Fills.length (fills : Fills draft early values a) : values.length = early.length := by
  induction fills with
  | none => rfl
  | next reads later ih => simp [ih]

theorem Fills.whole (exact : ∀ field ∈ early, ∀ draft, (field.reader draft).Exact)
    (fills : Fills draft early values a) : ∀ value ∈ values, Whole value := by
  induction fills with
  | none => nofun
  | @next draft next last field fields value values reads later ih =>
    obtain ⟨part,same,whole,-⟩ := exact field List.mem_cons_self draft _ _ _ (reads [])
    obtain rfl : value = part := List.append_cancel_right same
    exact List.forall_mem_cons.mpr ⟨whole,ih fun f member => exact f (List.mem_cons_of_mem _ member)⟩

theorem Fills.builds (known : ∀ field ∈ early, layout.field? field.name = some field)
    (distinct : (early.map (·.name)).Nodup) (fresh : ∀ field ∈ early, seen.contains field.name = false)
    (fills : Fills draft early values a) :
    ∃ last, layout.Builds (seen,draft) ((early.map (·.name)).zip values) (last,a) := by
  induction fills generalizing seen with
  | none draft => exact ⟨seen,.none _⟩
  | @next draft next a field fields value values reads later ih =>
    obtain ⟨apart,distinct⟩ := List.nodup_cons.mp distinct
    obtain ⟨own,known⟩ := List.forall_mem_cons.mp known
    obtain ⟨new,fresh⟩ := List.forall_mem_cons.mp fresh
    have still : ∀ f ∈ fields, (field.name :: seen).contains f.name = false := by
      intro f member
      have other : f.name ≠ field.name := fun same => apart (List.mem_map.mpr ⟨f,member,same⟩)
      rw [List.contains_cons,fresh f member,Bool.or_false]
      exact beq_eq_false_iff_ne.mpr other
    obtain ⟨last,builds⟩ := ih known distinct still
    exact ⟨last,.next (setKnown own new reads) builds⟩

theorem Builds.fills (known : ∀ field ∈ early, layout.field? field.name = some field)
    (length : values.length = early.length)
    (builds : layout.Builds (seen,draft) ((early.map (·.name)).zip values) (last,a)) :
    Fills draft early values a := by
  induction early generalizing seen draft values with
  | nil =>
    obtain rfl := List.length_eq_zero_iff.mp length
    cases builds
    exact .none _
  | cons field fields ih =>
    cases values with
    | nil => cases length
    | cons value values =>
      obtain ⟨own,known⟩ := List.forall_mem_cons.mp known
      cases builds with
      | next sets later =>
        exact .next (setsKnown own sets).2.2 (ih known (Nat.succ.inj length) later)

theorem elementsDecoded (exact : layout.Exact) {s : List Lexeme} (opens : lex octets = .openList :: s)
    (decoded : decode layout.reader octets = .ok a) : ∃ values early late, Lists octets values ∧
      layout.fields = early ++ late ∧ Fills layout.blank early values a := by
  obtain ⟨values,early,late,same,split,-,fills⟩ := (decodedElements exact opens).mp decoded
  have inside : ∀ field ∈ early, ∀ draft, (field.reader draft).Exact := fun field member =>
    exact field (by rw [split]; exact List.mem_append_left _ member)
  exact ⟨values,early,late,⟨same,fills.whole inside⟩,split,fills⟩

theorem decodedListed (exact : layout.Exact) (free : ∀ field ∈ layout.fields, field.need = .never)
    (distinct : layout.names.Nodup) (lists : Lists octets values) :
    decode layout.reader octets = .ok a ↔ values.length ≤ layout.fields.length ∧
      ∃ seen, layout.Builds ([],layout.blank) (layout.names.zip values) (seen,a) := by
  obtain ⟨s,opens⟩ : ∃ s, lex octets = .openList :: s := by
    rw [lists.lexemes]
    cases values <;> exact ⟨_,rfl⟩
  have named : ∀ {early late : List (Field σ)}, layout.fields = early ++ late → values.length = early.length →
      layout.names.zip values = (early.map (·.name)).zip values := by
    intro early late split length
    have same : (early.map (·.name)).length = values.length := by rw [List.length_map,length]
    have zipped : ((early.map (·.name)) ++ late.map (·.name)).zip (values ++ []) =
        (early.map (·.name)).zip values ++ (late.map (·.name)).zip [] := List.zip_append same
    rw [List.append_nil,List.zip_nil_right,List.append_nil] at zipped
    rw [names,split,List.map_append,zipped]
  constructor
  · intro decoded
    obtain ⟨others,early,late,again,split,fills⟩ := elementsDecoded exact opens decoded
    obtain rfl := lists.unique again
    have known : ∀ field ∈ early, layout.field? field.name = some field := fun field member =>
      fieldKnown distinct (by rw [split]; exact List.mem_append_left _ member)
    have part : (early.map (·.name)).Nodup := by
      rw [names,split,List.map_append] at distinct
      exact (List.nodup_append.mp distinct).1
    rw [named split fills.length]
    refine ⟨by rw [split,fills.length,List.length_append]; omega,?_⟩
    exact fills.builds known part fun _ _ => rfl
  · rintro ⟨fits,seen,builds⟩
    have split := (List.take_append_drop values.length layout.fields).symm
    have length : values.length = (layout.fields.take values.length).length := by
      rw [List.length_take]
      omega
    rw [named split length] at builds
    refine (decodedElements exact opens).mpr ⟨values,_,_,lists.lexemes,split,?_,?_⟩
    · exact fun field member => free field (List.mem_of_mem_drop member)
    · exact builds.fills (fun field member => fieldKnown distinct (List.mem_of_mem_take member)) length

end GrantKeeper.Json.Layout
