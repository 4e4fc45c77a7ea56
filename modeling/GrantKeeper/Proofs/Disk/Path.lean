import GrantKeeper.Disk.Path

/-! Paths of what lies in a directory: the names of the directory, then its own. -/
namespace GrantKeeper

theorem Text.piecesAppend {p : Char → Bool} {c : Char} (cut : p c = true) (xs ys : List Char) :
    Text.pieces p (xs ++ c :: ys) = Text.pieces p xs ++ Text.pieces p ys := by
  induction xs with
  | nil => simp [Text.pieces,cut]
  | cons x xs ih =>
    simp only [List.cons_append,Text.pieces]
    split
    · rw [ih,List.cons_append]
    · rw [ih]
      have some := Text.piecesNonempty p xs
      generalize Text.pieces p xs = front at some
      cases front with
      | nil => contradiction
      | cons piece rest => rfl

theorem Text.ofPiece {p : Char → Bool} {cs piece : List Char} {c : Char} (there : piece ∈ Text.pieces p cs)
    (inner : c ∈ piece) : c ∈ cs ∧ p c = false := by
  induction cs generalizing piece with
  | nil =>
    rw [Text.pieces,List.mem_singleton] at there
    rw [there] at inner
    cases inner
  | cons d cs ih =>
    have later : ∀ {piece}, piece ∈ Text.pieces p cs → c ∈ piece → c ∈ d :: cs ∧ p c = false :=
      fun there inner => ⟨List.mem_cons_of_mem d (ih there inner).1,(ih there inner).2⟩
    simp only [Text.pieces] at there
    split at there
    · rcases List.mem_cons.mp there with rfl | rest
      · cases inner
      · exact later rest inner
    · rename_i other
      have some := Text.piecesNonempty p cs
      generalize Text.pieces p cs = front at there some later
      cases front with
      | nil => contradiction
      | cons first rest =>
        rcases List.mem_cons.mp there with rfl | more
        · rcases List.mem_cons.mp inner with rfl | deeper
          · exact ⟨List.mem_cons_self,by simpa using other⟩
          · exact later List.mem_cons_self deeper
        · exact later (List.mem_cons_of_mem first more) inner

namespace Disk.Path

structure IsPart (name : String) : Prop where
  whole : ∀ c ∈ name.toList, (c = '/') = False
  filled : standsForNothing name.toList = false

structure IsName (name : String) : Prop extends IsPart name where
  down : name ≠ ".."

theorem wholeName {name : String} (free : '/' ∉ name.toList) : ∀ c ∈ name.toList, (c = '/') = False := by
  intro c member
  refine eq_false ?_
  rintro rfl
  exact free member

theorem nameOfLast {name : String} {last : Char} (whole : ∀ c ∈ name.toList, (c = '/') = False)
    (ends : name.toList.getLast? = some last) (other : last ≠ '.') : IsName name := by
  refine ⟨⟨whole,?_⟩,?_⟩
  · cases stands : standsForNothing name.toList with
    | false => rfl
    | true =>
      simp only [standsForNothing,Bool.or_eq_true,List.isEmpty_iff,beq_iff_eq] at stands
      rcases stands with nothing | dot
      · rw [nothing] at ends
        cases ends
      · rw [dot] at ends
        exact absurd (Option.some.inj ends).symm other
  · intro up
    rw [up] at ends
    exact absurd (Option.some.inj ends).symm other

theorem splitPart {name : String} (part : IsPart name) : splitSlash name.toList = [name.toList] := by
  refine Text.piecesWhole ?_
  intro c member
  simp [part.whole c member]

theorem partHead {name : String} (part : IsPart name) : ∃ c cs, name.toList = c :: cs ∧ c ≠ '/' := by
  cases same : name.toList with
  | nil =>
    have filled := part.filled
    rw [same] at filled
    cases filled
  | cons c cs =>
    refine ⟨c,cs,rfl,?_⟩
    have whole := part.whole c (by simp [same])
    simpa using whole

theorem noPartOfNothing : (splitSlash []).filter (fun piece => !standsForNothing piece) = [] := rfl

theorem splitJoin (dir : Path) {name : String} (part : IsPart name) :
    ∃ front, splitSlash (dir.join ⟨name⟩).text.toList = front ++ [name.toList] ∧
      front.filter (fun piece => !standsForNothing piece) =
        (splitSlash dir.text.toList).filter fun piece => !standsForNothing piece := by
  obtain ⟨c,cs,first,other⟩ := partHead part
  have relative : (⟨name⟩ : Path).isAbsolute = false := by
    simp only [isAbsolute,first,List.head?_cons,Option.some.injEq,decide_eq_false_iff_not]
    exact other
  unfold join
  rw [relative,Bool.false_or]
  split
  · rename_i empty
    have nothing : dir.text = "" := by simpa using empty
    exact ⟨[],splitPart part,by rw [nothing]; rfl⟩
  · split
    · rename_i last
      obtain ⟨front,same⟩ := List.getLast?_eq_some_iff.mp last
      refine ⟨splitSlash front,?_,?_⟩
      · simp only [String.toList_append,same,List.append_assoc,List.singleton_append]
        exact (Text.piecesAppend rfl _ _).trans (congrArg _ (splitPart part))
      · rw [same]
        have cut : splitSlash (front ++ ['/']) = splitSlash front ++ splitSlash [] :=
          Text.piecesAppend rfl _ _
        rw [cut,List.filter_append,noPartOfNothing,List.append_nil]
    · refine ⟨splitSlash dir.text.toList,?_,rfl⟩
      have text : (dir.text ++ "/" ++ name).toList = dir.text.toList ++ '/' :: name.toList := by
        simp
      simp only [text]
      exact (Text.piecesAppend rfl _ _).trans (congrArg _ (splitPart part))

theorem partsJoin (dir : Path) {name : String} (part : IsPart name) :
    (dir.join ⟨name⟩).parts = dir.parts ++ [name] := by
  obtain ⟨front,split,same⟩ := splitJoin dir part
  unfold parts
  rw [split,List.filter_append,same]
  simp [part.filled]

theorem asksJoin (dir : Path) {name : String} (part : IsPart name) :
    (dir.join ⟨name⟩).asksDirectory = false := by
  obtain ⟨front,split,-⟩ := splitJoin dir part
  unfold asksDirectory
  rw [split,List.getLast?_append]
  exact part.filled

theorem dotsJoin (dir : Path) {name : String} (proper : IsName name) :
    (dir.join ⟨name⟩).endsInDots = false := by
  obtain ⟨front,split,-⟩ := splitJoin dir proper.toIsPart
  have filled := proper.filled
  simp only [standsForNothing,Bool.or_eq_false_iff] at filled
  have down : (name.toList == ['.','.']) = false := by
    rw [beq_eq_false_iff_ne]
    intro same
    exact proper.down (String.toList_inj.mp same)
  unfold endsInDots
  rw [split,List.filter_append]
  simp [filled.1,filled.2,down]

theorem absoluteJoin (dir : Path) {name : String} (part : IsPart name) :
    (dir.join ⟨name⟩).isAbsolute = dir.isAbsolute := by
  obtain ⟨c,cs,first,other⟩ := partHead part
  have relative : (⟨name⟩ : Path).isAbsolute = false := by
    simp only [isAbsolute,first,List.head?_cons,Option.some.injEq,decide_eq_false_iff_not]
    exact other
  unfold join
  rw [relative,Bool.false_or]
  split
  · rename_i empty
    have nothing : dir.text = "" := by simpa using empty
    rw [relative,isAbsolute,nothing]
    rfl
  · rename_i some
    obtain ⟨d,ds,same⟩ : ∃ d ds, dir.text.toList = d :: ds := by
      refine List.exists_cons_of_ne_nil ?_
      intro nothing
      exact some (by simpa using nothing)
    split <;> simp [isAbsolute,same]

theorem partsArePart (p : Path) : ∀ name ∈ p.parts, IsPart name := by
  intro name member
  obtain ⟨piece,kept,rfl⟩ := List.mem_map.mp member
  obtain ⟨there,filled⟩ := List.mem_filter.mp kept
  refine ⟨?_,by simpa using filled⟩
  intro c inner
  rw [String.toList_ofList] at inner
  simpa using (Text.ofPiece there inner).2

theorem splitIntercalate {names : List String} (parts : ∀ name ∈ names, IsPart name) :
    (splitSlash (String.intercalate "/" names).toList).filter (fun piece => !standsForNothing piece) =
      names.map String.toList := by
  induction names with
  | nil => rfl
  | cons name names ih =>
    have part := parts name (by simp)
    have rest := ih fun other member => parts other (by simp [member])
    cases names with
    | nil =>
      rw [String.intercalate_singleton,splitPart part]
      simp [part.filled]
    | cons next names =>
      have text : (String.intercalate "/" (name :: next :: names)).toList =
          name.toList ++ '/' :: (String.intercalate "/" (next :: names)).toList := by
        rw [String.intercalate_cons_cons]
        simp
      have cut : splitSlash (name.toList ++ '/' :: (String.intercalate "/" (next :: names)).toList) =
          splitSlash name.toList ++ splitSlash (String.intercalate "/" (next :: names)).toList :=
        Text.piecesAppend rfl _ _
      rw [text,cut,splitPart part,List.filter_append,rest]
      simp [part.filled]

theorem partsOfParts (absolute : Bool) {names : List String} (parts : ∀ name ∈ names, IsPart name) :
    (ofParts absolute names).parts = names := by
  have back : (names.map String.toList).map String.ofList = names := by
    simp [Function.comp_def]
  unfold Path.parts
  cases absolute with
  | false =>
    have text : (ofParts false names).text = String.intercalate "/" names := String.empty_append
    rw [text,splitIntercalate parts,back]
  | true =>
    have text : (ofParts true names).text.toList = '/' :: (String.intercalate "/" names).toList := by
      simp [ofParts]
    have cut : splitSlash ('/' :: (String.intercalate "/" names).toList) =
        [] :: splitSlash (String.intercalate "/" names).toList := Text.piecesSplit rfl _
    have nothing : standsForNothing [] = true := rfl
    rw [text,cut,List.filter_cons_of_neg (by simp [nothing]),splitIntercalate parts,back]

theorem absoluteOfParts (absolute : Bool) {names : List String} (parts : ∀ name ∈ names, IsPart name) :
    (ofParts absolute names).isAbsolute = absolute := by
  cases absolute with
  | true => simp [isAbsolute,ofParts]
  | false =>
    cases names with
    | nil => rfl
    | cons name names =>
      obtain ⟨c,cs,first,other⟩ := partHead (parts name (by simp))
      cases names with
      | nil => simp [isAbsolute,ofParts,String.intercalate_singleton,first,other]
      | cons next names => simp [isAbsolute,ofParts,String.intercalate_cons_cons,first,other]

theorem parentJoin (dir : Path) {name : String} (part : IsPart name) :
    (dir.join ⟨name⟩).parent? = some (ofParts dir.isAbsolute dir.parts) := by
  unfold parent?
  rw [partsJoin dir part,absoluteJoin dir part]
  simp

theorem fileNameJoin (dir : Path) {name : String} (proper : IsName name) :
    (dir.join ⟨name⟩).fileName? = some name := by
  unfold fileName?
  rw [partsJoin dir proper.toIsPart]
  simp [proper.down]

end Disk.Path

end GrantKeeper
