import GrantKeeper.Json.Layout

/-! Members of an object, read one by one into a draft. -/
namespace GrantKeeper.Json.Layout
variable {σ α : Type} {layout : Layout σ} {seen : List String} {draft : σ} {name : String} {need : Need}
  {r : Reader α} {put : σ → α → σ} {a : α} {s rest : List Lexeme}

theorem memberKnown (draft : σ) (known : layout.field? name = some (.of name need r put))
    (new : seen.contains name = false) (value : r.read s = .ok (a,rest)) :
    member layout seen draft (.text (some name) :: .colon :: s) =
      .ok ((name :: seen,put draft a),rest) := by
  have read : ((Field.of name need r put).reader draft |>.map (name :: seen,·)).read s =
      .ok ((name :: seen,put draft a),rest) := by
    simp only [Field.of,Reader.map,value]
    rfl
  simp only [member,memberValue,known,new,takeColon,read]
  rfl

theorem membersGoOn {next : Progress σ} (read : member layout seen draft s = .ok (next,.comma :: rest)) :
    members layout seen draft s = members layout next.1 next.2 rest := by
  rw [members]
  split
  · rename_i failed
    cases read.symm.trans failed
  · rename_i taken
    cases read.symm.trans taken
  · rename_i taken
    cases read.symm.trans taken
    rfl
  · rename_i taken
    cases read.symm.trans taken
  · rename_i comma _ taken
    cases read.symm.trans taken
    exact (comma _ _ _ rfl).elim

theorem membersEnd {last : Progress σ} (read : member layout seen draft s = .ok (last,.closeObject :: rest)) :
    members layout seen draft s = (finish layout last.1 last.2).map (·,rest) := by
  rw [members]
  split
  · rename_i failed
    cases read.symm.trans failed
  · rename_i taken
    cases read.symm.trans taken
    rfl
  · rename_i taken
    cases read.symm.trans taken
  · rename_i taken
    cases read.symm.trans taken
  · rename_i close _ _ taken
    cases read.symm.trans taken
    exact (close _ _ _ rfl).elim

theorem membersNext (known : layout.field? name = some (.of name need r put))
    (new : seen.contains name = false) (value : r.read s = .ok (a,.comma :: rest)) :
    members layout seen draft (.text (some name) :: .colon :: s) =
      members layout (name :: seen) (put draft a) rest := membersGoOn (memberKnown draft known new value)

theorem membersLast (known : layout.field? name = some (.of name need r put))
    (new : seen.contains name = false) (value : r.read s = .ok (a,.closeObject :: rest)) :
    members layout seen draft (.text (some name) :: .colon :: s) =
      (finish layout (name :: seen) (put draft a)).map (·,rest) := membersEnd (memberKnown draft known new value)

end GrantKeeper.Json.Layout
