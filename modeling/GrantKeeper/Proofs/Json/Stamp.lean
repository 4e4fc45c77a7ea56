import GrantKeeper.Outcome
import GrantKeeper.Proofs.Grant.Whole
import GrantKeeper.Proofs.Json.Decoded

/-! A stamp is read from one lexeme: from an integer, or from a text that is a signed numeral among
blanks. Either way it is the instant of that second. -/
namespace GrantKeeper
open Time (Instant)

namespace Json

inductive Dates : List Lexeme → Int → Prop
  | integer (n : Int) : Dates [.ofInteger n] n
  | text {s n} (spells : Text.Spells s n) : Dates [.ofText s] n

namespace Reader
variable {lexeme : Lexeme} {value s rest : List Lexeme} {t : Instant} {n : Int}

theorem secondsIff : stampOfSeconds n = .ok t ↔ t.IsSecond n := by
  rw [← Instant.ofSecondsIff]
  unfold stampOfSeconds
  cases Instant.ofSeconds? n <;> simp

theorem stampTextIff {s : String} : stampOfText s = .ok t ↔ ∃ n, Text.Spells s n ∧ t.IsSecond n := by
  unfold stampOfText
  constructor
  · intro made
    split at made
    · rename_i n read
      exact ⟨n,(Text.readTrimmed.mp read).1,secondsIff.mp made⟩
    · cases made
  · rintro ⟨n,spells,second⟩
    rw [Text.readTrimmed.mpr ⟨spells,second.word⟩]
    exact secondsIff.mpr second

theorem stampLexemeIff : stampOfLexeme? lexeme = some (.ok t) ↔ ∃ n, Dates [lexeme] n ∧ t.IsSecond n := by
  constructor
  · intro made
    unfold stampOfLexeme? at made
    split at made
    · obtain ⟨n,spells,second⟩ := stampTextIff.mp (Option.some.inj made)
      exact ⟨n,.text spells,second⟩
    · rename_i n
      split at made
      · exact ⟨n,.integer n,secondsIff.mp (Option.some.inj made)⟩
      · cases made
    · cases made
  · rintro ⟨n,dates,second⟩
    cases dates with
    | integer =>
      simp only [Lexeme.ofInteger,stampOfLexeme?,second.word,if_true]
      exact congrArg some (secondsIff.mpr second)
    | text spells => exact congrArg some (stampTextIff.mpr ⟨n,spells,second⟩)

theorem stampReadIff : stamp.read s = .ok (t,rest) ↔
    ∃ lexeme n, s = lexeme :: rest ∧ Dates [lexeme] n ∧ t.IsSecond n := by
  constructor
  · intro read
    simp only [stamp] at read
    split at read
    · rename_i made first
      cases s with
      | nil => cases first
      | cons lexeme more =>
        obtain ⟨u,rfl,same⟩ := Outcome.ofMap read
        cases same
        obtain ⟨n,dates,second⟩ := stampLexemeIff.mp first
        exact ⟨lexeme,n,rfl,dates,second⟩
    · split at read <;> cases read
  · rintro ⟨lexeme,n,rfl,dates⟩
    have made := stampLexemeIff.mpr ⟨n,dates⟩
    simp only [stamp,List.head?_cons,Option.bind_some,made]
    rfl

theorem datesWhole (dates : Dates value n) : Whole value := by
  cases dates <;> exact fun _ => rfl

theorem exactStamp : stamp.Exact := by
  intro s t rest read
  obtain ⟨lexeme,n,rfl,dates⟩ := stampReadIff.mp read
  exact ⟨[lexeme],rfl,datesWhole dates.1,fun more => stampReadIff.mpr ⟨lexeme,n,rfl,dates⟩⟩

theorem readsStamp : (∀ rest, stamp.read (value ++ rest) = .ok (t,rest)) ↔
    ∃ n, Dates value n ∧ t.IsSecond n := by
  constructor
  · intro reads
    obtain ⟨lexeme,n,same,dates⟩ := stampReadIff.mp (reads [])
    rw [List.append_nil] at same
    exact ⟨n,same ▸ dates.1,dates.2⟩
  · rintro ⟨n,dates,second⟩ rest
    refine stampReadIff.mpr ?_
    cases dates with
    | integer => exact ⟨_,n,rfl,.integer n,second⟩
    | text spells => exact ⟨_,n,rfl,.text spells,second⟩

end Reader

end Json

end GrantKeeper
