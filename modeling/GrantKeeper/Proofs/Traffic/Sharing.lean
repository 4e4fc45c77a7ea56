import GrantKeeper.Proofs.Traffic.Readers

/-! Readers of one stale token share an exchange. Its grant serves those who waited for it and
those who came late. -/
namespace GrantKeeper
open Time (Instant Span)
variable {ω τ : Type}

namespace Traffic

variable {k : Keeper ω τ} {base : Nat} {id : String} {old : Slot} {stage : Stage} {mine : List Nat}
  {t : Traffic ω τ} {n : Nat} {now first : Instant}

theorem renewedUnended {g : Grant} (h : t.Sharing k base id old (.renewed g) mine) (e : Event) :
    t.endsFor id e = false := by
  have none : ∀ n, (t.attemptOf? n).any (·.2.id == id) = false := by
    intro n
    cases there : t.attemptOf? n with
    | none => rfl
    | some begun =>
      rcases h.placed n _ (attemptThere there) with ⟨-,reader⟩ | ⟨-,apart⟩
      · cases reader
      · exact (Bool.or_eq_false_iff.mp apart).2
  cases e <;> first | rfl | exact none _

variable [Vault ω]

theorem sharingCommits (h : t.Sharing k base id old stage mine) {errand : Errand} {a : Attempt τ}
    (there : t.attemptOf? n = some (errand,a)) (own : a.id = id) {reply : Reply}
    (saved : (Vault.save t.keeper.vault id (a.previous.refreshed now reply)).1 = .ok ()) :
    (t.step now (.settle n (.ok reply))).Sharing k base id old
      (.renewed (a.previous.refreshed now reply)) mine := by
  rcases h.placed n _ (attemptThere there) with ⟨member,reader⟩ | ⟨-,apart⟩
  · cases reader with
    | leads _ epoch previous =>
      subst own
      have found : t.keeper.slotOf? a = some (Stage.slot old (.led n)) := by
        rw [Keeper.slotOf?,h.slot,Option.filter_some,if_pos]
        exact beq_iff_eq.mpr epoch.symm
      simp only [step,there,Caller.settle]
      have settled := t.keeper.settles now a (.ok reply)
      generalize t.keeper.settle now a (.ok reply) = result at settled ⊢
      cases settled with
      | gone absent => cases absent.symm.trans found
      | kept mine other =>
        cases found.symm.trans mine
        exact absurd previous.symm other
      | unsaved _ _ save => cases (congrArg (·.1) save).symm.trans saved
      | saved present =>
        cases found.symm.trans present
        refine sharingSet h rfl ?_ h.begun rfl ?_ (.inl ⟨member,.reads⟩)
        · exact (Roster.slotPut ..).trans (if_pos rfl)
        · -- whoever waited for the leader is to find that its exchange has ended
          intro m other apart reader
          cases reader with
          | looked => exact .looked
          | waits begun => exact .waits rfl
          | woken begun => exact .woken rfl
          | leads => exact absurd rfl apart
  · exact absurd own (beq_eq_false_iff_ne.mp (Bool.or_eq_false_iff.mp apart).2)

def readers (id : String) : Traffic ω τ → Events → List Nat
  | _, [] => []
  | t, (now,e) :: events => t.arrives id e ++ (t.step now e).readers id events

/-- The first exchange for the account to end, if any ends, gives a grant that is saved, and that
stays out of the buffer for the rest of the run. -/
inductive FirstCommits (id : String) : Traffic ω τ → Events → Prop
  | none {t : Traffic ω τ} : FirstCommits id t []
  | goes {t : Traffic ω τ} {now e events} (unended : t.endsFor id e = false)
      (rest : FirstCommits id (t.step now e) events) : FirstCommits id t ((now,e) :: events)
  | commits {t : Traffic ω τ} {now n errand a reply events} (there : t.attemptOf? n = some (errand,a))
      (own : a.id = id)
      (saved : (Vault.save t.keeper.vault id (a.previous.refreshed now reply)).1 = .ok ())
      (fresh : ∀ x ∈ events, (a.previous.refreshed now reply).isExpired x.1 t.keeper.buffer = false) :
      FirstCommits id t ((now,.settle n (.ok reply)) :: events)

def Gave (id : String) (t : Traffic ω τ) (events : Events) (reply : Reply) (g : Grant) : Prop :=
  ∃ before now n errand a after, events = before ++ (now,.settle n (.ok reply)) :: after ∧
    (t.run before).attemptOf? n = some (errand,a) ∧ a.id = id ∧ g = a.previous.refreshed now reply

theorem gaveLater {e : Event} {events : Events} {reply : Reply} {g : Grant}
    (gave : (t.step now e).Gave id events reply g) : t.Gave id ((now,e) :: events) reply g := by
  obtain ⟨before,when,n,errand,a,after,rfl,there⟩ := gave
  exact ⟨(now,e) :: before,when,n,errand,a,after,rfl,there⟩

theorem renewedRun (due : k.Due id old first) {g : Grant} {events : Events}
    (h : t.Sharing k base id old (.renewed g) mine) (reads : ∀ x ∈ events, x.2.onlyReads id = true)
    (timely : ∀ x ∈ events, (Stage.renewed g).Timely old k.buffer x.1) :
    (t.run events).Sharing k base id old (.renewed g) (mine ++ t.readers id events) := by
  induction events generalizing t mine with
  | nil =>
    rw [readers,List.append_nil]
    exact h
  | cons head tail ih =>
    obtain ⟨read,others⟩ := List.forall_mem_cons.mp reads
    obtain ⟨fresh,later⟩ := List.forall_mem_cons.mp timely
    obtain ⟨next,same,kept⟩ := sharingStep due h fresh read (renewedUnended h head.2)
    have still : next = .renewed g := by
      cases next with
      | renewed g => cases same; rfl
      | _ => cases same
    subst still
    rw [readers,← List.append_assoc]
    exact ih kept others later

theorem sharingRun (due : k.Due id old first) {events : Events} (commits : FirstCommits id t events)
    (h : t.Sharing k base id old stage mine) (ungiven : stage.given? = none)
    (reads : ∀ x ∈ events, x.2.onlyReads id = true) (later : ∀ x ∈ events, first ≤ x.1) :
    ∃ next, (t.run events).Sharing k base id old next (mine ++ t.readers id events) ∧
      ∀ g, next.given? = some g → ∃ reply, g.access = reply.access ∧ t.Gave id events reply g := by
  induction commits generalizing stage mine with
  | none =>
    rw [readers,List.append_nil]
    refine ⟨stage,h,?_⟩
    intro g given
    rw [ungiven] at given
    cases given
  | goes unended rest ih =>
    obtain ⟨read,others⟩ := List.forall_mem_cons.mp reads
    obtain ⟨after,rest⟩ := List.forall_mem_cons.mp later
    obtain ⟨next,same,kept⟩ := sharingStep due h (timelyStale due ungiven after) read unended
    obtain ⟨last,shared,gave⟩ := ih kept (same.trans ungiven) others rest
    rw [readers,← List.append_assoc]
    refine ⟨last,shared,?_⟩
    intro g given
    obtain ⟨reply,access,came⟩ := gave g given
    exact ⟨reply,access,gaveLater came⟩
  | @commits t now n errand a reply events there own saved fresh =>
    have kept := sharingCommits h there own saved
    have timely : ∀ x ∈ events,
        (Stage.renewed (a.previous.refreshed now reply)).Timely old k.buffer x.1 := by
      intro x member
      exact ⟨rfl,bufferSame h.settings ▸ fresh x member⟩
    have shared := renewedRun due kept (List.forall_mem_cons.mp reads).2 timely
    refine ⟨_,shared,?_⟩
    rintro g ⟨⟩
    exact ⟨reply,rfl,[],now,n,errand,a,events,rfl,there,own,rfl⟩

/-- An account has a stale grant, and nobody but readers of its token has to do with it. However
many they are and however their steps fall, the first exchange serves them all. -/
theorem readersShare {t : Traffic ω τ} {id : String} {old : Slot} {first : Instant}
    (due : t.keeper.Due id old first) (bystanders : ∀ caller ∈ t.callers, caller.minds id = false)
    {events : Events} (later : ∀ x ∈ events, first ≤ x.1)
    (reads : ∀ x ∈ events, x.2.onlyReads id = true) (commits : FirstCommits id t events) :
    let u := t.run events
    u.begunFor id ≤ t.begunFor id + 1 ∧
    ∀ n ∈ t.readers id events, ∀ answer, u.callers[n]? = some (.finished answer) →
      u.begunFor id = t.begunFor id + 1 ∧
      ∃ reply g, t.Gave id events reply g ∧ u.keeper.grant? id = some g ∧
        answer = .token (some reply.access) := by
  intro u
  have unread : t.Sharing t.keeper (t.begunFor id) id old .unread [] :=
    { settings := rfl
      slot := due.found
      begun := rfl
      known := nofun
      placed := fun n caller there => .inr ⟨nofun,bystanders caller (List.mem_of_getElem? there)⟩ }
  obtain ⟨stage,shared,gave⟩ := sharingRun due commits unread rfl reads later
  refine ⟨?_,?_⟩
  · rw [shared.begun]
    cases stage <;> simp [Stage.begun]
  · intro n member answer finished
    rcases shared.placed n _ finished with ⟨-,reader⟩ | ⟨outside,-⟩
    · cases reader with
      | @done g =>
        obtain ⟨reply,access,came⟩ := gave g rfl
        refine ⟨shared.begun,reply,g,came,?_,by rw [access]⟩
        rw [Keeper.grant?,Roster.grant?,shared.slot]
        rfl
    · exact absurd member outside

end Traffic

namespace Sample

def stale : Traffic Vault.Memory Unit :=
  (Traffic.start keeper).run (atOnce (arrival ++ [.storeTokens "a" "A" "R" 60]))

def twoReads : Events :=
  atOnce [.token "a",.token "a",.proceed 0,.proceed 1,.settle 0 (.ok reply),.notify,
    .proceed 0,.proceed 1,.proceed 1]

end Sample

theorem Traffic.twoReadersShare :
    let old : Slot := ⟨⟨Sample.enrollment,Grant.issued .epoch "A" "R" 60⟩,0,false,0,false⟩
    Sample.stale.keeper.Due "a" old .epoch ∧ FirstCommits "a" Sample.stale Sample.twoReads ∧
      Sample.stale.readers "a" Sample.twoReads = [0,1] ∧
      (Sample.stale.run Sample.twoReads).callers[1]? = some (.finished (.token (some "B"))) ∧
      (Sample.stale.run Sample.twoReads).begunFor "a" = Sample.stale.begunFor "a" + 1 := by
  intro old
  have due : Sample.stale.keeper.Due "a" old .epoch := ⟨rfl,rfl,rfl,⟨(),rfl⟩,rfl,rfl⟩
  have commits : FirstCommits "a" Sample.stale Sample.twoReads :=
    .goes rfl (.goes rfl (.goes rfl (.goes rfl (.commits rfl rfl rfl (by decide)))))
  have finished : (Sample.stale.run Sample.twoReads).callers[1]? =
      some (.finished (.token (some "B"))) := rfl
  have shared := readersShare due (by decide) (by decide) (by decide) commits
  exact ⟨due,commits,rfl,finished,(shared.2 1 (by decide) _ finished).1⟩

end GrantKeeper
