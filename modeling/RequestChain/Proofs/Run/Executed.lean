import RequestChain.Proofs.Run.Plays

namespace RequestChain

/-- Of two plays of a dialogue that begin alike, neither can go on where the other has ended. -/
theorem Dialogue.Plays.unique_of_append {Q A α : Type} {d : Dialogue Q A α}
    {log log' more more' : List (Q × A)} {a a' : α} (h : d.Plays log a) (h' : d.Plays log' a')
    (he : log ++ more = log' ++ more') : log = log' ∧ a = a' := by
  have hlog : log <+: log' ++ more' := ⟨more, he⟩
  rcases List.prefix_or_prefix_of_prefix hlog (List.prefix_append log' more') with hp | hp
  · exact h.unique h' (hp.map Prod.snd)
  · obtain ⟨hl, ha⟩ := h'.unique h (hp.map Prod.snd)
    exact ⟨hl.symm, ha.symm⟩

namespace Run

variable {authorization : Option String} {number : Nat} {steps : List Step} {start p q : Progress}
  {log : List (Call × CallResult)} {s : Step} {failure : Failure} {out : Outcome}

/-- A run of steps with these calls comes to the step `s`: the steps before it go through and lead
to `p`, from where the step comes to `out`. -/
inductive Executes (authorization : Option String) :
    Nat → List Step → Progress → List (Call × CallResult) → Step → Progress → Outcome → Prop where
  | here {number : Nat} {s : Step} {rest : List Step} {p : Progress}
      {log more : List (Call × CallResult)} {out : Outcome} :
      (runStep authorization number s p).Plays log out →
        Executes authorization number (s :: rest) p (log ++ more) s p out
  | later {number : Nat} {first s : Step} {rest : List Step} {start p q : Progress}
      {log more : List (Call × CallResult)} {out : Outcome} :
      (runStep authorization number first start).Plays log (none, q) →
      Executes authorization (number + 1) rest q more s p out →
        Executes authorization number (first :: rest) start (log ++ more) s p out

theorem Executes.mem (h : Executes authorization number steps start log s p out) : s ∈ steps := by
  induction h with
  | here => exact List.mem_cons_self
  | later _ _ ih => exact List.mem_cons_of_mem _ ih

theorem Executes.exists_plays (h : Executes authorization number steps start log s p out) :
    ∃ number log', (runStep authorization number s p).Plays log' out := by
  induction h with
  | here hstep => exact ⟨_, _, hstep⟩
  | later _ _ ih => exact ih

@[simp] theorem store_stop (number : Nat) (failure : Failure) (p : Progress) :
    (stop number failure p).store = p.store := by
  unfold stop
  split <;> rfl

/-- The run ends with a step that fails, with the variables that the step leaves. -/
theorem Executes.stops (h : Executes authorization number steps start log s p (some failure, q))
    (hrun : (runSteps authorization number steps start).Plays log out) :
    out.1 = some failure ∧ out.2.store = q.store := by
  generalize hend : (some failure, q) = ended at h
  induction h generalizing out with
  | here hstep =>
    rcases plays_runSteps_cons_iff.1 hrun with
      ⟨failure', q', hx, rfl⟩ | ⟨before, after, q', hlog, hx, _⟩
    · obtain ⟨_, he⟩ := hstep.unique_of_append hx (List.append_nil _).symm
      obtain ⟨hf, rfl⟩ := Prod.mk.inj (hend.trans he)
      exact ⟨hf.symm, store_stop _ _ _⟩
    · -- the step fails, so the run does not go on after it
      obtain ⟨_, he⟩ := hstep.unique_of_append hx hlog
      cases hend.trans he
  | later hfirst _ ih =>
    rcases plays_runSteps_cons_iff.1 hrun with
      ⟨failure', q', hx, rfl⟩ | ⟨before, after, q', hlog, hx, hrest⟩
    · -- the first step goes through, so the run does not end with it
      obtain ⟨_, he⟩ := hfirst.unique_of_append hx (List.append_nil _).symm
      cases he
    · obtain ⟨rfl, he⟩ := hfirst.unique_of_append hx hlog
      obtain ⟨_, rfl⟩ := Prod.mk.inj he
      obtain rfl := List.append_cancel_left hlog
      exact ih hrest hend

end Run
end RequestChain
