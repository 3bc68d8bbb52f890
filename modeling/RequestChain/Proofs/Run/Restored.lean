import Mathlib
import RequestChain.Proofs.Run.Growth

namespace RequestChain.Run

variable {authorization : Option String} {s : Step} {p q : Progress} {number : Nat}
  {log : List (Call × CallResult)} {name : String} {value : Bound} {failure : Option Failure}

/-- Nothing that a turn binds outlasts the iteration under the name of its variable. -/
theorem get?_runStep_of_loop? (hloop : s.loop? p.store = some (name, value))
    (h : (runStep authorization number s p).Plays log (failure, q)) :
    q.store.get? name = some value := by
  have hv := (Step.loop?_eq_some_iff.1 hloop).2.2
  rcases plays_runStep_iff.1 h with ⟨_, hc⟩ | ⟨_, _, hout⟩
  · rcases plays_runComplete_iff.1 hc with ⟨hnone, _⟩ | ⟨other, old, hloop', _, q', _, hout⟩
    · rw [hloop] at hnone
      cases hnone
    · rw [hloop] at hloop'
      cases hloop'
      obtain ⟨_, rfl⟩ := Prod.mk.inj hout
      rw [Progress.store_bind, Store.get?_bind, if_pos rfl]
  · obtain ⟨_, rfl⟩ := Prod.mk.inj hout
    exact hv

/-- The names before it are the same, so the variable has not moved. -/
theorem getElem?_runStep_of_loop? {i : Nat} (hloop : s.loop? p.store = some (name, value))
    (h : (runStep authorization number s p).Plays log (failure, q))
    (hi : p.store.entries[i]? = some (name, value)) :
    q.store.entries[i]? = some (name, value) := by
  obtain ⟨hname, _⟩ := Store.getElem?_entries_iff.1 hi
  obtain ⟨more, hmore⟩ := (runStep_grows h).order
  refine Store.getElem?_entries_iff.2 ⟨?_, get?_runStep_of_loop? hloop h⟩
  obtain ⟨hlt, _⟩ := List.getElem?_eq_some_iff.1 hname
  rw [← hmore, List.getElem?_append_left hlt, hname]

/-- A step is to be repeated for the elements of a variable. Whatever is answered to its calls, it
comes to an end, and then the variable has the value it had, at the place where it stood: when all
turns are done, and when a call raises or is refused or an expression cannot be evaluated in some
turn, whatever the entries of the step have bound. If the run ends with the step, the body is made
from variables of which this one has that value, at that place. -/
theorem repeated_step_gives_its_variable_back (authorization : Option String) (number : Nat)
    (s : Step) (p : Progress) (name : String) (value : Bound)
    (hloop : s.loop? p.store = some (name, value)) :
    (∀ (σ : Type) (client : Call → σ → CallResult × σ) (state : σ), ∃ log,
      let played := (runStep authorization number s p).play client state
      Dialogue.Answered client state log played.2 ∧
      (runStep authorization number s p).Plays log played.1) ∧
    (∃ i : Nat, p.store.entries[i]? = some (name, value) ∧
      ∀ log failure q, (runStep authorization number s p).Plays log (failure, q) →
        q.store.get? name = some value ∧ q.store.entries[i]? = some (name, value)) ∧
    ∀ request header log answer failure q, (Request.run request header).Plays log answer →
      Executes (Authorization.forwarded header) 1 (request.steps.getD []) .start log s p
        (some failure, q) →
      ∃ last : Progress, answer.status = failure.status ∧
        (runRequest request (Authorization.forwarded header)).Plays log (answer.status, last) ∧
        answer.content = preface request.debug last.events ++
          (Report.body request.response last.store.scope ++ "\n") ∧
        last.store.get? name = some value ∧
        ∀ i : Nat, p.store.entries[i]? = some (name, value) →
          last.store.scope[i]? = some (name, value.wire) := by
  refine ⟨?_, ?_, ?_⟩
  · intro σ client state
    exact Dialogue.exists_plays_play _ client state
  · have hv := (Step.loop?_eq_some_iff.1 hloop).2.2
    have hm : name ∈ p.store.names := Store.mem_names_iff.2 ⟨value, hv⟩
    obtain ⟨i, hi⟩ := List.mem_iff_getElem?.1 hm
    have hplace : p.store.entries[i]? = some (name, value) :=
      Store.getElem?_entries_iff.2 ⟨hi, hv⟩
    refine ⟨i, hplace, ?_⟩
    intro log failure q h
    exact ⟨get?_runStep_of_loop? hloop h, getElem?_runStep_of_loop? hloop h hplace⟩
  · intro request header log answer failure q hrun hstep
    obtain ⟨last, hlast, hc, _⟩ := Request.plays_run_iff.1 hrun
    rcases plays_runRequest_iff.1 hlast with ⟨hnone, _⟩ | ⟨_, failure', hsteps, hstatus⟩
    · -- a request without steps executes none
      have hmem := hstep.mem
      rw [hnone] at hmem
      cases hmem
    · obtain ⟨hfailure, hstore⟩ := hstep.stops hsteps
      dsimp only at hfailure hstore
      subst hfailure
      obtain ⟨number, log', hplay⟩ := hstep.exists_plays
      refine ⟨last, hstatus, hlast, hc.trans (report_text request last), ?_, ?_⟩
      · rw [hstore]
        exact get?_runStep_of_loop? hloop hplay
      · intro i hi
        rw [hstore]
        exact Store.getElem?_scope (getElem?_runStep_of_loop? hloop hplay hi)

/-- The first turn binds the variable of the iteration to another value and in the second the call
raises: the run ends there, and the answer shows the value from before the step. -/
theorem variable_outlasts_its_own_rebinding :
    let first : Step := ⟨some "get", some "/start", none, some [("ids", "ids")], none⟩
    let step : Step :=
      ⟨some "get", some "/items/\x7bids\x7d", none, some [("ids", "id")], some "ids"⟩
    let request : Request := ⟨some [first, step], .null, false⟩
    let value := Bound.text "[\n  1,\n  2\n]"
    ∃ log answer p failure q, (request.run none).Plays log answer ∧
      Executes none 1 [first, step] .start log step p (some failure, q) ∧
      step.loop? p.store = some ("ids", value) ∧ q.store.get? "ids" = some value ∧
      answer.status = 500 ∧
      answer.content = "\x7b\n  \"ids\": [\n    1,\n    2\n  ]\n\x7d\n" ∧ ∃ last : Progress,
        (runRequest request none).Plays log (answer.status, last) ∧
        last.store.get? "ids" = some value := by
  intro first step request value
  have heval : ((runStep none 1 first .start).against
      [.ok ⟨200, "\x7b\"ids\": [1, 2]\x7d", ""⟩]).map
      (fun played => (played.2.1.isNone, step.loop? played.2.2.store,
        ((runStep none 2 step played.2.2).against
          [.ok ⟨200, "\x7b\"id\": \"x\"\x7d", ""⟩, .error "down"]).map
          fun played => (played.2.1.map Failure.status, played.2.2.store.scope))) =
      some (true, some ("ids", value), some (some 500, [("ids", value.wire)])) := by
    cbv
  obtain ⟨⟨log, passed, p⟩, hfirst, he⟩ := Option.map_eq_some_iff.1 heval
  simp only [Prod.mk.injEq, Option.isNone_iff_eq_none] at he
  obtain ⟨rfl, hloop, hfail⟩ := he
  obtain ⟨⟨log', out, q⟩, hstep, he⟩ := Option.map_eq_some_iff.1 hfail
  obtain ⟨hstatus, hscope⟩ := Prod.mk.inj he
  obtain ⟨failure, rfl, hfailure⟩ := Option.map_eq_some_iff.1 hstatus
  have hfirst := Dialogue.plays_of_against hfirst
  have hstep := Dialogue.plays_of_against hstep
  have hsteps : (runSteps (Authorization.forwarded none) 1 (request.steps.getD []) .start).Plays
      (log ++ log') (some failure, stop 2 failure q) :=
    plays_runSteps_cons_iff.2 (.inr ⟨log, log', p, rfl, hfirst,
      plays_runSteps_cons_iff.2 (.inl ⟨failure, q, hstep, rfl⟩)⟩)
  obtain ⟨answer, hrun, hanswer, htext⟩ := Request.exists_answer_of_failure hsteps
  have hexec : Executes none 1 [first, step] .start (log ++ log') step p
      (some failure, q) := by
    have hhere : Executes none 2 [step] p (log' ++ []) step p (some failure, q) := .here hstep
    rw [List.append_nil] at hhere
    exact .later hfirst hhere
  obtain ⟨_, ⟨i, _, hstored⟩, hends⟩ :=
    repeated_step_gives_its_variable_back none 2 step p "ids" value hloop
  obtain ⟨last, _, hlast, _, hvalue, _⟩ := hends request none _ answer failure q hrun hexec
  have hcontent : answer.content = "\x7b\n  \"ids\": [\n    1,\n    2\n  ]\n\x7d\n" := by
    have hbody : Report.body .null [("ids", value.wire)] =
        "\x7b\n  \"ids\": [\n    1,\n    2\n  ]\n\x7d" := by
      cbv
    rw [htext, report_text, store_stop, hscope, hbody, preface, if_neg Bool.false_ne_true]
    rfl
  exact ⟨_, answer, p, failure, q, hrun, hexec, hloop, (hstored _ _ _ hstep).1,
    hanswer.trans hfailure, hcontent,
    last, hlast, hvalue⟩

end RequestChain.Run
