import Mathlib
import RequestChain.Proofs.Run.Plays

namespace RequestChain.Run

/-- One round of an iteration: the progress that its call is made from, the call with its result,
and what the round comes to. -/
structure Round where
  start : Progress
  call : Call
  result : CallResult
  out : Outcome

namespace Round

def exchange (r : Round) : Call × CallResult := (r.call, r.result)

/-- The call of the round is made when the variable is bound to the element. -/
structure IsFor (authorization : Option String) (s : Step) (name element : String)
    (r : Round) : Prop where
  bound : r.start.store.get? name = some (.text element)
  call : r.call = s.call r.start.store authorization
  out : r.out = settle s r.call r.result (r.start.record (.calling r.call))

end Round

/-- An iteration over elements consists of these rounds. Each starts where the one before has
ended, but for the variable, and the first that fails is the last. -/
inductive Rounds (authorization : Option String) (s : Step) (name : String) :
    List String → Progress → List Round → Outcome → Prop where
  | done {p : Progress} : Rounds authorization s name [] p [] (none, p)
  | next {element : String} {rest : List String} {p q : Progress} {r : Round}
      {rounds : List Round} {out : Outcome} :
      r.start = p.bind name (.text element) → r.IsFor authorization s name element →
      r.out = (none, q) → Rounds authorization s name rest q rounds out →
        Rounds authorization s name (element :: rest) p (r :: rounds) out
  | failed {element : String} {rest : List String} {p q : Progress} {r : Round}
      {failure : Failure} :
      r.start = p.bind name (.text element) → r.IsFor authorization s name element →
      r.out = (some failure, q) →
        Rounds authorization s name (element :: rest) p [r] (some failure, q)

variable {authorization : Option String} {s : Step} {p q : Progress} {name element : String}
  {elements : List String} {log : List (Call × CallResult)} {out : Outcome}
  {rounds : List Round} {r : Round}

/-- A call that is made when the variable has just been bound is a round. -/
theorem exists_round_iff :
    (execute authorization s (p.bind name (.text element))).Plays log out ↔
      ∃ r : Round, r.start = p.bind name (.text element) ∧
        r.IsFor authorization s name element ∧ r.out = out ∧ log = [r.exchange] := by
  rw [plays_execute_iff]
  constructor
  · rintro ⟨result, rfl, rfl⟩
    refine ⟨⟨p.bind name (.text element), _, result, _⟩, rfl, ⟨?_, rfl, rfl⟩, rfl, rfl⟩
    rw [Progress.store_bind, Store.get?_bind, if_pos rfl]
  · rintro ⟨r, hstart, hfor, rfl, rfl⟩
    refine ⟨r.result, ?_, ?_⟩
    · rw [← hstart, ← hfor.call]
      rfl
    · rw [← hstart, ← hfor.call]
      exact hfor.out

/-- The calls of an iteration are those of its rounds, one each. -/
theorem plays_iterate_iff :
    (iterate authorization s name elements p).Plays log out ↔
      ∃ rounds, Rounds authorization s name elements p rounds out ∧
        log = rounds.map Round.exchange := by
  constructor
  · intro h
    induction elements generalizing p log with
    | nil =>
      obtain ⟨rfl, rfl⟩ := plays_iterate_nil_iff.1 h
      exact ⟨[], .done, rfl⟩
    | cons element rest ih =>
      rcases plays_iterate_cons_iff.1 h with
        ⟨failure, q, hx, rfl⟩ | ⟨before, after, q, rfl, hx, hi⟩
      · obtain ⟨r, hstart, hfor, hout, rfl⟩ := exists_round_iff.1 hx
        exact ⟨[r], .failed hstart hfor hout, rfl⟩
      · obtain ⟨r, hstart, hfor, hout, rfl⟩ := exists_round_iff.1 hx
        obtain ⟨rounds, hrounds, rfl⟩ := ih hi
        exact ⟨r :: rounds, .next hstart hfor hout hrounds, rfl⟩
  · rintro ⟨rounds, h, rfl⟩
    induction h with
    | done => exact plays_iterate_nil_iff.2 ⟨rfl, rfl⟩
    | next hstart hfor hout _ ih =>
      exact plays_iterate_cons_iff.2
        (.inr ⟨_, _, _, rfl, exists_round_iff.2 ⟨_, hstart, hfor, hout, rfl⟩, ih⟩)
    | failed hstart hfor hout =>
      exact plays_iterate_cons_iff.2
        (.inl ⟨_, _, exists_round_iff.2 ⟨_, hstart, hfor, hout, rfl⟩, rfl⟩)

namespace Rounds

/-- Which element a round is for is settled before the iteration begins. -/
theorem isFor_getElem? (h : Rounds authorization s name elements p rounds out) {k : Nat}
    (hk : rounds[k]? = some r) :
    ∃ element, elements[k]? = some element ∧ r.IsFor authorization s name element := by
  induction h generalizing k with
  | done => simp at hk
  | next _ hfor _ _ ih =>
    cases k with
    | zero =>
      cases hk
      exact ⟨_, rfl, hfor⟩
    | succ k => exact ih hk
  | failed _ hfor _ =>
    cases k with
    | zero =>
      cases hk
      exact ⟨_, rfl, hfor⟩
    | succ k => simp at hk

theorem of_all_through (h : Rounds authorization s name elements p rounds out)
    (hall : ∀ r ∈ rounds, r.out.1 = none) :
    out.1 = none ∧ rounds.length = elements.length := by
  induction h with
  | done => exact ⟨rfl, rfl⟩
  | next _ _ _ _ ih =>
    obtain ⟨hnone, hlength⟩ := ih fun r hr => hall r (List.mem_cons_of_mem _ hr)
    exact ⟨hnone, by rw [List.length_cons, List.length_cons, hlength]⟩
  | @failed _ _ _ _ r _ _ _ hout =>
    have hr := hall r List.mem_cons_self
    rw [hout] at hr
    cases hr

/-- No round comes after one that fails. -/
theorem of_failed (h : Rounds authorization s name elements p rounds out) {k : Nat}
    {failure : Failure} (hk : rounds[k]? = some r) (hfail : r.out.1 = some failure) :
    out.1 = some failure ∧ rounds.length = k + 1 := by
  induction h generalizing k with
  | done => simp at hk
  | next _ _ hout _ ih =>
    cases k with
    | zero =>
      cases hk
      rw [hout] at hfail
      cases hfail
    | succ k =>
      obtain ⟨hsome, hlength⟩ := ih hk
      exact ⟨hsome, by rw [List.length_cons, hlength]⟩
  | failed _ _ hout =>
    cases k with
    | zero =>
      cases hk
      rw [hout] at hfail
      exact ⟨hfail, rfl⟩
    | succ k => simp at hk

end Rounds

/-- A complete step comes to an end whatever is answered to its calls. If it is repeated for the
elements of a variable, the `k`-th call is made when the variable is bound to the `k`-th element of
the value that it has before the step, whatever the rounds bind. If all rounds go through, there is
one for each element, and none if there are no elements; a round that fails is the last. If the
variable is not bound before the step, one call is made, whatever is bound from its reply. -/
theorem iteration_goes_through_the_elements_at_its_start (authorization : Option String)
    (number : Nat) (s : Step) (p : Progress) (hcomplete : s.isComplete = true) :
    (∀ (σ : Type) (client : Call → σ → CallResult × σ) (state : σ), ∃ log,
      let played := (runStep authorization number s p).play client state
      Dialogue.Answered client state log played.2 ∧
      (runStep authorization number s p).Plays log played.1) ∧
    (∀ name value, s.loop? p.store = some (name, value) →
      ∀ log failure q, (runStep authorization number s p).Plays log (failure, q) →
        ∃ rounds last,
          Rounds authorization s name value.elements
            (p.record (.iterating name value.elements.length)) rounds (failure, last) ∧
          log = rounds.map Round.exchange ∧ q = last.bind name value ∧
          (∀ (k : Nat) (r : Round), rounds[k]? = some r →
            ∃ element, value.elements[k]? = some element ∧
              r.start.store.get? name = some (.text element) ∧
              r.call = s.call r.start.store authorization) ∧
          ((∀ r ∈ rounds, r.out.1 = none) →
            failure = none ∧ log.length = value.elements.length) ∧
          (value.elements = [] → failure = none ∧ log = []) ∧
          ∀ (k : Nat) (r : Round) (f : Failure), rounds[k]? = some r → r.out.1 = some f →
            failure = some f ∧ log.length = k + 1) ∧
    (∀ name, s.forEach = some name → p.store.get? name = none →
      ∀ log out, (runStep authorization number s p).Plays log out →
        ∃ result, log = [(s.call p.store authorization, result)] ∧
          out = settle s (s.call p.store authorization) result
            (p.record (.calling (s.call p.store authorization)))) := by
  refine ⟨?_, ?_, ?_⟩
  · intro σ client state
    exact Dialogue.exists_plays_play _ client state
  · intro name value hloop log failure q h
    obtain ⟨_, hstep⟩ | ⟨hincomplete, _⟩ := plays_runStep_iff.1 h
    · obtain ⟨hnone, _⟩ | ⟨name', value', hloop', failure', last, hi, hout⟩ :=
        plays_runComplete_iff.1 hstep
      · rw [hloop] at hnone
        cases hnone
      · rw [hloop] at hloop'
        cases hloop'
        cases hout
        obtain ⟨rounds, hrounds, rfl⟩ := plays_iterate_iff.1 hi
        refine ⟨rounds, last, hrounds, rfl, rfl, ?_, ?_, ?_, ?_⟩
        · intro k r hk
          obtain ⟨element, helement, hfor⟩ := hrounds.isFor_getElem? hk
          exact ⟨element, helement, hfor.bound, hfor.call⟩
        · intro hall
          rw [List.length_map]
          exact hrounds.of_all_through hall
        · intro hempty
          rw [hempty] at hrounds
          cases hrounds
          exact ⟨rfl, rfl⟩
        · intro k r f hk hfail
          rw [List.length_map]
          exact hrounds.of_failed hk hfail
    · rw [hcomplete] at hincomplete
      cases hincomplete
  · intro name hname hunbound log out h
    have hloop : s.loop? p.store = none := by
      simp [Step.loop?, hname, hunbound]
    obtain ⟨_, hstep⟩ | ⟨hincomplete, _⟩ := plays_runStep_iff.1 h
    · obtain ⟨_, hx⟩ | ⟨name', value', hloop', _⟩ := plays_runComplete_iff.1 hstep
      · exact plays_execute_iff.1 hx
      · rw [hloop] at hloop'
        cases hloop'
    · rw [hcomplete] at hincomplete
      cases hincomplete

/-- The first round binds the variable of the iteration to a longer list: the second is still for
the second element of the old one, there is no third, and the variable gets the old list back.
Where the variable is not bound before, the same reply makes it a list after one call. -/
theorem rebinding_the_variable_adds_no_round :
    let step : Step :=
      ⟨some "get", some "/items/\x7bids\x7d", none, some [("ids", "id[*]")], some "ids"⟩
    let p := Progress.start.bind "ids" (.list ["1", "2"])
    let longer : CallResult := .ok ⟨200, "\x7b\"id\": [\"7\", \"8\", \"9\"]\x7d", ""⟩
    step.isComplete = true ∧ step.loop? p.store = some ("ids", .list ["1", "2"]) ∧
    (∃ log q rounds, ∃ first second : Round, (runStep none 1 step p).Plays log (none, q) ∧
      log = rounds.map Round.exchange ∧ rounds = [first, second] ∧ first.result = longer ∧
      first.out.2.store.get? "ids" = some (.list ["7", "8", "9"]) ∧
      second.start.store.get? "ids" = some (.text "2") ∧ second.call.url = "/items/2" ∧
      q.store.get? "ids" = some (.list ["1", "2"])) ∧
    step.forEach = some "ids" ∧ Progress.start.store.get? "ids" = none ∧
    ∃ log q, (runStep none 1 step .start).Plays log (none, q) ∧ log.length = 1 ∧
      q.store.get? "ids" = some (.list ["7", "8", "9"]) := by
  intro step p longer
  have heval : ((runStep none 1 step p).against [longer, .ok ⟨200, "\x7b\x7d", ""⟩]).map
      (fun played => (played.1.map fun exchange => (exchange.1.url, exchange.2), played.2.1,
        played.2.2.store.get? "ids")) =
      some ([("/items/1", longer), ("/items/2", .ok ⟨200, "\x7b\x7d", ""⟩)], none,
        some (.list ["1", "2"])) := by
    cbv
  obtain ⟨⟨log, failure, q⟩, hagainst, he⟩ := Option.map_eq_some_iff.1 heval
  simp only [Prod.mk.injEq] at he
  obtain ⟨hlog, rfl, hback⟩ := he
  have hplay := Dialogue.plays_of_against hagainst
  have hcomplete : step.isComplete = true := by decide
  have hloop : step.loop? p.store = some ("ids", .list ["1", "2"]) := by decide
  obtain ⟨_, hrepeated, _⟩ :=
    iteration_goes_through_the_elements_at_its_start none 1 step p hcomplete
  obtain ⟨rounds, last, hrounds, rfl, _, hfor, _⟩ := hrepeated _ _ hloop _ _ _ hplay
  rw [List.map_map] at hlog
  obtain ⟨first, _, rfl, hfirst, hlog⟩ := List.map_eq_cons_iff.1 hlog
  obtain ⟨second, rfl, hsecond⟩ := List.map_eq_singleton_iff.1 hlog
  have hresult : first.result = longer := (Prod.mk.inj hfirst).2
  have hbound : first.out.2.store.get? "ids" = some (.list ["7", "8", "9"]) := by
    cases hrounds with
    | next hstart hf _ _ =>
      rw [hf.out, hf.call, hresult, hstart]
      cbv
  obtain ⟨element, helement, htext, _⟩ := hfor 1 second rfl
  obtain rfl : "2" = element := Option.some.inj helement
  refine ⟨hcomplete, hloop, ⟨_, q, _, first, second, hplay, rfl, rfl, hresult, hbound, htext,
    (Prod.mk.inj hsecond).1, hback⟩, rfl, rfl, ?_⟩
  have heval : ((runStep none 1 step .start).against [longer]).map
      (fun played => (played.2.1, played.2.2.store.get? "ids")) =
      some (none, some (.list ["7", "8", "9"])) := by
    cbv
  obtain ⟨⟨log, failure, q⟩, hagainst, he⟩ := Option.map_eq_some_iff.1 heval
  obtain ⟨rfl, hlist⟩ := Prod.mk.inj he
  have hplay := Dialogue.plays_of_against hagainst
  obtain ⟨_, _, honce⟩ :=
    iteration_goes_through_the_elements_at_its_start none 1 step .start hcomplete
  obtain ⟨result, rfl, _⟩ := honce "ids" rfl rfl _ _ hplay
  exact ⟨_, q, hplay, rfl, hlist⟩

end RequestChain.Run
