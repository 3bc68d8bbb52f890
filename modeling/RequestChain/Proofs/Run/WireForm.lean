import RequestChain.Proofs.Dialogue.Simulation
import RequestChain.Proofs.Run.Plays
import RequestChain.Proofs.Variable.WireForm

namespace RequestChain.Run

/-- The same has happened, and the variables have the same names and wire texts in the same
order. -/
structure WireEq (p q : Progress) : Prop where
  scope : p.store.scope = q.store.scope
  events : p.events = q.events

def OutcomeWireEq (out out' : Outcome) : Prop := out.1 = out'.1 ∧ WireEq out.2 out'.2

namespace WireEq

variable {p q : Progress}

theorem record (h : WireEq p q) (e : Event) : WireEq (p.record e) (q.record e) :=
  ⟨h.scope, by rw [Progress.events_record, Progress.events_record, h.events]⟩

theorem bind (h : WireEq p q) {v w : Bound} (hw : v.wire = w.wire) (name : String) :
    WireEq (p.bind name v) (q.bind name w) :=
  ⟨Store.scope_bind_eq h.scope hw name, h.events⟩

/-- A call is rendered from the wire texts alone. -/
theorem call_eq (h : WireEq p q) (s : Step) (authorization : Option String) :
    s.call p.store authorization = s.call q.store authorization := by
  simp only [Step.call, Step.scopes, h.scope]

theorem pathOf_eq (h : WireEq p q) (call : Call) (expression : String) :
    pathOf call expression p.store = pathOf call expression q.store := by
  rw [pathOf, pathOf, h.scope]

theorem selected_eq (h : WireEq p q) (call : Call) (document : Except ExtractionError Json)
    (expression : String) :
    selected call document expression p.store = selected call document expression q.store := by
  rw [selected, selected, h.pathOf_eq]

/-- What a merge makes of a value depends on its wire text alone. -/
theorem merged_eq (h : WireEq p q) (repeats : Bool) (name : String) (values : List Json) :
    merged repeats name values p.store = merged repeats name values q.store :=
  Bound.merge_eq_of_wire_eq (Store.get?_wire_eq h.scope name) _ _

theorem report_eq (h : WireEq p q) (request : Request) : report request p = report request q := by
  rw [report, report, h.scope, h.events]

end WireEq

variable {p q : Progress} {authorization : Option String} {s : Step}

theorem bindReturns_wireEq (call : Call) (repeats : Bool)
    (document : Except ExtractionError Json) (entries : List (String × String))
    (h : WireEq p q) :
    OutcomeWireEq (bindReturns call repeats document entries p)
      (bindReturns call repeats document entries q) := by
  induction entries generalizing p q with
  | nil => exact ⟨rfl, h⟩
  | cons entry rest ih =>
    obtain ⟨name, expression⟩ := entry
    rw [bindReturns_cons, bindReturns_cons, ← h.selected_eq, ← h.pathOf_eq]
    split
    · exact ⟨rfl, h.record _⟩
    · exact ih (h.record _)
    · rename_i v vs _
      rw [← h.merged_eq repeats name (v :: vs)]
      exact ih ((h.bind rfl name).record _)

theorem settle_wireEq (call : Call) (result : CallResult) (h : WireEq p q) :
    OutcomeWireEq (settle s call result p) (settle s call result q) := by
  cases result with
  | error message => exact ⟨rfl, h.record _⟩
  | ok reply =>
    cases hs : Reply.isSuccess reply.status with
    | false =>
      rw [settle_refused hs, settle_refused hs]
      exact ⟨rfl, h.record _⟩
    | true =>
      rw [settle_accepted hs, settle_accepted hs]
      exact bindReturns_wireEq _ _ _ _ (h.record _)

theorem execute_simulates (h : WireEq p q) :
    Dialogue.Simulates Eq OutcomeWireEq (execute authorization s p)
      (execute authorization s q) := by
  rw [execute, execute, ← h.call_eq]
  exact .ask rfl fun result => .done (settle_wireEq _ result (h.record _))

/-- Turn by turn both iterations make the same call and stay without a difference. -/
theorem iterate_simulates {name : String} {elements : List String} (h : WireEq p q) :
    Dialogue.Simulates Eq OutcomeWireEq (iterate authorization s name elements p)
      (iterate authorization s name elements q) := by
  induction elements generalizing p q with
  | nil => exact .done ⟨rfl, h⟩
  | cons element rest ih =>
    refine (execute_simulates (h.bind rfl name)).bind ?_
    rintro ⟨failure, p'⟩ ⟨_, q'⟩ ⟨rfl, h'⟩
    cases failure with
    | some failure => exact .done ⟨rfl, h'⟩
    | none => exact ih h'

/-- A step is repeated from both stores or from neither, for the same elements. -/
theorem WireEq.loop?_eq (h : WireEq p q) (s : Step) :
    (s.loop? p.store).map (fun e => (e.1, e.2.wire)) =
      (s.loop? q.store).map fun e => (e.1, e.2.wire) := by
  cases hf : s.forEach with
  | none => simp [Step.loop?, hf]
  | some name =>
    by_cases he : name = ""
    · simp [Step.loop?, hf, he]
    · have hw := Store.get?_wire_eq h.scope name
      have hpair : ∀ o : Option Bound, (o.map fun v => (name, v)).map (fun e => (e.1, e.2.wire)) =
          (o.map Bound.wire).map fun wire => (name, wire) := by
        intro o
        cases o <;> rfl
      simp only [Step.loop?, hf, Option.bind_some, if_neg he, hpair, hw]

theorem runComplete_simulates (h : WireEq p q) :
    Dialogue.Simulates Eq OutcomeWireEq (runComplete authorization s p)
      (runComplete authorization s q) := by
  have hloop := h.loop?_eq s
  unfold runComplete
  cases hp : s.loop? p.store with
  | none =>
    rw [hp] at hloop
    rw [Option.map_eq_none_iff.1 hloop.symm]
    exact execute_simulates h
  | some loop =>
    obtain ⟨name, v⟩ := loop
    rw [hp] at hloop
    obtain ⟨⟨_, w⟩, hq, he⟩ := Option.map_eq_some_iff.1 hloop.symm
    obtain ⟨rfl, hw⟩ := Prod.mk.inj he
    rw [hq]
    dsimp only at hw ⊢
    rw [Bound.elements_eq_of_wire_eq hw]
    refine (iterate_simulates (h.record _)).map ?_
    rintro ⟨failure, p'⟩ ⟨_, q'⟩ ⟨rfl, h'⟩
    exact ⟨rfl, h'.bind hw.symm _⟩

theorem runStep_simulates {number : Nat} (h : WireEq p q) :
    Dialogue.Simulates Eq OutcomeWireEq (runStep authorization number s p)
      (runStep authorization number s q) := by
  unfold runStep
  split
  · exact runComplete_simulates h
  · exact .done ⟨rfl, h.record _⟩

theorem stop_wireEq (number : Nat) (failure : Failure) (h : WireEq p q) :
    WireEq (stop number failure p) (stop number failure q) := by
  unfold stop
  split
  · exact h
  · exact h.record _

theorem runSteps_simulates {number : Nat} {steps : List Step} (h : WireEq p q) :
    Dialogue.Simulates Eq OutcomeWireEq (runSteps authorization number steps p)
      (runSteps authorization number steps q) := by
  induction steps generalizing p q number with
  | nil => exact .done ⟨rfl, h⟩
  | cons step rest ih =>
    refine (runStep_simulates h).bind ?_
    rintro ⟨failure, p'⟩ ⟨_, q'⟩ ⟨rfl, h'⟩
    cases failure with
    | some failure => exact .done ⟨rfl, stop_wireEq number failure h'⟩
    | none => exact ih h'

/-- A step iterates the same elements of the same variable from both stores, or is not repeated
from either. -/
theorem WireEq.elements_eq (h : WireEq p q) (s : Step) :
    (s.loop? p.store).map (fun loop => (loop.1, loop.2.elements)) =
      (s.loop? q.store).map fun loop => (loop.1, loop.2.elements) := by
  have hloop := h.loop?_eq s
  cases hp : s.loop? p.store with
  | none =>
    rw [hp] at hloop
    rw [Option.map_eq_none_iff.1 hloop.symm]
  | some loop =>
    rw [hp] at hloop
    obtain ⟨other, hq, he⟩ := Option.map_eq_some_iff.1 hloop.symm
    obtain ⟨hname, hwire⟩ := Prod.mk.inj he
    rw [hq, Option.map_some, Option.map_some, hname, Bound.elements_eq_of_wire_eq hwire]

/-- The same answers lead from progress that shows no difference to progress that shows none. -/
theorem runSteps_wireEq {number : Nat} {steps : List Step} {log log' : List (Call × CallResult)}
    {failure failure' : Option Failure} {p' q' : Progress} (h : WireEq p q)
    (hp : (runSteps authorization number steps p).Plays log (failure, p'))
    (hq : (runSteps authorization number steps q).Plays log' (failure', q'))
    (ha : log.map Prod.snd <+: log'.map Prod.snd) :
    log' = log ∧ failure' = failure ∧ WireEq p' q' := by
  obtain ⟨_, hend, rfl, hw⟩ := (runSteps_simulates h).exists_plays hp
  obtain ⟨rfl, he⟩ := hend.unique hq ha
  obtain ⟨rfl, rfl⟩ := Prod.mk.inj he
  exact ⟨rfl, rfl, hw⟩

/-- Two stores of equal wire form cannot be told apart by running steps from them. When the steps
before a step have gone through on the same answers, the step iterates the same elements. Whatever
is answered to the steps from the one store, the steps from the other make the same calls when they
get the same answers; they fail alike, record the same events, and end in stores of equal wire
form, so that every request is answered with the same text. -/
theorem wire_form_is_all_that_shows (authorization : Option String) (number : Nat)
    (steps : List Step) (events : List Event) (s t : Store) (h : s.scope = t.scope) :
    (∀ before step after, steps = before ++ step :: after → ∀ log p q,
      (runSteps authorization number before ⟨s, events⟩).Plays log (none, p) →
      (runSteps authorization number before ⟨t, events⟩).Plays log (none, q) →
        (step.loop? p.store).map (fun loop => (loop.1, loop.2.elements)) =
          (step.loop? q.store).map fun loop => (loop.1, loop.2.elements)) ∧
    ∀ log failure p, (runSteps authorization number steps ⟨s, events⟩).Plays log (failure, p) →
      (∃ q, (runSteps authorization number steps ⟨t, events⟩).Plays log (failure, q)) ∧
      ∀ log' failure' q,
        (runSteps authorization number steps ⟨t, events⟩).Plays log' (failure', q) →
        log.map Prod.snd <+: log'.map Prod.snd →
          log' = log ∧ failure' = failure ∧ q.events = p.events ∧
          q.store.scope = p.store.scope ∧ ∀ request, report request q = report request p := by
  have hstart : WireEq ⟨s, events⟩ ⟨t, events⟩ := ⟨h, rfl⟩
  refine ⟨?_, ?_⟩
  · intro before step _ _ log p q hp hq
    exact (runSteps_wireEq hstart hp hq List.prefix_rfl).2.2.elements_eq step
  · intro log failure p hp
    refine ⟨?_, ?_⟩
    · obtain ⟨⟨_, q⟩, hq, rfl, _⟩ := (runSteps_simulates hstart).exists_plays hp
      exact ⟨q, hq⟩
    · intro log' failure' q hq ha
      obtain ⟨hlog, hfailure, hw⟩ := runSteps_wireEq hstart hp hq ha
      exact ⟨hlog, hfailure, hw.events.symm, hw.scope.symm,
        fun request => (hw.report_eq request).symm⟩

/-- A list and the text that it is written as lead to the same two calls. -/
theorem list_and_its_text_make_the_same_calls :
    let step : Step := ⟨some "get", some "/items/\x7bids\x7d", none, none, some "ids"⟩
    let listed := Store.empty.bind "ids" (.list ["7", "\""])
    let written := Store.empty.bind "ids" (.text "[\"7\", \"\\\"\"]")
    let log : List (Call × CallResult) :=
      [(⟨"GET", "/items/7", .null, none⟩, .ok ⟨200, "", ""⟩),
        (⟨"GET", "/items/\"", .null, none⟩, .ok ⟨204, "", ""⟩)]
    listed.scope = written.scope ∧ ∃ p q,
      (runSteps none 1 [step] ⟨listed, []⟩).Plays log (none, p) ∧
      (runSteps none 1 [step] ⟨written, []⟩).Plays log (none, q) ∧
      q.events = p.events ∧ q.store.scope = p.store.scope := by
  intro step listed written log
  have hscope : listed.scope = written.scope := by decide +kernel
  have h7 : step.call (listed.bind "ids" (.text "7")) none = ⟨"GET", "/items/7", .null, none⟩ := by
    decide +kernel
  have hquote : step.call ((listed.bind "ids" (.text "7")).bind "ids" (.text "\"")) none =
      ⟨"GET", "/items/\"", .null, none⟩ := by
    decide +kernel
  have hp : ∃ p, (runSteps none 1 [step] ⟨listed, []⟩).Plays log (none, p) := by
    simp only [log, ← h7, ← hquote]
    exact ⟨_, .ask (.ask (.done _))⟩
  obtain ⟨p, hp⟩ := hp
  obtain ⟨⟨q, hq⟩, hall⟩ :=
    (wire_form_is_all_that_shows none 1 [step] [] listed written hscope).2 log none p hp
  obtain ⟨_, _, he, hs, _⟩ := hall log none q hq List.prefix_rfl
  exact ⟨hscope, p, q, hp, hq, he, hs⟩

end RequestChain.Run
