import Mathlib
import RequestChain.Proofs.Run.Content
import RequestChain.Proofs.Run.Executed

namespace RequestChain.Run

/-- The entry at the place `k` is the first that cannot be evaluated, for its expression or for the
document: the entries before it go through and lead to `q`. -/
structure StopsAt (call : Call) (repeats : Bool) (document : Except ExtractionError Json)
    (entries : List (String × String)) (p : Progress) (k : Nat) (q : Progress) : Prop where
  before : bindReturns call repeats document (entries.take k) p = (none, q)
  unevaluated : ∃ name expression error, entries[k]? = some (name, expression) ∧
    selected call document expression q.store = .error error

/-- With this result a call fails its step, and these variables are left. -/
inductive Leaves (s : Step) (call : Call) (p : Progress) : CallResult → Store → Prop where
  | raised {message : String} : Leaves s call p (.error message) p.store
  | refused {reply : Reply} :
      Reply.isSuccess reply.status = false → Leaves s call p (.ok reply) p.store
  | unevaluated {reply : Reply} {k : Nat} {q : Progress} :
      Reply.isSuccess reply.status = true →
      StopsAt call s.repeats (Selection.document reply.text) (s.returns.getD [])
        (p.record (.replied call reply)) k q →
        Leaves s call p (.ok reply) q.store

/-- An iteration over elements fails in the turn at the place `j`: the turns before it go through
and lead to `last`, where its element is bound, and its call leaves the variables. -/
inductive FailsIn (authorization : Option String) (s : Step) (name : String)
    (elements : List String) (p : Progress) (j : Nat) :
    List (Call × CallResult) → Store → Prop where
  | turn {element : String} {before : List (Call × CallResult)} {last start : Progress}
      {call : Call} {result : CallResult} {store : Store} :
      elements[j]? = some element →
      (iterate authorization s name (elements.take j) p).Plays before (none, last) →
      start = last.bind name (.text element) → call = s.call start.store authorization →
      Leaves s call (start.record (.calling call)) result store →
        FailsIn authorization s name elements p j (before ++ [(call, result)]) store

variable {authorization : Option String} {s : Step} {p q : Progress} {name : String}
  {log : List (Call × CallResult)} {call : Call} {repeats : Bool}
  {document : Except ExtractionError Json} {entries : List (String × String)}
  {failure : Failure} {out : Outcome}

/-- After entries that go through the others are evaluated as if they were alone. -/
theorem bindReturns_append {first : List (String × String)} (rest : List (String × String))
    (h : bindReturns call repeats document first p = (none, q)) :
    bindReturns call repeats document (first ++ rest) p =
      bindReturns call repeats document rest q := by
  induction first generalizing p with
  | nil =>
    cases h
    rfl
  | cons entry first ih =>
    obtain ⟨name, expression⟩ := entry
    rw [bindReturns_cons] at h
    rw [List.cons_append, bindReturns_cons]
    split at h
    · cases h
    · exact ih h
    · exact ih h

/-- The entry that cannot be evaluated binds nothing, and neither do those after it. -/
theorem StopsAt.bindReturns_eq {k : Nat} (h : StopsAt call repeats document entries p k q) :
    ∃ failure path error, bindReturns call repeats document entries p =
      (some failure, q.record (.unevaluated call path error)) := by
  obtain ⟨name, expression, error, hentry, herror⟩ := h.unevaluated
  obtain ⟨hlt, hget⟩ := List.getElem?_eq_some_iff.1 hentry
  have hsplit : entries.take k ++ (name, expression) :: entries.drop (k + 1) = entries := by
    rw [← hget, ← List.drop_eq_getElem_cons hlt, List.take_append_drop]
  have hrest := bindReturns_append ((name, expression) :: entries.drop (k + 1)) h.before
  rw [hsplit, bindReturns_cons, herror] at hrest
  exact ⟨_, _, _, hrest⟩

/-- Entries that fail do so at a first entry, and leave what the entries before it have bound. -/
theorem exists_stopsAt (h : bindReturns call repeats document entries p = (some failure, q)) :
    ∃ k before, StopsAt call repeats document entries p k before ∧ q.store = before.store := by
  induction entries generalizing p with
  | nil => cases h
  | cons entry rest ih =>
    obtain ⟨name, expression⟩ := entry
    rw [bindReturns_cons] at h
    split at h
    · rename_i error herror
      cases h
      exact ⟨0, p, ⟨rfl, name, expression, error, rfl, herror⟩, rfl⟩
    · rename_i hnone
      obtain ⟨k, before, hstops, hstore⟩ := ih h
      refine ⟨k + 1, before, ⟨?_, hstops.unevaluated⟩, hstore⟩
      rw [List.take_succ_cons, bindReturns_cons, hnone]
      exact hstops.before
    · rename_i v vs hsome
      obtain ⟨k, before, hstops, hstore⟩ := ih h
      refine ⟨k + 1, before, ⟨?_, hstops.unevaluated⟩, hstore⟩
      rw [List.take_succ_cons, bindReturns_cons, hsome]
      exact hstops.before

/-- A call fails its step in one of three ways, and each decides what is left. -/
theorem leaves_iff {result : CallResult} {store : Store} :
    Leaves s call p result store ↔
      ∃ failure q, settle s call result p = (some failure, q) ∧ q.store = store := by
  constructor
  · intro h
    cases h with
    | raised => exact ⟨_, _, settle_error s call _ p, rfl⟩
    | refused hs => exact ⟨_, _, settle_refused hs, rfl⟩
    | unevaluated hs hstops =>
      obtain ⟨failure, path, error, he⟩ := hstops.bindReturns_eq
      exact ⟨failure, _, (settle_accepted hs).trans he, rfl⟩
  · rintro ⟨failure, q, h, rfl⟩
    cases result with
    | error message =>
      cases h
      exact .raised
    | ok reply =>
      cases hs : Reply.isSuccess reply.status with
      | false =>
        rw [settle_refused hs] at h
        cases h
        exact .refused hs
      | true =>
        rw [settle_accepted hs] at h
        obtain ⟨k, before, hstops, hstore⟩ := exists_stopsAt h
        rw [hstore]
        exact .unevaluated hs hstops

/-- An iteration that fails does so in a first turn. -/
theorem exists_failsIn {elements : List String}
    (h : (iterate authorization s name elements p).Plays log (some failure, q)) :
    ∃ j, FailsIn authorization s name elements p j log q.store := by
  induction elements generalizing p log with
  | nil =>
    obtain ⟨_, he⟩ := plays_iterate_nil_iff.1 h
    cases he
  | cons element rest ih =>
    rcases plays_iterate_cons_iff.1 h with
      ⟨_, _, hx, he⟩ | ⟨before, after, middle, rfl, hx, hi⟩
    · cases he
      obtain ⟨result, rfl, hsettle⟩ := plays_execute_iff.1 hx
      have hleaves := leaves_iff.2 ⟨_, _, hsettle.symm, rfl⟩
      have hnone : (iterate authorization s name ((element :: rest).take 0) p).Plays []
          (none, p) := .done _
      exact ⟨0, .turn rfl hnone rfl rfl hleaves⟩
    · obtain ⟨j, hj⟩ := ih hi
      cases hj with
      | turn hget hplays hstart hcall hleaves =>
        refine ⟨j + 1, ?_⟩
        rw [← List.append_assoc]
        refine .turn hget ?_ hstart hcall hleaves
        exact plays_iterate_cons_iff.2 (.inr ⟨_, _, _, rfl, hx, hplays⟩)

/-- The answer to a run that ends with a step is made from the variables that the step leaves. -/
theorem Executes.answer {request : Request} {header : Option String} {answer : Answer}
    (hstep : Executes (Authorization.forwarded header) 1 (request.steps.getD []) .start log s p
      (some failure, q))
    (hrun : (request.run header).Plays log answer) :
    ∃ last : Progress, answer.status = failure.status ∧
      (runRequest request (Authorization.forwarded header)).Plays log (answer.status, last) ∧
      answer.content = preface request.debug last.events ++
        (Report.body request.response q.store.scope ++ "\n") := by
  obtain ⟨last, hlast, hcontent, _⟩ := Request.plays_run_iff.1 hrun
  rcases plays_runRequest_iff.1 hlast with ⟨hnone, _⟩ | ⟨_, ending, hsteps, hstatus⟩
  · -- a request without steps executes none
    have hmem := hstep.mem
    rw [hnone] at hmem
    cases hmem
  · obtain ⟨hending, hstore⟩ := hstep.stops hsteps
    dsimp only at hending hstore
    subst hending
    refine ⟨last, hstatus, hlast, ?_⟩
    rw [hcontent, report_text, hstore]

/-- What is bound when a step fails. An incomplete step changes nothing. A step that makes one call
fails exactly if the call raises, is refused, or is accepted with an entry that cannot be evaluated:
the variables are those from before the step, or those that the entries before the first such entry
lead to. A step that iterates and fails does so in one of its turns: the variables are those that
the turns before it lead to, with what its own call leaves, and the variable of the iteration has
the value from before the step. If the run ends with the step, the body of its answer is made from
these variables. -/
theorem failing_step_leaves_what_was_bound_before (authorization : Option String) (number : Nat)
    (s : Step) (p : Progress) :
    (∀ (σ : Type) (client : Call → σ → CallResult × σ) (state : σ), ∃ log,
      let played := (runStep authorization number s p).play client state
      Dialogue.Answered client state log played.2 ∧
      (runStep authorization number s p).Plays log played.1) ∧
    (s.isComplete = false → ∀ log ending q,
      (runStep authorization number s p).Plays log (ending, q) →
        ending ≠ none ∧ log = [] ∧ q.store = p.store) ∧
    (s.isComplete = true → s.loop? p.store = none → ∀ log ending q,
      (runStep authorization number s p).Plays log (ending, q) →
        ∃ result, log = [(s.call p.store authorization, result)] ∧
          ∀ store, ending ≠ none ∧ q.store = store ↔
            Leaves s (s.call p.store authorization)
              (p.record (.calling (s.call p.store authorization))) result store) ∧
    (∀ name value, s.isComplete = true → s.loop? p.store = some (name, value) → ∀ log failure q,
      (runStep authorization number s p).Plays log (some failure, q) →
        ∃ j store, FailsIn authorization s name value.elements
            (p.record (.iterating name value.elements.length)) j log store ∧
          q.store = store.bind name value) ∧
    ∀ request header log answer failure q, (Request.run request header).Plays log answer →
      Executes (Authorization.forwarded header) 1 (request.steps.getD []) .start log s p
        (some failure, q) →
      ∃ last : Progress, answer.status = failure.status ∧
        (runRequest request (Authorization.forwarded header)).Plays log (answer.status, last) ∧
        answer.content = preface request.debug last.events ++
          (Report.body request.response q.store.scope ++ "\n") := by
  refine ⟨?_, ?_, ?_, ?_, ?_⟩
  · intro σ client state
    exact Dialogue.exists_plays_play _ client state
  · intro hincomplete log ending q h
    obtain ⟨hcomplete, _⟩ | ⟨_, rfl, hout⟩ := plays_runStep_iff.1 h
    · rw [hincomplete] at hcomplete
      cases hcomplete
    · cases hout
      exact ⟨Option.some_ne_none _, rfl, rfl⟩
  · intro hcomplete hloop log ending q h
    obtain ⟨_, hstep⟩ | ⟨hincomplete, _⟩ := plays_runStep_iff.1 h
    · obtain ⟨_, hx⟩ | ⟨name, value, hloop', _⟩ := plays_runComplete_iff.1 hstep
      · obtain ⟨result, rfl, hsettle⟩ := plays_execute_iff.1 hx
        refine ⟨result, rfl, fun store => ?_⟩
        rw [leaves_iff, ← hsettle]
        cases ending <;> simp
      · rw [hloop] at hloop'
        cases hloop'
    · rw [hcomplete] at hincomplete
      cases hincomplete
  · intro name value hcomplete hloop log failure q h
    obtain ⟨_, hstep⟩ | ⟨hincomplete, _⟩ := plays_runStep_iff.1 h
    · obtain ⟨hnone, _⟩ | ⟨name', value', hloop', _, q', hi, hout⟩ :=
        plays_runComplete_iff.1 hstep
      · rw [hloop] at hnone
        cases hnone
      · rw [hloop] at hloop'
        cases hloop'
        cases hout
        obtain ⟨j, hj⟩ := exists_failsIn hi
        exact ⟨j, q'.store, hj, rfl⟩
    · rw [hcomplete] at hincomplete
      cases hincomplete
  · intro request header log answer failure q hrun hstep
    exact hstep.answer hrun

/-- Of three entries the second cannot be evaluated, so the run ends and shows what the first has
bound. In an iteration the second call raises: what the first turn has bound is left. A step without
an endpoint leaves nothing. -/
theorem entry_before_the_failing_one_is_shown :
    let once : Step :=
      ⟨some "get", some "/x", none, some [("a", "a"), ("b", "["), ("c", "a")], none⟩
    let request : Request := ⟨some [once], .null, false⟩
    let step : Step :=
      ⟨some "get", some "/items/\x7bids\x7d", none, some [("v", "v")], some "ids"⟩
    let value := Bound.list ["1", "2"]
    let p := Progress.start.bind "ids" value
    let partly : Step := ⟨some "get", none, none, some [("a", "a")], none⟩
    (∃ log answer failure q result, (request.run none).Plays log answer ∧
      Executes none 1 [once] .start log once .start (some failure, q) ∧
      once.isComplete = true ∧ once.loop? .empty = none ∧
      Leaves once (once.call .empty none)
        (Progress.start.record (.calling (once.call .empty none))) result q.store ∧
      q.store.scope = [("a", "1")] ∧
      ∃ last : Progress, answer.status = failure.status ∧ answer.content =
        preface false last.events ++ (Report.body .null q.store.scope ++ "\n")) ∧
    (∃ log failure q, (runStep none 1 step p).Plays log (some failure, q) ∧
      step.isComplete = true ∧ step.loop? p.store = some ("ids", value) ∧
      (∃ j store, FailsIn none step "ids" value.elements (p.record (.iterating "ids" 2)) j log
        store ∧ q.store = store.bind "ids" value) ∧
      q.store.scope = [("ids", "[\"1\", \"2\"]"), ("v", "x")]) ∧
    partly.isComplete = false ∧ ∃ log ending q,
      (runStep none 1 partly .start).Plays log (ending, q) ∧ q.store = .empty := by
  intro once request step value p partly
  refine ⟨?_, ?_, by decide, ?_⟩
  · let call := once.call .empty none
    let reply : Reply := ⟨200, "\x7b\"a\": 1\x7d", ""⟩
    let start := Progress.start.record (.calling call)
    have hfirst : ∃ first : Progress,
        bindReturns call false (Selection.document reply.text) [("a", "a")]
          (start.record (.replied call reply)) = (none, first) ∧
        first.store.scope = [("a", "1")] ∧
        selected call (Selection.document reply.text) "[" first.store =
          .error (.path .unexpected) := by
      have hthrough : (bindReturns call false (Selection.document reply.text) [("a", "a")]
          (start.record (.replied call reply))).1.isNone = true := by cbv
      exact ⟨_, Prod.ext (Option.isNone_iff_eq_none.1 hthrough) rfl, by cbv, by cbv⟩
    obtain ⟨first, hthrough, hscope, herror⟩ := hfirst
    have hstops : StopsAt call once.repeats (Selection.document reply.text)
        (once.returns.getD []) (start.record (.replied call reply)) 1 first :=
      ⟨hthrough, "b", "[", _, rfl, herror⟩
    have hleft : Leaves once call start (.ok reply) first.store := .unevaluated rfl hstops
    obtain ⟨failure, q, hsettle, hstore⟩ := leaves_iff.1 hleft
    have hcomplete : once.isComplete = true := by decide
    have hplay : (runStep none 1 once .start).Plays [(call, .ok reply)] (some failure, q) :=
      plays_runStep_of_settle hcomplete rfl hsettle
    have hsteps : (runSteps (Authorization.forwarded none) 1 (request.steps.getD []) .start).Plays
        [(call, .ok reply)] (some failure, stop 1 failure q) :=
      plays_runSteps_cons_iff.2 (.inl ⟨failure, q, hplay, rfl⟩)
    obtain ⟨answer, hrun, _⟩ := Request.exists_answer_of_failure hsteps
    have hexec : Executes none 1 [once] .start ([(call, .ok reply)] ++ []) once .start
        (some failure, q) := .here hplay
    obtain ⟨_, _, honce, _, hanswer⟩ :=
      failing_step_leaves_what_was_bound_before none 1 once .start
    obtain ⟨result, _, hleaves⟩ := honce hcomplete rfl _ _ q hplay
    obtain ⟨last, hstatus, _, hcontent⟩ := hanswer request none _ answer failure q hrun hexec
    exact ⟨_, answer, failure, q, result, hrun, hexec, hcomplete, rfl,
      (hleaves q.store).1 ⟨Option.some_ne_none _, rfl⟩, (congrArg Store.scope hstore).trans hscope,
      last, hstatus, hcontent⟩
  · have heval : ((runStep none 1 step p).against
        [.ok ⟨200, "\x7b\"v\": \"x\"\x7d", ""⟩, .error "down"]).map
        (fun played => (played.2.1, played.2.2.store.scope)) =
        some (some ⟨.unhandled, "down", none⟩, [("ids", "[\"1\", \"2\"]"), ("v", "x")]) := by
      cbv
    obtain ⟨⟨log, ending, q⟩, hagainst, he⟩ := Option.map_eq_some_iff.1 heval
    obtain ⟨rfl, hscope⟩ := Prod.mk.inj he
    have hplay := Dialogue.plays_of_against hagainst
    have hcomplete : step.isComplete = true := by decide
    have hloop : step.loop? p.store = some ("ids", value) := by decide
    obtain ⟨_, _, _, hturns, _⟩ := failing_step_leaves_what_was_bound_before none 1 step p
    obtain ⟨j, store, hfails, hback⟩ := hturns "ids" value hcomplete hloop log _ q hplay
    exact ⟨log, _, q, hplay, hcomplete, hloop, ⟨j, store, hfails, hback⟩, hscope⟩
  · obtain ⟨_, hincomplete, _⟩ := failing_step_leaves_what_was_bound_before none 1 partly .start
    have hplay : (runStep none 1 partly .start).Plays []
        (some ⟨.validation, Event.incompleteMessage 1, none⟩,
          Progress.start.record (.incomplete 1)) := plays_runStep_iff.2 (.inr ⟨rfl, rfl, rfl⟩)
    exact ⟨_, _, _, hplay, (hincomplete (by decide) _ _ _ hplay).2.2⟩

end RequestChain.Run
