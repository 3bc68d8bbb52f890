import RequestChain.Proofs.Dialogue.Plays
import RequestChain.Run.Basic

namespace RequestChain

theorem Step.loop?_eq_some_iff {s : Step} {store : Store} {name : String} {value : Bound} :
    s.loop? store = some (name, value) ↔
      s.forEach = some name ∧ name ≠ "" ∧ store.get? name = some value := by
  cases hf : s.forEach with
  | none => simp [Step.loop?, hf]
  | some other =>
    by_cases he : other = ""
    · simp only [Step.loop?, hf, he, Option.bind_some, ↓reduceIte, reduceCtorEq, false_iff]
      rintro ⟨hs, hn, _⟩
      exact hn (Option.some.inj hs).symm
    · simp only [Step.loop?, hf, he, Option.bind_some, ↓reduceIte, Option.map_eq_some_iff,
        Prod.mk.injEq, Option.some.injEq]
      constructor
      · rintro ⟨v, hv, rfl, rfl⟩
        exact ⟨rfl, he, hv⟩
      · rintro ⟨rfl, _, hv⟩
        exact ⟨value, hv, rfl, rfl⟩

namespace Progress

@[simp] theorem events_record (p : Progress) (e : Event) :
    (p.record e).events = p.events ++ [e] := rfl

@[simp] theorem store_record (p : Progress) (e : Event) : (p.record e).store = p.store := rfl

@[simp] theorem events_bind (p : Progress) (name : String) (value : Bound) :
    (p.bind name value).events = p.events := rfl

@[simp] theorem store_bind (p : Progress) (name : String) (value : Bound) :
    (p.bind name value).store = p.store.bind name value := rfl

end Progress

namespace Run

variable {authorization : Option String} {s : Step} {p : Progress}
  {log : List (Call × CallResult)} {out : Outcome}

theorem bindReturns_cons {call : Call} {repeats : Bool}
    {document : Except ExtractionError Json} {name expression : String}
    {rest : List (String × String)} :
    bindReturns call repeats document ((name, expression) :: rest) p =
      match selected call document expression p.store with
      | .error e =>
        (some ⟨.extraction,
            s!"could not evaluate {pathOf call expression p.store}: {e.message}", none⟩,
          p.record (.unevaluated call (pathOf call expression p.store) e))
      | .ok [] =>
        bindReturns call repeats document rest
          (p.record (.unmatched name (pathOf call expression p.store)))
      | .ok (v :: vs) =>
        bindReturns call repeats document rest
          ((p.bind name (merged repeats name (v :: vs) p.store)).record
            (.bound name (merged repeats name (v :: vs) p.store).wire)) := rfl

/-- Entries bind no other names than their own. -/
theorem get?_of_bindReturns {call : Call} {repeats : Bool}
    {document : Except ExtractionError Json} {name : String} {entries : List (String × String)}
    (hn : name ∉ Entries.names entries)
    (h : bindReturns call repeats document entries p = out) :
    out.2.store.get? name = p.store.get? name := by
  induction entries generalizing p with
  | nil => rw [← h, bindReturns]
  | cons entry rest ih =>
    obtain ⟨other, expression⟩ := entry
    simp only [Entries.names, List.map_cons, List.mem_cons, not_or] at hn
    rw [bindReturns_cons] at h
    split at h
    · rw [← h, Progress.store_record]
    · rw [ih hn.2 h, Progress.store_record]
    · rw [ih hn.2 h, Progress.store_record, Progress.store_bind, Store.get?_bind,
        if_neg fun he => hn.1 he.symm]

/-- Entries go through if the first does and the others do after it. -/
theorem bindReturns_cons_eq_none_iff {call : Call} {repeats : Bool}
    {document : Except ExtractionError Json} {entry : String × String}
    {rest : List (String × String)} {q : Progress} :
    bindReturns call repeats document (entry :: rest) p = (none, q) ↔
      ∃ q', bindReturns call repeats document [entry] p = (none, q') ∧
        bindReturns call repeats document rest q' = (none, q) := by
  obtain ⟨other, expression⟩ := entry
  rw [bindReturns_cons, bindReturns_cons]
  split <;> simp [bindReturns]

theorem settle_error (s : Step) (call : Call) (message : String) (p : Progress) :
    settle s call (.error message) p =
      (some ⟨.unhandled, message, none⟩, p.record (.raised call message)) := rfl

theorem settle_refused {call : Call} {reply : Reply}
    (h : Reply.isSuccess reply.status = false) :
    settle s call (.ok reply) p =
      (some ⟨.downstream, s!"{call.method} {call.url} returned {reply.status}",
        some reply.status⟩, p.record (.replied call reply)) := by
  simp [settle, h]

theorem settle_accepted {call : Call} {reply : Reply}
    (h : Reply.isSuccess reply.status = true) :
    settle s call (.ok reply) p =
      bindReturns call s.repeats (Selection.document reply.text) (s.returns.getD [])
        (p.record (.replied call reply)) := by
  simp [settle, h]

/-- A call is made from the variables as they are, and its result decides all that follows. -/
theorem plays_execute_iff :
    (execute authorization s p).Plays log out ↔
      ∃ result, log = [(s.call p.store authorization, result)] ∧
        out = settle s (s.call p.store authorization) result
          (p.record (.calling (s.call p.store authorization))) := by
  simp only [execute, Dialogue.plays_ask_iff, Dialogue.plays_done_iff]
  constructor
  · rintro ⟨result, _, rfl, rfl, rfl⟩
    exact ⟨result, rfl, rfl⟩
  · rintro ⟨result, rfl, rfl⟩
    exact ⟨result, [], rfl, rfl, rfl⟩

theorem plays_iterate_nil_iff {name : String} :
    (iterate authorization s name [] p).Plays log out ↔ log = [] ∧ out = (none, p) :=
  Dialogue.plays_done_iff

/-- A turn that fails is the last one; after any other the iteration goes on. -/
theorem plays_iterate_cons_iff {name element : String} {rest : List String} :
    (iterate authorization s name (element :: rest) p).Plays log out ↔
      (∃ failure q, (execute authorization s (p.bind name (.text element))).Plays log
        (some failure, q) ∧ out = (some failure, q)) ∨
      ∃ before after q, log = before ++ after ∧
        (execute authorization s (p.bind name (.text element))).Plays before (none, q) ∧
        (iterate authorization s name rest q).Plays after out := by
  rw [iterate, Dialogue.plays_bind_iff]
  constructor
  · rintro ⟨before, after, ⟨failure, q⟩, rfl, hd, hf⟩
    cases failure with
    | some failure =>
      obtain ⟨rfl, rfl⟩ := Dialogue.plays_done_iff.1 hf
      exact .inl ⟨failure, q, by simpa using hd, rfl⟩
    | none => exact .inr ⟨before, after, q, rfl, hd, hf⟩
  · rintro (⟨failure, q, hd, rfl⟩ | ⟨before, after, q, rfl, hd, hf⟩)
    · exact ⟨log, [], (some failure, q), by simp, hd, .done _⟩
    · exact ⟨before, after, (none, q), rfl, hd, hf⟩

/-- A complete step makes one call, or iterates and gives its variable back. -/
theorem plays_runComplete_iff :
    (runComplete authorization s p).Plays log out ↔
      (s.loop? p.store = none ∧ (execute authorization s p).Plays log out) ∨
      ∃ name value, s.loop? p.store = some (name, value) ∧ ∃ failure q,
        (iterate authorization s name value.elements
          (p.record (.iterating name value.elements.length))).Plays log (failure, q) ∧
        out = (failure, q.bind name value) := by
  unfold runComplete
  split
  · simp [*]
  · rename_i name value h
    simp only [h, Dialogue.plays_map_iff, Prod.exists, Option.some.injEq, Prod.mk.injEq,
      reduceCtorEq, false_and, false_or]
    constructor
    · rintro ⟨failure, q, hp, rfl⟩
      exact ⟨name, value, ⟨rfl, rfl⟩, failure, q, hp, rfl⟩
    · rintro ⟨_, _, ⟨rfl, rfl⟩, failure, q, hp, rfl⟩
      exact ⟨failure, q, hp, rfl⟩

/-- An incomplete step makes no call and binds nothing. -/
theorem plays_runStep_iff {number : Nat} :
    (runStep authorization number s p).Plays log out ↔
      (s.isComplete = true ∧ (runComplete authorization s p).Plays log out) ∨
      (s.isComplete = false ∧ log = [] ∧
        out = (some ⟨.validation, Event.incompleteMessage number, none⟩,
          p.record (.incomplete number))) := by
  cases hc : s.isComplete <;> simp [runStep, hc, Dialogue.plays_done_iff]

/-- A step that is not repeated is its one call. -/
theorem plays_runStep_of_settle {number : Nat} {result : CallResult} (hc : s.isComplete = true)
    (hn : s.loop? p.store = none)
    (h : settle s (s.call p.store authorization) result
      (p.record (.calling (s.call p.store authorization))) = out) :
    (runStep authorization number s p).Plays [(s.call p.store authorization, result)] out := by
  have hx := plays_execute_iff.2 ⟨result, rfl, h.symm⟩
  exact plays_runStep_iff.2 (.inl ⟨hc, plays_runComplete_iff.2 (.inl ⟨hn, hx⟩)⟩)

theorem plays_runSteps_nil_iff {number : Nat} :
    (runSteps authorization number [] p).Plays log out ↔ log = [] ∧ out = (none, p) :=
  Dialogue.plays_done_iff

/-- A step that fails is the last one; after any other the steps after it are run. -/
theorem plays_runSteps_cons_iff {number : Nat} {rest : List Step} :
    (runSteps authorization number (s :: rest) p).Plays log out ↔
      (∃ failure q, (runStep authorization number s p).Plays log (some failure, q) ∧
        out = (some failure, stop number failure q)) ∨
      ∃ before after q, log = before ++ after ∧
        (runStep authorization number s p).Plays before (none, q) ∧
        (runSteps authorization (number + 1) rest q).Plays after out := by
  rw [runSteps, Dialogue.plays_bind_iff]
  constructor
  · rintro ⟨before, after, ⟨failure, q⟩, rfl, hd, hf⟩
    cases failure with
    | some failure =>
      obtain ⟨rfl, rfl⟩ := Dialogue.plays_done_iff.1 hf
      exact .inl ⟨failure, q, by simpa using hd, rfl⟩
    | none => exact .inr ⟨before, after, q, rfl, hd, hf⟩
  · rintro (⟨failure, q, hd, rfl⟩ | ⟨before, after, q, rfl, hd, hf⟩)
    · exact ⟨log, [], (some failure, q), by simp, hd, .done _⟩
    · exact ⟨before, after, (none, q), rfl, hd, hf⟩

theorem statusOf_cases (failure : Option Failure) :
    statusOf failure = 200 ∨ statusOf failure = 400 ∨ statusOf failure = 500 := by
  rcases failure with _ | ⟨kind, _, _⟩
  · exact .inl rfl
  · cases kind <;> simp [statusOf, Failure.status, FailureKind.status]

/-- A request without steps is answered at once; any other has the status of its first failure, or
200. -/
theorem plays_runRequest_iff {request : Request} {status : Nat} {q : Progress} :
    (runRequest request authorization).Plays log (status, q) ↔
      (request.steps.getD [] = [] ∧ log = [] ∧ status = 400 ∧
        q = Progress.start.record .noSteps) ∨
      (request.steps.getD [] ≠ [] ∧ ∃ failure,
        (runSteps authorization 1 (request.steps.getD []) .start).Plays log (failure, q) ∧
        status = statusOf failure) := by
  unfold runRequest
  split
  · rename_i h
    simp [h, Dialogue.plays_done_iff]
  · rename_i h
    simp only [Dialogue.plays_map_iff, Prod.exists, Prod.mk.injEq]
    constructor
    · rintro ⟨failure, _, hp, rfl, rfl⟩
      exact .inr ⟨h, failure, hp, by cases failure <;> rfl⟩
    · rintro (⟨he, _⟩ | ⟨_, failure, hp, rfl⟩)
      · exact absurd he h
      · exact ⟨failure, q, hp, by cases failure <;> rfl, rfl⟩

def IsCallOf (authorization : Option String) (s : Step) (call : Call) : Prop :=
  ∃ store, call = s.call store authorization

theorem isCallOf_of_plays_execute (h : (execute authorization s p).Plays log out) :
    ∀ exchange ∈ log, IsCallOf authorization s exchange.1 := by
  obtain ⟨result, rfl, _⟩ := plays_execute_iff.1 h
  intro exchange he
  rw [List.mem_singleton.1 he]
  exact ⟨p.store, rfl⟩

theorem isCallOf_of_plays_iterate {name : String} {elements : List String}
    (h : (iterate authorization s name elements p).Plays log out) :
    ∀ exchange ∈ log, IsCallOf authorization s exchange.1 := by
  induction elements generalizing p log with
  | nil =>
    obtain ⟨rfl, _⟩ := plays_iterate_nil_iff.1 h
    simp
  | cons element rest ih =>
    rcases plays_iterate_cons_iff.1 h with ⟨_, _, hx, _⟩ | ⟨_, _, _, rfl, hx, hr⟩
    · exact isCallOf_of_plays_execute hx
    · intro exchange he
      rcases List.mem_append.1 he with he | he
      · exact isCallOf_of_plays_execute hx exchange he
      · exact ih hr exchange he

theorem isCallOf_of_plays_runStep {number : Nat}
    (h : (runStep authorization number s p).Plays log out) :
    ∀ exchange ∈ log, s.isComplete = true ∧ IsCallOf authorization s exchange.1 := by
  rcases plays_runStep_iff.1 h with ⟨hc, h⟩ | ⟨_, rfl, _⟩
  · rcases plays_runComplete_iff.1 h with ⟨_, hx⟩ | ⟨_, _, _, _, _, hi, _⟩
    · exact fun exchange he => ⟨hc, isCallOf_of_plays_execute hx exchange he⟩
    · exact fun exchange he => ⟨hc, isCallOf_of_plays_iterate hi exchange he⟩
  · simp

/-- The calls of a run are calls of its complete steps. -/
theorem isCallOf_of_plays_runSteps {number : Nat} {steps : List Step}
    (h : (runSteps authorization number steps p).Plays log out) :
    ∀ exchange ∈ log, ∃ s ∈ steps, s.isComplete = true ∧ IsCallOf authorization s exchange.1 := by
  induction steps generalizing p log number with
  | nil =>
    obtain ⟨rfl, _⟩ := plays_runSteps_nil_iff.1 h
    simp
  | cons step rest ih =>
    rcases plays_runSteps_cons_iff.1 h with ⟨_, _, hx, _⟩ | ⟨_, _, _, rfl, hx, hr⟩
    · intro exchange he
      exact ⟨step, List.mem_cons_self, isCallOf_of_plays_runStep hx exchange he⟩
    · intro exchange he
      rcases List.mem_append.1 he with he | he
      · exact ⟨step, List.mem_cons_self, isCallOf_of_plays_runStep hx exchange he⟩
      · obtain ⟨s, hs, hcall⟩ := ih hr exchange he
        exact ⟨s, List.mem_cons_of_mem _ hs, hcall⟩

end Run

/-- The answer to a request is read off the run's status and progress. -/
theorem Request.plays_run_iff {request : Request} {header : Option String}
    {log : List (Call × CallResult)} {answer : Answer} :
    (request.run header).Plays log answer ↔
      ∃ p, (Run.runRequest request (Authorization.forwarded header)).Plays log
          (answer.status, p) ∧
        answer.content = (Run.report request p).text ∧
        answer.log = p.events.filterMap Event.logEntry? := by
  simp only [Request.run, Dialogue.plays_map_iff, Prod.exists]
  constructor
  · rintro ⟨status, p, hp, rfl⟩
    exact ⟨p, hp, rfl, rfl⟩
  · rintro ⟨p, hp, hc, hl⟩
    refine ⟨answer.status, p, hp, ?_⟩
    cases answer
    simp_all

/-- A run whose steps end in a failure is answered with the status of the failure. -/
theorem Request.exists_answer_of_failure {request : Request} {header : Option String}
    {log : List (Call × CallResult)} {failure : Failure} {q : Progress}
    (h : (Run.runSteps (Authorization.forwarded header) 1 (request.steps.getD []) .start).Plays log
      (some failure, q)) :
    ∃ answer : Answer, (request.run header).Plays log answer ∧ answer.status = failure.status ∧
      answer.content = (Run.report request q).text := by
  have hs : request.steps.getD [] ≠ [] := by
    intro hs
    rw [hs] at h
    cases (Run.plays_runSteps_nil_iff.1 h).2
  have hr := Run.plays_runRequest_iff.2 (.inr ⟨hs, some failure, h, rfl⟩)
  exact ⟨⟨failure.status, _, _⟩, plays_run_iff.2 ⟨q, hr, rfl, rfl⟩, rfl, rfl⟩

theorem Request.status_cases_of_plays_run {request : Request} {header : Option String}
    {log : List (Call × CallResult)} {answer : Answer} (h : (request.run header).Plays log answer) :
    answer.status = 200 ∨ answer.status = 400 ∨ answer.status = 500 := by
  obtain ⟨_, hp, _⟩ := plays_run_iff.1 h
  rcases Run.plays_runRequest_iff.1 hp with ⟨_, _, hs, _⟩ | ⟨_, failure, _, hs⟩
  · exact .inr (.inl hs)
  · rw [hs]
    exact Run.statusOf_cases failure

/-- The calls of a request are calls of its complete steps and carry the caller's header on. -/
theorem Request.isCallOf_of_plays_run {request : Request} {header : Option String}
    {log : List (Call × CallResult)} {answer : Answer} (h : (request.run header).Plays log answer) :
    ∀ exchange ∈ log, ∃ s ∈ request.steps.getD [],
      s.isComplete = true ∧ Run.IsCallOf (Authorization.forwarded header) s exchange.1 := by
  obtain ⟨_, hp, _⟩ := plays_run_iff.1 h
  rcases Run.plays_runRequest_iff.1 hp with ⟨_, rfl, _⟩ | ⟨_, _, hp, _⟩
  · simp
  · exact Run.isCallOf_of_plays_runSteps hp

end RequestChain
