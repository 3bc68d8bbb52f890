import RequestChain.Proofs.Run.Plays

namespace RequestChain

def Event.failureKind? : Event → Option FailureKind
  | .incomplete _ => some .validation
  | .replied _ reply => if Reply.isSuccess reply.status then none else some .downstream
  | .raised .. => some .unhandled
  | .unevaluated .. => some .extraction
  | .noSteps | .iterating .. | .calling .. | .unmatched .. | .bound .. | .stopped .. => none

/-- The event only notes that a failure stopped the run. -/
def Event.isNote : Event → Bool
  | .stopped .. => true
  | _ => false

namespace Run

/-- A call that a run issues: the step that it is of, the variables that it is made from, and what
becomes of it. -/
structure Issued where
  step : Step
  store : Store
  result : CallResult

namespace Issued

def call (authorization : Option String) (i : Issued) : Call := i.step.call i.store authorization

def exchange (authorization : Option String) (i : Issued) : Call × CallResult :=
  (i.call authorization, i.result)

end Issued

/-- What may be told of a thing: the variables before it, its events, the calls that it issues, the
failure it ends with, and the variables after it. -/
abbrev Account (ι : Type) :=
  ι → Store → List Event → List Issued → Option Failure → Store → Prop

/-- Things done one after another, up to the first that fails. -/
inductive InTurn {ι : Type} (A : Account ι) : Account (List ι) where
  | done {store : Store} : InTurn A [] store [] [] none store
  | next {i : ι} {rest : List ι} {before between after : Store} {events events' : List Event}
      {issued issued' : List Issued} {ending : Option Failure} :
      A i before events issued none between →
      InTurn A rest between events' issued' ending after →
        InTurn A (i :: rest) before (events ++ events') (issued ++ issued') ending after
  | failed {i : ι} {rest : List ι} {before after : Store} {events : List Event}
      {issued : List Issued} {failure : Failure} :
      A i before events issued (some failure) after →
        InTurn A (i :: rest) before events issued (some failure) after

/-- One entry of a step: its expression, rendered when its turn comes, selects nothing, selects
values that are bound, or cannot be evaluated. -/
inductive EntryAccount (call : Call) (repeats : Bool) (document : Except ExtractionError Json) :
    Account (String × String) where
  | unmatched {name expression : String} {store : Store} :
      selected call document expression store = .ok [] →
        EntryAccount call repeats document (name, expression) store
          [.unmatched name (pathOf call expression store)] [] none store
  | bound {name expression : String} {store : Store} {v : Json} {vs : List Json}
      {value : Bound} :
      selected call document expression store = .ok (v :: vs) →
      value = merged repeats name (v :: vs) store →
        EntryAccount call repeats document (name, expression) store [.bound name value.wire] [] none
          (store.bind name value)
  | unevaluated {name expression path : String} {store : Store} {error : ExtractionError} :
      selected call document expression store = .error error →
      path = pathOf call expression store →
        EntryAccount call repeats document (name, expression) store
          [.unevaluated call path error] []
          (some ⟨.extraction, s!"could not evaluate {path}: {error.message}", none⟩) store

/-- The call of a step: it raises, is refused, or is accepted and the entries are evaluated in the
reply to it. -/
inductive CallAccount (authorization : Option String) : Account Step where
  | raised {s : Step} {store : Store} {call : Call} {message : String} :
      call = s.call store authorization →
        CallAccount authorization s store [.calling call, .raised call message]
          [⟨s, store, .error message⟩] (some ⟨.unhandled, message, none⟩) store
  | refused {s : Step} {store : Store} {call : Call} {reply : Reply} :
      call = s.call store authorization → Reply.isSuccess reply.status = false →
        CallAccount authorization s store [.calling call, .replied call reply]
          [⟨s, store, .ok reply⟩]
          (some ⟨.downstream, s!"{call.method} {call.url} returned {reply.status}",
            some reply.status⟩) store
  | accepted {s : Step} {before after : Store} {call : Call} {reply : Reply}
      {events : List Event} {ending : Option Failure} :
      call = s.call before authorization → Reply.isSuccess reply.status = true →
      InTurn (EntryAccount call s.repeats (Selection.document reply.text)) (s.returns.getD [])
        before events [] ending after →
        CallAccount authorization s before (.calling call :: .replied call reply :: events)
          [⟨s, before, .ok reply⟩] ending after

/-- A step and its number: it is incomplete, or makes one call, or makes one for each element of
its variable, which gets its old value back. -/
inductive StepAccount (authorization : Option String) : Account (Step × Nat) where
  | incomplete {s : Step} {number : Nat} {store : Store} :
      s.isComplete = false →
        StepAccount authorization (s, number) store [.incomplete number] []
          (some ⟨.validation, Event.incompleteMessage number, none⟩) store
  | once {s : Step} {number : Nat} {before after : Store} {events : List Event}
      {issued : List Issued} {ending : Option Failure} :
      s.isComplete = true → s.loop? before = none →
      CallAccount authorization s before events issued ending after →
        StepAccount authorization (s, number) before events issued ending after
  | repeated {s : Step} {number : Nat} {before after : Store} {events : List Event}
      {issued : List Issued} {ending : Option Failure} {name : String} {value : Bound} :
      s.isComplete = true → s.loop? before = some (name, value) →
      InTurn (fun element store => CallAccount authorization s (store.bind name (.text element)))
        value.elements before events issued ending after →
        StepAccount authorization (s, number) before
          (.iterating name value.elements.length :: events) issued ending (after.bind name value)

inductive StageAccount (authorization : Option String) : Account (Step × Nat) where
  | through {stage : Step × Nat} {before after : Store} {events : List Event}
      {issued : List Issued} :
      StepAccount authorization stage before events issued none after →
        StageAccount authorization stage before events issued none after
  | raised {stage : Step × Nat} {before after : Store} {events : List Event}
      {issued : List Issued} {failure : Failure} :
      failure.kind = .unhandled →
      StepAccount authorization stage before events issued (some failure) after →
        StageAccount authorization stage before events issued (some failure) after
  | noted {stage : Step × Nat} {before after : Store} {events : List Event}
      {issued : List Issued} {failure : Failure} :
      failure.kind ≠ .unhandled →
      StepAccount authorization stage before events issued (some failure) after →
        StageAccount authorization stage before (events ++ [.stopped stage.2 failure]) issued
          (some failure) after

inductive RunAccount (authorization : Option String) :
    List Step → List Event → List Issued → Option Failure → Store → Prop where
  | noSteps : RunAccount authorization [] [.noSteps] [] none .empty
  | steps {steps : List Step} {events : List Event} {issued : List Issued}
      {ending : Option Failure} {after : Store} :
      steps ≠ [] →
      InTurn (StageAccount authorization) (steps.zipIdx 1) .empty events issued ending after →
        RunAccount authorization steps events issued ending after

/-- What was done from `p` on is told by an account of the thing. -/
def Keeps (authorization : Option String) {ι : Type} (A : Account ι) (thing : ι) (p : Progress)
    (log : List (Call × CallResult)) (out : Outcome) : Prop :=
  ∃ events issued, out.2.events = p.events ++ events ∧
    log = issued.map (Issued.exchange authorization) ∧
    A thing p.store events issued out.1 out.2.store

/-- By induction on the entries: an entry that is evaluated hands its store on, and the first that
is not ends the account. -/
theorem bindReturns_keeps (call : Call) (repeats : Bool)
    (document : Except ExtractionError Json) (entries : List (String × String)) (p : Progress)
    {out : Outcome} (h : bindReturns call repeats document entries p = out) :
    ∃ events, out.2.events = p.events ++ events ∧
      InTurn (EntryAccount call repeats document) entries p.store events [] out.1
        out.2.store := by
  induction entries generalizing p with
  | nil =>
    subst h
    exact ⟨[], by simp [bindReturns], .done⟩
  | cons entry rest ih =>
    obtain ⟨name, expression⟩ := entry
    rw [bindReturns_cons] at h
    split at h
    · rename_i error hselect
      subst h
      exact ⟨_, rfl, .failed (.unevaluated hselect rfl)⟩
    · rename_i hselect
      obtain ⟨events, he, ha⟩ := ih _ h
      exact ⟨_, by rw [he]; simp, .next (.unmatched hselect) ha⟩
    · rename_i v vs hselect
      obtain ⟨events, he, ha⟩ := ih _ h
      exact ⟨_, by rw [he]; simp, .next (.bound hselect rfl) ha⟩

variable {authorization : Option String} {s : Step} {p : Progress}
  {log : List (Call × CallResult)} {out : Outcome}

/-- The three ways in which a call can end are those of its account. -/
theorem execute_keeps (h : (execute authorization s p).Plays log out) :
    Keeps authorization (CallAccount authorization) s p log out := by
  obtain ⟨result, rfl, rfl⟩ := plays_execute_iff.1 h
  generalize hcall : s.call p.store authorization = call
  have hlog : [(call, result)] =
      [(⟨s, p.store, result⟩ : Issued)].map (Issued.exchange authorization) := by
    rw [← hcall]
    rfl
  cases result with
  | error message =>
    rw [settle_error]
    exact ⟨[.calling call, .raised call message], _, by simp, hlog, .raised hcall.symm⟩
  | ok reply =>
    cases hs : Reply.isSuccess reply.status with
    | false =>
      rw [settle_refused hs]
      exact ⟨[.calling call, .replied call reply], _, by simp, hlog, .refused hcall.symm hs⟩
    | true =>
      rw [settle_accepted hs]
      obtain ⟨events, he, ha⟩ := bindReturns_keeps call s.repeats
        (Selection.document reply.text) (s.returns.getD [])
        ((p.record (.calling call)).record (.replied call reply)) rfl
      refine ⟨.calling call :: .replied call reply :: events, _, ?_, hlog,
        .accepted hcall.symm hs ha⟩
      rw [he]
      simp

/-- The turns of an iteration are done one after another, each with its element bound. -/
theorem iterate_keeps {name : String} {elements : List String}
    (h : (iterate authorization s name elements p).Plays log out) :
    Keeps authorization (InTurn fun element store =>
      CallAccount authorization s (store.bind name (.text element))) elements p log out := by
  induction elements generalizing p log with
  | nil =>
    obtain ⟨rfl, rfl⟩ := plays_iterate_nil_iff.1 h
    exact ⟨[], [], by simp, rfl, .done⟩
  | cons element rest ih =>
    rcases plays_iterate_cons_iff.1 h with ⟨failure, q, hx, rfl⟩ | ⟨_, _, q, rfl, hx, hr⟩
    · obtain ⟨events, issued, he, hlog, ha⟩ := execute_keeps hx
      exact ⟨events, issued, he, hlog, .failed ha⟩
    · obtain ⟨events, issued, he, rfl, ha⟩ := execute_keeps hx
      obtain ⟨events', issued', he', rfl, ha'⟩ := ih hr
      dsimp only at he
      exact ⟨events ++ events', issued ++ issued', by rw [he', he]; simp,
        List.map_append.symm, .next ha ha'⟩

theorem runStep_keeps {number : Nat} (h : (runStep authorization number s p).Plays log out) :
    Keeps authorization (StepAccount authorization) (s, number) p log out := by
  rcases plays_runStep_iff.1 h with ⟨hc, h⟩ | ⟨hc, rfl, rfl⟩
  · rcases plays_runComplete_iff.1 h with ⟨hn, hx⟩ | ⟨name, value, hloop, failure, q, hi, rfl⟩
    · obtain ⟨events, issued, he, hlog, ha⟩ := execute_keeps hx
      exact ⟨events, issued, he, hlog, .once hc hn ha⟩
    · obtain ⟨events, issued, he, hlog, ha⟩ := iterate_keeps hi
      dsimp only at he
      refine ⟨.iterating name value.elements.length :: events, issued, ?_, hlog,
        .repeated hc hloop ha⟩
      simp [he]
  · exact ⟨_, [], rfl, rfl, .incomplete hc⟩

end Run
end RequestChain
