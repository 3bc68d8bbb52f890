import Mathlib
import RequestChain.Proofs.Run.Account

namespace RequestChain.Run

def succeeded : CallResult → Bool
  | .ok reply => Reply.isSuccess reply.status
  | .error _ => false

def firstFailure (events : List Event) : Option FailureKind := events.findSome? Event.failureKind?

/-- The expressions of the step can all be evaluated in the reply to the call, each rendered with
the variables that the entries before it leave. -/
def Issued.AllEvaluate (authorization : Option String) (i : Issued) : Prop :=
  ∀ reply, i.result = .ok reply → Reply.isSuccess reply.status = true → ∃ events after,
    InTurn (EntryAccount (i.call authorization) i.step.repeats (Selection.document reply.text))
      (i.step.returns.getD []) i.store events [] none after

/-- An account stops at its first failure, which is the one that it ends with. -/
structure FailFast (events : List Event) (issued : List Issued) (ending : Option Failure) :
    Prop where
  first : firstFailure events = ending.map Failure.kind
  last : events.Pairwise fun e later => e.failureKind? ≠ none → later.isNote = true
  calls : issued.Pairwise fun i _ => succeeded i.result = true
  succeeded_iff : (∀ i ∈ issued, succeeded i.result = true) ↔
    ending.map Failure.kind ≠ some .downstream ∧ ending.map Failure.kind ≠ some .unhandled

namespace FailFast

variable {events events' : List Event} {issued issued' : List Issued} {ending : Option Failure}

theorem nil : FailFast [] [] none :=
  ⟨rfl, .nil, .nil, by simp⟩

/-- An event outside of calls. -/
theorem event {e : Event} (he : e.failureKind? = ending.map Failure.kind)
    (hd : e.failureKind? ≠ some .downstream) (hu : e.failureKind? ≠ some .unhandled) :
    FailFast [e] [] ending := by
  refine ⟨?_, List.pairwise_singleton _ _, .nil, by simp [← he, hd, hu]⟩
  rw [← he]
  cases hk : e.failureKind? <;> simp [firstFailure, hk]

/-- What comes after a part that ended well decides how the whole ends. -/
theorem append (h : FailFast events issued none) (h' : FailFast events' issued' ending) :
    FailFast (events ++ events') (issued ++ issued') ending := by
  have hs : ∀ i ∈ issued, succeeded i.result = true := h.succeeded_iff.2 (by simp)
  refine ⟨?_, ?_, ?_, ?_⟩
  · have he := h.first
    unfold firstFailure at he
    rw [firstFailure, List.findSome?_append, he]
    exact h'.first
  · refine List.pairwise_append.2 ⟨h.last, h'.last, ?_⟩
    intro e he later _ hk
    exact absurd (List.findSome?_eq_none_iff.1 h.first e he) hk
  · exact List.pairwise_append.2 ⟨h.calls, h'.calls, fun i hi _ _ => hs i hi⟩
  · rw [← h'.succeeded_iff]
    constructor
    · intro ha i hi
      exact ha i (List.mem_append_right _ hi)
    · intro ha i hi
      rcases List.mem_append.1 hi with hi | hi
      · exact hs i hi
      · exact ha i hi

/-- A note may follow the failure. -/
theorem note {failure : Failure} (h : FailFast events issued (some failure)) (number : Nat) :
    FailFast (events ++ [.stopped number failure]) issued (some failure) := by
  refine ⟨?_, ?_, h.calls, h.succeeded_iff⟩
  · have he := h.first
    unfold firstFailure at he
    rw [firstFailure, List.findSome?_append, he]
    rfl
  · refine List.pairwise_append.2 ⟨h.last, List.pairwise_singleton _ _, ?_⟩
    intro e _ later hl _
    rw [List.mem_singleton.1 hl]
    rfl

/-- When all calls succeed and all expressions can be evaluated, nothing but a step without method
or endpoint can fail. -/
theorem ending_eq_none (h : FailFast events issued ending)
    (hv : ending.map Failure.kind ≠ some .validation)
    (hl : ∀ i ∈ issued, succeeded i.result = true)
    (hx : ∀ e ∈ events, e.failureKind? ≠ some .extraction) : ending = none := by
  obtain ⟨hd, hu⟩ := h.succeeded_iff.1 hl
  have hfirst := h.first
  apply Option.map_eq_none_iff.1
  cases hk : ending.map Failure.kind with
  | none => rfl
  | some kind =>
    rw [hk] at hv hd hu hfirst
    cases kind with
    | validation => exact absurd rfl hv
    | extraction =>
      obtain ⟨e, hm, hk⟩ := List.exists_of_findSome?_eq_some hfirst
      exact absurd hk (hx e hm)
    | downstream => exact absurd rfl hd
    | unhandled => exact absurd rfl hu

end FailFast

variable {authorization : Option String} {before after : Store} {events : List Event}
  {issued : List Issued} {ending : Option Failure}

namespace InTurn

variable {ι : Type} {A : Account ι} {things : List ι}

theorem failFast
    (hA : ∀ i before events issued ending after,
      A i before events issued ending after → FailFast events issued ending)
    (h : InTurn A things before events issued ending after) : FailFast events issued ending := by
  induction h with
  | done => exact .nil
  | next ha _ ih => exact (hA _ _ _ _ _ _ ha).append ih
  | failed ha => exact hA _ _ _ _ _ _ ha

/-- When all went well, each thing has an account that ended well. -/
theorem each (h : InTurn A things before events issued ending after) (he : ending = none) :
    ∀ i ∈ things, ∃ before events issued after, A i before events issued none after := by
  induction h with
  | done => simp
  | next ha _ ih =>
    intro i hi
    rcases List.mem_cons.1 hi with rfl | hi
    · exact ⟨_, _, _, _, ha⟩
    · exact ih he i hi
  | failed => cases he

/-- What ends in a failure holds a thing that ends in it. -/
theorem culprit {failure : Failure} (h : InTurn A things before events issued ending after)
    (he : ending = some failure) :
    ∃ i ∈ things, ∃ before events issued after,
      A i before events issued (some failure) after := by
  induction h with
  | done => cases he
  | next _ _ ih =>
    obtain ⟨i, hi, hw⟩ := ih he
    exact ⟨i, List.mem_cons_of_mem _ hi, hw⟩
  | failed ha =>
    cases he
    exact ⟨_, List.mem_cons_self, _, _, _, _, ha⟩

/-- If each thing ends well just if all calls that it issues do, then so do all things together. -/
theorem ending_eq_none_iff {P : Issued → Prop}
    (hA : ∀ i ∈ things, ∀ before events issued ending after,
      A i before events issued ending after → (ending = none ↔ ∀ call ∈ issued, P call))
    (h : InTurn A things before events issued ending after) :
    ending = none ↔ ∀ call ∈ issued, P call := by
  induction h with
  | done => simp
  | next ha _ ih =>
    have hfirst := (hA _ List.mem_cons_self _ _ _ _ _ ha).1 rfl
    rw [ih fun i hi => hA i (List.mem_cons_of_mem _ hi), List.forall_mem_append]
    exact (and_iff_right hfirst).symm
  | failed ha => exact hA _ List.mem_cons_self _ _ _ _ _ ha

/-- If each thing can end in one way only, then so can all things together. -/
theorem unique {events' : List Event} {issued' : List Issued} {ending' : Option Failure}
    {after' : Store}
    (hA : ∀ i before events issued ending after events' issued' ending' after',
      A i before events issued ending after → A i before events' issued' ending' after' →
        ending = ending' ∧ after = after')
    (h : InTurn A things before events issued ending after)
    (h' : InTurn A things before events' issued' ending' after') :
    ending = ending' ∧ after = after' := by
  induction h generalizing events' issued' with
  | done =>
    cases h'
    exact ⟨rfl, rfl⟩
  | next ha _ ih =>
    cases h' with
    | next ha' hrest' =>
      obtain ⟨_, rfl⟩ := hA _ _ _ _ _ _ _ _ _ _ ha ha'
      exact ih hrest'
    | failed ha' =>
      obtain ⟨he, _⟩ := hA _ _ _ _ _ _ _ _ _ _ ha ha'
      cases he
  | failed ha =>
    cases h' with
    | next ha' _ =>
      obtain ⟨he, _⟩ := hA _ _ _ _ _ _ _ _ _ _ ha ha'
      cases he
    | failed ha' => exact hA _ _ _ _ _ _ _ _ _ _ ha ha'

end InTurn

namespace EntryAccount

variable {call : Call} {repeats : Bool} {document : Except ExtractionError Json}
  {entry : String × String}

theorem failFast (h : EntryAccount call repeats document entry before events issued ending after) :
    FailFast events issued ending := by
  cases h with
  | unmatched => exact .event rfl (by simp [Event.failureKind?]) (by simp [Event.failureKind?])
  | bound => exact .event rfl (by simp [Event.failureKind?]) (by simp [Event.failureKind?])
  | unevaluated => exact .event rfl (by simp [Event.failureKind?]) (by simp [Event.failureKind?])

/-- What an expression selects leaves no choice: an entry ends in one way only, with one store. -/
theorem unique {events' : List Event} {issued' : List Issued} {ending' : Option Failure}
    {after' : Store}
    (h : EntryAccount call repeats document entry before events issued ending after)
    (h' : EntryAccount call repeats document entry before events' issued' ending' after') :
    ending = ending' ∧ after = after' := by
  cases h with
  | unmatched hs =>
    cases h' with
    | unmatched => exact ⟨rfl, rfl⟩
    | bound hs' => cases hs.symm.trans hs'
    | unevaluated hs' => cases hs.symm.trans hs'
  | bound hs hv =>
    cases h' with
    | unmatched hs' => cases hs.symm.trans hs'
    | bound hs' hv' =>
      cases hs.symm.trans hs'
      rw [hv, hv']
      exact ⟨rfl, rfl⟩
    | unevaluated hs' => cases hs.symm.trans hs'
  | unevaluated hs hp =>
    cases h' with
    | unmatched hs' => cases hs.symm.trans hs'
    | bound hs' => cases hs.symm.trans hs'
    | unevaluated hs' hp' =>
      cases hs.symm.trans hs'
      rw [hp, hp']
      exact ⟨rfl, rfl⟩

end EntryAccount

namespace CallAccount

variable {s : Step}

theorem failFast (h : CallAccount authorization s before events issued ending after) :
    FailFast events issued ending := by
  cases h with
  | raised =>
    refine ⟨rfl, ?_, List.pairwise_singleton _ _, by simp [succeeded]⟩
    simp [Event.failureKind?]
  | refused _ hs =>
    refine ⟨by simp [firstFailure, List.findSome?_cons, Event.failureKind?, hs], ?_,
      List.pairwise_singleton _ _, by simp [succeeded, hs]⟩
    simp [Event.failureKind?]
  | @accepted _ _ _ call reply _ _ _ hs he =>
    have hr : FailFast [.calling call, .replied call reply] [⟨s, before, .ok reply⟩] none := by
      refine ⟨by simp [firstFailure, Event.failureKind?, hs], ?_, List.pairwise_singleton _ _,
        by simp [succeeded, hs]⟩
      simp [Event.failureKind?]
    exact hr.append (he.failFast fun _ _ _ _ _ _ h => h.failFast)

/-- A call never ends its step for want of a method or an endpoint. -/
theorem ending_ne_validation
    (h : CallAccount authorization s before events issued ending after) :
    ending.map Failure.kind ≠ some .validation := by
  intro he
  cases h with
  | raised => cases he
  | refused => cases he
  | accepted _ _ h =>
    obtain ⟨failure, rfl, hk⟩ := Option.map_eq_some_iff.1 he
    obtain ⟨_, _, _, _, _, _, h⟩ := h.culprit rfl
    cases h
    cases hk

theorem ending_eq_none_iff
    (h : CallAccount authorization s before events issued ending after) :
    ending = none ↔
      ∀ i ∈ issued, succeeded i.result = true ∧ i.AllEvaluate authorization := by
  cases h with
  | raised => simp [succeeded]
  | refused _ hs => simp [succeeded, hs]
  | @accepted _ _ _ call reply _ _ hcall hs he =>
    subst hcall
    rw [List.forall_mem_singleton]
    constructor
    · rintro rfl
      refine ⟨hs, ?_⟩
      intro reply' hr _
      cases hr
      exact ⟨_, _, he⟩
    · rintro ⟨_, hall⟩
      obtain ⟨_, _, hnone⟩ := hall reply rfl hs
      exact (he.unique (fun _ _ _ _ _ _ _ _ _ _ h h' => h.unique h') hnone).1

end CallAccount

namespace StepAccount

variable {stage : Step × Nat}

theorem failFast (h : StepAccount authorization stage before events issued ending after) :
    FailFast events issued ending := by
  cases h with
  | incomplete => exact .event rfl (by simp [Event.failureKind?]) (by simp [Event.failureKind?])
  | once _ _ h => exact h.failFast
  | @repeated _ _ _ _ _ _ _ name value _ _ h =>
    have hi : FailFast [.iterating name value.elements.length] [] none :=
      .event rfl (by simp [Event.failureKind?]) (by simp [Event.failureKind?])
    exact hi.append (h.failFast fun _ _ _ _ _ _ h => h.failFast)

/-- A step that ends in a validation failure is incomplete. -/
theorem incomplete_of_ending
    (h : StepAccount authorization stage before events issued ending after)
    (he : ending.map Failure.kind = some .validation) : stage.1.isComplete = false := by
  cases h with
  | incomplete hc => exact hc
  | once _ _ h => exact absurd he h.ending_ne_validation
  | repeated _ _ h =>
    obtain ⟨failure, rfl, hk⟩ := Option.map_eq_some_iff.1 he
    obtain ⟨_, _, _, _, _, _, h⟩ := h.culprit rfl
    exact absurd (by rw [Option.map_some, hk]) h.ending_ne_validation

theorem ending_eq_none_iff
    (h : StepAccount authorization stage before events issued ending after)
    (hc : stage.1.isComplete = true) :
    ending = none ↔
      ∀ i ∈ issued, succeeded i.result = true ∧ i.AllEvaluate authorization := by
  cases h with
  | incomplete hn =>
    rw [hn] at hc
    cases hc
  | once _ _ h => exact h.ending_eq_none_iff
  | repeated _ _ h => exact h.ending_eq_none_iff fun _ _ _ _ _ _ _ h => h.ending_eq_none_iff

end StepAccount

namespace StageAccount

variable {stage : Step × Nat}

theorem failFast (h : StageAccount authorization stage before events issued ending after) :
    FailFast events issued ending := by
  cases h with
  | through h => exact h.failFast
  | raised _ h => exact h.failFast
  | noted _ h => exact h.failFast.note _

/-- The account of the step itself ends in the same way. -/
theorem exists_stepAccount
    (h : StageAccount authorization stage before events issued ending after) :
    ∃ events, StepAccount authorization stage before events issued ending after := by
  cases h with
  | through h => exact ⟨_, h⟩
  | raised _ h => exact ⟨_, h⟩
  | noted _ h => exact ⟨_, h⟩

theorem isComplete (h : StageAccount authorization stage before events issued none after) :
    stage.1.isComplete = true := by
  obtain ⟨_, h⟩ := h.exists_stepAccount
  cases h with
  | once hc => exact hc
  | repeated hc => exact hc

end StageAccount

namespace RunAccount

variable {steps : List Step}

theorem failFast (h : RunAccount authorization steps events issued ending after) :
    FailFast events issued ending := by
  cases h with
  | noSteps => exact .event rfl (by simp [Event.failureKind?]) (by simp [Event.failureKind?])
  | steps _ h => exact h.failFast fun _ _ _ _ _ _ h => h.failFast

/-- Without a failure, and only then, all steps are complete, all calls succeed and all expressions
can be evaluated. -/
theorem ending_eq_none_iff (hs : steps ≠ [])
    (h : RunAccount authorization steps events issued ending after) :
    ending = none ↔ (∀ s ∈ steps, s.isComplete = true) ∧
      (∀ i ∈ issued, succeeded i.result = true) ∧ ∀ i ∈ issued, i.AllEvaluate authorization := by
  cases h with
  | noSteps => exact absurd rfl hs
  | steps _ h =>
    have hcomplete (he : ending = none) : ∀ s ∈ steps, s.isComplete = true := by
      intro s hm
      obtain ⟨i, hi⟩ := List.mem_iff_getElem?.1 hm
      have hz : (s, 1 + i) ∈ steps.zipIdx 1 := by
        apply List.mem_iff_getElem?.2
        exact ⟨i, by simp [List.getElem?_zipIdx, hi]⟩
      obtain ⟨_, _, _, _, ha⟩ := h.each he _ hz
      exact ha.isComplete
    have hissued (hc : ∀ s ∈ steps, s.isComplete = true) :
        ending = none ↔
          ∀ i ∈ issued, succeeded i.result = true ∧ i.AllEvaluate authorization := by
      refine h.ending_eq_none_iff ?_
      intro stage hstage _ _ _ _ _ ha
      obtain ⟨_, ha⟩ := ha.exists_stepAccount
      exact ha.ending_eq_none_iff (hc stage.1 (List.fst_mem_of_mem_zipIdx hstage))
    constructor
    · intro he
      have hall := (hissued (hcomplete he)).1 he
      exact ⟨hcomplete he, fun i hi => (hall i hi).1, fun i hi => (hall i hi).2⟩
    · rintro ⟨hc, hcalls, hevaluate⟩
      exact (hissued hc).2 fun i hi => ⟨hcalls i hi, hevaluate i hi⟩

end RunAccount

end RequestChain.Run
