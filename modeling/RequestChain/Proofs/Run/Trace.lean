import Mathlib
import RequestChain.Proofs.Entries
import RequestChain.Proofs.Run.Content
import RequestChain.Proofs.Run.Executed

namespace RequestChain.Run

/-- One call of a run: its result, and the variables that were bound from its reply. -/
structure Turn where
  call : Call
  result : CallResult
  bindings : List (String × Bound)

inductive Ending where
  | through
  | noSteps
  | incomplete (number : Nat)
  | refused
  | raised
  | unevaluated (call : Call) (path : String) (error : ExtractionError)

def outcomeLine (call : Call) : CallResult → String
  | .ok reply =>
    if Reply.isSuccess reply.status then
      s!"[SUCCESS] \"{call.method}\" \"{call.url}\" ended up with {reply.outcome}"
    else s!"[ERROR] \"{call.method}\" \"{call.url}\" ended up with {reply.outcome}!"
  | .error message =>
    s!"[FATAL ERROR] \"{call.method}\" \"{call.url}\" thrown an exception: {message}"

def bindingLine (binding : String × Bound) : String :=
  s!"[INFO] Returned parameter: {binding.1} = {binding.2.wire}"

namespace Turn

def exchange (t : Turn) : Call × CallResult := (t.call, t.result)

def lines (t : Turn) : List String := outcomeLine t.call t.result :: t.bindings.map bindingLine

end Turn

namespace Ending

/-- The line on the end of a run. The line on a call that did not succeed is that of its turn. -/
def line? : Ending → Option String
  | through | refused | raised => none
  | noSteps => some "[ERROR] Composite request contains no requests"
  | incomplete number => some s!"[ERROR] Request #{number} is missing a method or an endpoint"
  | unevaluated call path error =>
    some s!"[ERROR] \"{call.method}\" \"{call.url}\" Could not find {path} Reason: {error.message}"

def status : Ending → Nat
  | through => 200
  | noSteps | incomplete _ | unevaluated .. => 400
  | refused | raised => 500

end Ending

def lastBinding (name : String) (turns : List Turn) : Option Bound :=
  Entries.get? name (turns.flatMap Turn.bindings).reverse

/-- What may be told of a thing: the variables before it, its turns, its end, and the variables
after it. -/
abbrev Tale (ι : Type) := ι → Store → List Turn → Ending → Store → Prop

inductive Successive {ι : Type} (T : Tale ι) : Tale (List ι) where
  | done {store : Store} : Successive T [] store [] .through store
  | next {i : ι} {rest : List ι} {before between after : Store} {turns turns' : List Turn}
      {ending : Ending} :
      T i before turns .through between → Successive T rest between turns' ending after →
        Successive T (i :: rest) before (turns ++ turns') ending after
  | ended {i : ι} {rest : List ι} {before after : Store} {turns : List Turn} {ending : Ending} :
      T i before turns ending after → ending ≠ .through →
        Successive T (i :: rest) before turns ending after

/-- The entries of a step bind these variables, in this order. An entry whose expression selects
nothing binds none, and one whose expression cannot be evaluated is the last. -/
inductive Binds (call : Call) (repeats : Bool) (document : Except ExtractionError Json) :
    List (String × String) → Store → List (String × Bound) → Ending → Store → Prop where
  | done {store : Store} : Binds call repeats document [] store [] .through store
  | unmatched {name expression : String} {rest : List (String × String)} {before after : Store}
      {bindings : List (String × Bound)} {ending : Ending} :
      selected call document expression before = .ok [] →
      Binds call repeats document rest before bindings ending after →
        Binds call repeats document ((name, expression) :: rest) before bindings ending after
  | bound {name expression : String} {rest : List (String × String)} {before after : Store}
      {bindings : List (String × Bound)} {ending : Ending} {v : Json} {vs : List Json}
      {value : Bound} :
      selected call document expression before = .ok (v :: vs) →
      value = Bound.merge (before.get? name) (Bound.ofMatches (v :: vs)) repeats →
      Binds call repeats document rest (before.bind name value) bindings ending after →
        Binds call repeats document ((name, expression) :: rest) before
          ((name, value) :: bindings) ending after
  | unevaluated {name expression : String} {rest : List (String × String)} {store : Store}
      {error : ExtractionError} :
      selected call document expression store = .error error →
        Binds call repeats document ((name, expression) :: rest) store []
          (.unevaluated call (pathOf call expression store) error) store

inductive TurnTale (authorization : Option String) : Tale Step where
  | raised {s : Step} {store : Store} {message : String} :
      TurnTale authorization s store [⟨s.call store authorization, .error message, []⟩] .raised
        store
  | refused {s : Step} {store : Store} {reply : Reply} :
      Reply.isSuccess reply.status = false →
        TurnTale authorization s store [⟨s.call store authorization, .ok reply, []⟩] .refused
          store
  | accepted {s : Step} {before after : Store} {reply : Reply}
      {bindings : List (String × Bound)} {ending : Ending} :
      Reply.isSuccess reply.status = true →
      Binds (s.call before authorization) s.repeats (Selection.document reply.text)
        (s.returns.getD []) before bindings ending after →
        TurnTale authorization s before
          [⟨s.call before authorization, .ok reply, bindings⟩] ending after

/-- A step and its number: it is incomplete, or makes one call, or makes one for each element of
its variable, which has its old value again after that. -/
inductive StepTale (authorization : Option String) : Tale (Step × Nat) where
  | incomplete {s : Step} {number : Nat} {store : Store} :
      s.isComplete = false →
        StepTale authorization (s, number) store [] (.incomplete number) store
  | once {s : Step} {number : Nat} {before after : Store} {turns : List Turn} {ending : Ending} :
      s.isComplete = true → s.loop? before = none →
      TurnTale authorization s before turns ending after →
        StepTale authorization (s, number) before turns ending after
  | repeated {s : Step} {number : Nat} {before after : Store} {turns : List Turn}
      {ending : Ending} {name : String} {value : Bound} :
      s.isComplete = true → s.loop? before = some (name, value) →
      Successive (fun element store => TurnTale authorization s (store.bind name (.text element)))
        value.elements before turns ending after →
        StepTale authorization (s, number) before turns ending (after.bind name value)

def IteratesOver (s : Step) (store : Store) (name : String) : Prop :=
  s.isComplete = true ∧ ∃ value, s.loop? store = some (name, value)

def traceLines (events : List Event) : List String := events.filterMap Event.traceLine?

/-- The last of several bindings is among the later ones, or else among the earlier. -/
theorem lastBinding_append (name : String) (turns turns' : List Turn) :
    lastBinding name (turns ++ turns') =
      (lastBinding name turns').or (lastBinding name turns) := by
  simp only [lastBinding, List.flatMap_append, List.reverse_append, Entries.get?_append]

/-- After the entries of a step, a name has the last value bound to it, or the one it had. -/
theorem Binds.last {call : Call} {repeats : Bool} {document : Except ExtractionError Json}
    {entries : List (String × String)} {before after : Store} {bindings : List (String × Bound)}
    {ending : Ending} (h : Binds call repeats document entries before bindings ending after)
    (name : String) :
    after.get? name = (Entries.get? name bindings.reverse).or (before.get? name) := by
  induction h with
  | done => rfl
  | unmatched _ _ ih => exact ih
  | @bound other _ _ _ _ _ _ _ _ value _ _ _ ih =>
    rw [ih, Store.get?_bind, List.reverse_cons, Entries.get?_append, Option.or_assoc]
    by_cases he : other = name <;> simp [Entries.get?, he]
  | unevaluated => rfl

variable {authorization : Option String} {s : Step} {before after : Store} {turns : List Turn}
  {ending : Ending} {name : String}

/-- A name holds what was last bound to it, or what it held before the call. -/
theorem TurnTale.last (h : TurnTale authorization s before turns ending after) (name : String) :
    after.get? name = (lastBinding name turns).or (before.get? name) := by
  cases h with
  | raised => rfl
  | refused => rfl
  | accepted _ hb =>
    rw [hb.last name, lastBinding, List.flatMap_singleton]

theorem Successive.last {ι : Type} {T : Tale ι} {things : List ι}
    (hT : ∀ i before turns ending after, T i before turns ending after →
      after.get? name = (lastBinding name turns).or (before.get? name))
    (h : Successive T things before turns ending after) :
    after.get? name = (lastBinding name turns).or (before.get? name) := by
  induction h with
  | done => rfl
  | next ha _ ih => rw [ih, hT _ _ _ _ _ ha, lastBinding_append, Option.or_assoc]
  | ended ha => exact hT _ _ _ _ _ ha

/-- A step leaves the last value bound to a name over which it does not iterate. -/
theorem StepTale.last {number : Nat}
    (h : StepTale authorization (s, number) before turns ending after)
    (hn : ¬ IteratesOver s before name) :
    after.get? name = (lastBinding name turns).or (before.get? name) := by
  cases h with
  | incomplete => rfl
  | once _ _ ht => exact ht.last name
  | @repeated _ _ _ _ _ _ loop value hc hloop ht =>
    have hne : ¬ loop = name := by
      rintro rfl
      exact hn ⟨hc, value, hloop⟩
    rw [Store.get?_bind, if_neg hne]
    refine ht.last ?_
    intro element before turns ending after hturn
    rw [hturn.last name, Store.get?_bind, if_neg hne]

/-- A part of a run is told by these turns and this end: they are a tale of what it did from `p`
on, their lines are what the trace got, and their calls are the calls it made. -/
structure Told {ι : Type} (T : Tale ι) (thing : ι) (p : Progress) (log : List (Call × CallResult))
    (out : Outcome) (turns : List Turn) (ending : Ending) : Prop where
  tale : T thing p.store turns ending out.2.store
  lines : traceLines out.2.events =
    traceLines p.events ++ (turns.flatMap Turn.lines ++ ending.line?.toList)
  calls : turns.map Turn.exchange = log
  passed : out.1 = none ↔ ending = .through
  status : statusOf out.1 = ending.status

theorem traceLines_record (p : Progress) (e : Event) :
    traceLines (p.record e).events = traceLines p.events ++ e.traceLine?.toList := by
  cases he : e.traceLine? <;> simp [traceLines, he]

variable {p : Progress} {log : List (Call × CallResult)} {out : Outcome}

/-- What went through is followed by what came next. -/
theorem Told.next {ι : Type} {T : Tale ι} {i : ι} {rest : List ι} {q : Progress}
    {log' : List (Call × CallResult)} {turns' : List Turn} {ending' : Ending}
    (h : Told T i p log (none, q) turns ending)
    (h' : Told (Successive T) rest q log' out turns' ending') :
    Told (Successive T) (i :: rest) p (log ++ log') out (turns ++ turns') ending' := by
  obtain rfl : ending = .through := h.passed.1 rfl
  refine ⟨.next h.tale h'.tale, ?_, ?_, h'.passed, h'.status⟩
  · have hlines := h.lines
    dsimp only at hlines
    rw [h'.lines, hlines]
    simp [Ending.line?]
  · rw [List.map_append, h.calls, h'.calls]

theorem Told.ended {ι : Type} {T : Tale ι} {i : ι} {rest : List ι} {failure : Failure}
    {q : Progress} (h : Told T i p log (some failure, q) turns ending) :
    Told (Successive T) (i :: rest) p log (some failure, q) turns ending := by
  have hending : ending ≠ .through := fun he => Option.some_ne_none failure (h.passed.2 he)
  exact ⟨.ended h.tale hending, h.lines, h.calls, h.passed, h.status⟩

theorem Told.done {ι : Type} (T : Tale ι) (p : Progress) :
    Told (Successive T) [] p [] (none, p) [] .through :=
  ⟨.done, by simp [Ending.line?], rfl, by simp, rfl⟩

/-- A turn for an element starts with the variable bound to it. -/
theorem Told.turn {element : String}
    (h : Told (TurnTale authorization) s (p.bind name (.text element)) log out turns ending) :
    Told (fun element store => TurnTale authorization s (store.bind name (.text element))) element
      p log out turns ending :=
  ⟨h.tale, h.lines, h.calls, h.passed, h.status⟩

/-- That a failure stopped the run is noted in the log, but the trace gets no line for it. -/
theorem Told.stopped {ι : Type} {T : Tale ι} {thing : ι} {failure : Failure} {q : Progress}
    (number : Nat) (h : Told T thing p log (some failure, q) turns ending) :
    Told T thing p log (some failure, stop number failure q) turns ending := by
  refine ⟨?_, ?_, h.calls, h.passed, h.status⟩
  · rw [store_stop]
    exact h.tale
  · have hnote : traceLines (stop number failure q).events = traceLines q.events := by
      unfold stop
      split
      · rfl
      · rw [traceLines_record]
        simp [Event.traceLine?]
    rw [hnote]
    exact h.lines

end RequestChain.Run
