import RequestChain.Authorization
import RequestChain.Dialogue
import RequestChain.Report
import RequestChain.Request.Basic
import RequestChain.Run.Event
import RequestChain.Text.Case
import RequestChain.Variable.Store

namespace RequestChain

/-- A computation within a run. It can only be suspended at a call, and it depends on nothing but
the request, the authorization and the replies. -/
abbrev Calling := Dialogue Call CallResult

structure Progress where
  store : Store
  events : List Event

namespace Progress

def start : Progress := ⟨.empty, []⟩

def record (p : Progress) (e : Event) : Progress := { p with events := p.events ++ [e] }

def bind (p : Progress) (name : String) (value : Bound) : Progress :=
  { p with store := p.store.bind name value }

end Progress

abbrev Outcome := Option Failure × Progress

namespace Step

def renderParameters (parameters : Option (List (String × Json))) (scope : Scope) :
    Option (List (String × Json)) :=
  parameters.map (Json.renderObject [scope])

def repeats (s : Step) : Bool := s.forEach.any (· ≠ "")

def isComplete (s : Step) : Bool := s.method.any (· ≠ "") && s.endpoint.any (· ≠ "")

/-- The scopes for a step's texts: the variables, then its own rendered parameters. -/
def scopes (s : Step) (store : Store) : List Scope :=
  [store.scope, Json.scope ((renderParameters s.parameters store.scope).getD [])]

def call (s : Step) (store : Store) (authorization : Option String) : Call where
  method := Text.upper (Template.render (s.method.getD "") (s.scopes store))
  url := Template.render (s.endpoint.getD "") (s.scopes store)
  body := ((renderParameters s.parameters store.scope).map Json.obj).getD .null
  authorization := authorization

def loop? (s : Step) (store : Store) : Option (String × Bound) :=
  s.forEach.bind fun name => if name = "" then none else (store.get? name).map fun v => (name, v)

end Step

namespace Run

/-- The path that an expression gives: it is rendered with the variables and with what the call has
sent. -/
def pathOf (call : Call) (expression : String) (store : Store) : String :=
  Template.render expression [store.scope, Json.scope call.body.members]

def selected (call : Call) (document : Except ExtractionError Json) (expression : String)
    (store : Store) : Except ExtractionError (List Json) :=
  document.bind fun d => Selection.select d (pathOf call expression store)

def merged (repeats : Bool) (name : String) (values : List Json) (store : Store) : Bound :=
  Bound.merge (store.get? name) (Bound.ofMatches values) repeats

/-- Binds what the expressions of a step select, one after another. Each expression is rendered
with the variables as they are then, and the first that cannot be evaluated ends the step. -/
def bindReturns (call : Call) (repeats : Bool) (document : Except ExtractionError Json) :
    List (String × String) → Progress → Outcome
  | [], p => (none, p)
  | (name, expression) :: rest, p =>
    let path := pathOf call expression p.store
    match selected call document expression p.store with
    | .error e =>
      (some ⟨.extraction, s!"could not evaluate {path}: {e.message}", none⟩,
        p.record (.unevaluated call path e))
    | .ok [] => bindReturns call repeats document rest (p.record (.unmatched name path))
    | .ok (v :: vs) =>
      let value := merged repeats name (v :: vs) p.store
      bindReturns call repeats document rest ((p.bind name value).record (.bound name value.wire))

def settle (s : Step) (call : Call) (result : CallResult) (p : Progress) : Outcome :=
  match result with
  | .error message =>
    (some ⟨.unhandled, message, none⟩, p.record (.raised call message))
  | .ok reply =>
    let p := p.record (.replied call reply)
    if Reply.isSuccess reply.status then
      bindReturns call s.repeats (Selection.document reply.text) (s.returns.getD []) p
    else
      (some ⟨.downstream, s!"{call.method} {call.url} returned {reply.status}",
        some reply.status⟩, p)

def execute (authorization : Option String) (s : Step) (p : Progress) : Calling Outcome :=
  let call := s.call p.store authorization
  .ask call fun result => .done (settle s call result (p.record (.calling call)))

/-- One call for each element, with the variable bound to it, up to the first failure. -/
def iterate (authorization : Option String) (s : Step) (name : String) :
    List String → Progress → Calling Outcome
  | [], p => .done (none, p)
  | element :: rest, p =>
    (execute authorization s (p.bind name (.text element))).bind fun
      | (some failure, p) => .done (some failure, p)
      | (none, p) => iterate authorization s name rest p

/-- One complete step: repeated if its variable is bound, and then that variable gets back the
value it had, however the iteration ended. -/
def runComplete (authorization : Option String) (s : Step) (p : Progress) : Calling Outcome :=
  match s.loop? p.store with
  | none => execute authorization s p
  | some (name, value) =>
    (iterate authorization s name value.elements
      (p.record (.iterating name value.elements.length))).map fun out =>
        (out.1, out.2.bind name value)

def runStep (authorization : Option String) (number : Nat) (s : Step) (p : Progress) :
    Calling Outcome :=
  if s.isComplete then runComplete authorization s p
  else
    .done (some ⟨.validation, Event.incompleteMessage number, none⟩, p.record (.incomplete number))

/-- Notes that a failure stopped the run. An exception is noted where it happens. -/
def stop (number : Nat) (failure : Failure) (p : Progress) : Progress :=
  if failure.kind = .unhandled then p else p.record (.stopped number failure)

def runSteps (authorization : Option String) :
    Nat → List Step → Progress → Calling Outcome
  | _, [], p => .done (none, p)
  | number, s :: rest, p =>
    (runStep authorization number s p).bind fun
      | (some failure, p) => .done (some failure, stop number failure p)
      | (none, p) => runSteps authorization (number + 1) rest p

def statusOf (failure : Option Failure) : Nat := (failure.map Failure.status).getD 200

def runRequest (request : Request) (authorization : Option String) :
    Calling (Nat × Progress) :=
  match request.steps.getD [] with
  | [] => .done (400, Progress.start.record .noSteps)
  | steps =>
    (runSteps authorization 1 steps .start).map fun (failure, p) => (statusOf failure, p)

def report (request : Request) (p : Progress) : Report :=
  (p.events.filterMap Event.traceLine?).foldl Report.trace (.start request.debug)
    |>.respond request.response p.store.scope

end Run

structure Answer where
  status : Nat
  content : String
  log : List LogEntry
  deriving DecidableEq

def Request.run (request : Request) (header : Option String) : Calling Answer :=
  (Run.runRequest request (Authorization.forwarded header)).map fun (status, p) =>
    ⟨status, (Run.report request p).text, p.events.filterMap Event.logEntry?⟩

end RequestChain
