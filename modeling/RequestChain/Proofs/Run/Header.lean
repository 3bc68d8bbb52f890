import Mathlib
import RequestChain.Proofs.Authorization
import RequestChain.Proofs.Dialogue.Simulation
import RequestChain.Proofs.Run.Plays

namespace RequestChain

def Call.carrying (authorization : Option String) (c : Call) : Call :=
  { c with authorization := authorization }

def Event.carrying (authorization : Option String) : Event → Event
  | .calling call => .calling (call.carrying authorization)
  | .replied call reply => .replied (call.carrying authorization) reply
  | .raised call message => .raised (call.carrying authorization) message
  | .unevaluated call path error => .unevaluated (call.carrying authorization) path error
  | .noSteps => .noSteps
  | .incomplete number => .incomplete number
  | .iterating name count => .iterating name count
  | .unmatched name path => .unmatched name path
  | .bound name wire => .bound name wire
  | .stopped number failure => .stopped number failure

def Progress.carrying (authorization : Option String) (p : Progress) : Progress :=
  ⟨p.store, p.events.map (Event.carrying authorization)⟩

theorem Event.traceLine?_carrying (authorization : Option String) (e : Event) :
    (e.carrying authorization).traceLine? = e.traceLine? := by
  cases e <;> rfl

theorem Event.logEntry?_carrying (authorization : Option String) (e : Event) :
    Event.logEntry? (e.carrying authorization) = Event.logEntry? e := by
  cases e <;> rfl

theorem Progress.record_carrying (authorization : Option String) (p : Progress) (e : Event) :
    (p.record e).carrying authorization =
      (p.carrying authorization).record (e.carrying authorization) := by
  simp [carrying, record]

def Outcome.carrying (authorization : Option String) (out : Outcome) : Outcome :=
  (out.1, out.2.carrying authorization)

namespace Run

/-- What is bound does not depend on the header of the call. -/
theorem bindReturns_carrying (authorization : Option String) (call : Call) (repeats : Bool)
    (document : Except ExtractionError Json) (entries : List (String × String)) (p : Progress) :
    bindReturns (call.carrying authorization) repeats document entries
        (p.carrying authorization) =
      Outcome.carrying authorization (bindReturns call repeats document entries p) := by
  induction entries generalizing p with
  | nil => rfl
  | cons entry rest ih =>
    obtain ⟨name, expression⟩ := entry
    have hselected : selected (call.carrying authorization) document expression
        (p.carrying authorization).store = selected call document expression p.store := rfl
    rw [bindReturns_cons, bindReturns_cons, hselected]
    split
    · rw [Outcome.carrying, Progress.record_carrying]
      rfl
    · rw [← ih, Progress.record_carrying]
      rfl
    · rw [← ih, Progress.record_carrying]
      rfl

theorem settle_carrying (authorization : Option String) (s : Step) (call : Call)
    (result : CallResult) (p : Progress) :
    settle s (call.carrying authorization) result (p.carrying authorization) =
      Outcome.carrying authorization (settle s call result p) := by
  cases result with
  | error message =>
    rw [settle_error, settle_error, Outcome.carrying, Progress.record_carrying]
    rfl
  | ok reply =>
    cases hs : Reply.isSuccess reply.status with
    | false =>
      rw [settle_refused hs, settle_refused hs, Outcome.carrying, Progress.record_carrying]
      rfl
    | true =>
      rw [settle_accepted hs, settle_accepted hs, ← bindReturns_carrying,
        Progress.record_carrying]
      rfl

/-- A part of a run with another header is the same part with the other header on its calls. -/
def Carries (authorization : Option String) (other part : Calling Outcome) : Prop :=
  other = (part.asking (Call.carrying authorization)).map (Outcome.carrying authorization)

theorem execute_carries (other authorization : Option String) (s : Step) (p : Progress) :
    Carries other (execute other s (p.carrying other)) (execute authorization s p) := by
  unfold Carries execute
  dsimp only [Dialogue.asking, Dialogue.map]
  have hcall : s.call (p.carrying other).store other =
      (s.call p.store authorization).carrying other := rfl
  rw [hcall]
  congr 1
  funext result
  rw [← settle_carrying, Progress.record_carrying]
  rfl

/-- Parts that go on with parts. -/
theorem Carries.bind {other : Option String} {part part' : Calling Outcome}
    {next next' : Outcome → Calling Outcome} (h : Carries other part' part)
    (hn : ∀ out, Carries other (next' (Outcome.carrying other out)) (next out)) :
    Carries other (part'.bind next') (part.bind next) := by
  unfold Carries at h ⊢
  rw [h, Dialogue.map_bind, Dialogue.asking_bind, Dialogue.bind_map]
  congr 1
  funext out
  exact hn out

theorem iterate_carries (other authorization : Option String) (s : Step) (name : String)
    (elements : List String) (p : Progress) :
    Carries other (iterate other s name elements (p.carrying other))
      (iterate authorization s name elements p) := by
  induction elements generalizing p with
  | nil => rfl
  | cons element rest ih =>
    refine (execute_carries other authorization s (p.bind name (.text element))).bind ?_
    rintro ⟨failure, q⟩
    cases failure with
    | some failure => rfl
    | none => exact ih q

theorem runComplete_carries (other authorization : Option String) (s : Step) (p : Progress) :
    Carries other (runComplete other s (p.carrying other)) (runComplete authorization s p) := by
  have hloop : s.loop? (p.carrying other).store = s.loop? p.store := rfl
  unfold runComplete
  rw [hloop]
  split
  · exact execute_carries other authorization s p
  · rename_i name value _
    have h := iterate_carries other authorization s name value.elements
      (p.record (.iterating name value.elements.length))
    rw [Progress.record_carrying] at h
    unfold Carries at h ⊢
    dsimp only [Event.carrying] at h
    rw [h, Dialogue.map_map, Dialogue.asking_map, Dialogue.map_map]
    rfl

theorem runStep_carries (other authorization : Option String) (number : Nat) (s : Step)
    (p : Progress) :
    Carries other (runStep other number s (p.carrying other))
      (runStep authorization number s p) := by
  unfold runStep
  split
  · exact runComplete_carries other authorization s p
  · unfold Carries
    dsimp only [Dialogue.asking, Dialogue.map, Outcome.carrying]
    rw [Progress.record_carrying]
    rfl

theorem stop_carrying (other : Option String) (number : Nat) (failure : Failure) (p : Progress) :
    stop number failure (p.carrying other) = (stop number failure p).carrying other := by
  unfold stop
  split
  · rfl
  · rw [Progress.record_carrying]
    rfl

theorem runSteps_carries (other authorization : Option String) (number : Nat)
    (steps : List Step) (p : Progress) :
    Carries other (runSteps other number steps (p.carrying other))
      (runSteps authorization number steps p) := by
  induction steps generalizing p number with
  | nil => rfl
  | cons step rest ih =>
    refine (runStep_carries other authorization number step p).bind ?_
    rintro ⟨failure, q⟩
    cases failure with
    | some failure =>
      unfold Carries
      dsimp only [Dialogue.asking, Dialogue.map, Outcome.carrying]
      rw [stop_carrying]
    | none => exact ih (number + 1) q

theorem runRequest_carrying (other authorization : Option String) (request : Request) :
    runRequest request other =
      ((runRequest request authorization).asking (Call.carrying other)).map
        fun out => (out.1, out.2.carrying other) := by
  unfold runRequest
  split
  · rfl
  · have h := runSteps_carries other authorization 1 (request.steps.getD []) .start
    unfold Carries at h
    have hstart : Progress.start.carrying other = Progress.start := rfl
    rw [hstart] at h
    rw [h, Dialogue.map_map, Dialogue.asking_map, Dialogue.map_map]
    rfl

/-- The text of the answer does not show the header. -/
theorem report_carrying (other : Option String) (request : Request) (p : Progress) :
    report request (p.carrying other) = report request p := by
  have hlines : (p.carrying other).events.filterMap Event.traceLine? =
      p.events.filterMap Event.traceLine? := by
    rw [Progress.carrying, List.filterMap_map]
    exact congrArg (p.events.filterMap ·) (funext (Event.traceLine?_carrying other))
  unfold report
  rw [hlines]
  rfl

/-- A request with another header is the same run, asked with the other header. -/
theorem run_carrying (request : Request) (header header' : Option String) :
    request.run header' =
      (request.run header).asking (Call.carrying (Authorization.forwarded header')) := by
  have hlog : ∀ p : Progress,
      (p.carrying (Authorization.forwarded header')).events.filterMap Event.logEntry? =
        p.events.filterMap Event.logEntry? := by
    intro p
    rw [Progress.carrying, List.filterMap_map]
    exact congrArg (p.events.filterMap ·) (funext (Event.logEntry?_carrying _))
  unfold Request.run
  rw [runRequest_carrying (Authorization.forwarded header') (Authorization.forwarded header),
    Dialogue.map_map, Dialogue.asking_map]
  congr 1
  funext out
  dsimp only
  rw [report_carrying, hlog]

theorem authorization_of_plays {request : Request} {header : Option String}
    {log : List (Call × CallResult)} {answer : Answer} (h : (request.run header).Plays log answer) :
    ∀ exchange ∈ log, exchange.1.authorization = Authorization.forwarded header := by
  intro exchange he
  obtain ⟨s, _, _, store, hcall⟩ := Request.isCallOf_of_plays_run h exchange he
  rw [hcall]
  rfl

/-- When the caller's header is absent or all blank, no call of the run carries one. Otherwise each
call carries the header without the blanks around it: the header is split at its first space and
joined again, which loses nothing, and what was carried on is carried on as it is. The header
reaches nothing else: a run with another header makes the same calls with the other header on them,
and it comes to the same answer when it gets the same answers to its calls. -/
theorem header_is_carried_on_and_reaches_nothing_else (request : Request) :
    (∀ header log answer, (request.run header).Plays log answer →
      (header.all fun h => h.toList.all Text.isBlank) = true →
        ∀ exchange ∈ log, exchange.1.authorization = none) ∧
    (∀ h log answer, (request.run (some h)).Plays log answer →
      h.toList.all Text.isBlank = false →
        ∀ exchange ∈ log, exchange.1.authorization = some (Text.strip h)) ∧
    (∀ h, ∃ before after, h.toList = before ++ (Text.strip h).toList ++ after ∧
      before.all Text.isBlank = true ∧ after.all Text.isBlank = true ∧
      Text.IsTrimmed Text.isBlank (Text.strip h).toList) ∧
    (∀ h, h.toList.all Text.isBlank = false → ∃ scheme credential,
      Authorization.split (some h) = some (scheme, credential) ∧ ' ' ∉ scheme.toList ∧
      Authorization.join (scheme, credential) = Text.strip h) ∧
    (∀ header, Authorization.forwarded (Authorization.forwarded header) =
      Authorization.forwarded header) ∧
    ∀ header header' log answer, (request.run header).Plays log answer →
      (request.run header').Plays
        (log.map fun e => (e.1.carrying (Authorization.forwarded header'), e.2)) answer ∧
      ∀ log' answer', (request.run header').Plays log' answer' →
        log.map Prod.snd <+: log'.map Prod.snd →
          answer' = answer ∧
          log'.map (fun e => (e.1.method, e.1.url, e.1.body, e.2)) =
            log.map fun e => (e.1.method, e.1.url, e.1.body, e.2) := by
  refine ⟨?_, ?_, ?_, ?_, Authorization.forwarded_forwarded, ?_⟩
  · intro header log answer hplay hblank exchange he
    rw [authorization_of_plays hplay exchange he]
    cases header with
    | none => rfl
    | some h => exact Authorization.forwarded_of_blank hblank
  · intro h log answer hplay hblank exchange he
    rw [authorization_of_plays hplay exchange he, Authorization.forwarded_of_not_blank hblank]
  · intro h
    rw [Text.strip, String.toList_ofList]
    exact Text.exists_trim_eq Text.isBlank h.toList
  · intro h hblank
    exact Authorization.join_split hblank
  · intro header header' log answer hplay
    have hother : (request.run header').Plays
        (log.map fun e => (e.1.carrying (Authorization.forwarded header'), e.2)) answer := by
      rw [run_carrying request header header']
      exact Dialogue.plays_asking_iff.2 ⟨log, hplay, rfl⟩
    refine ⟨hother, ?_⟩
    intro log' answer' hplay' hanswers
    obtain ⟨rfl, rfl⟩ := hother.unique hplay' (by rw [List.map_map]; exact hanswers)
    refine ⟨rfl, ?_⟩
    rw [List.map_map]
    rfl

/-- Blanks around the header go and those in it stay, in each turn of an iteration. The run without
a header gives the same answer. -/
theorem header_is_on_the_calls_of_each_turn :
    let step (endpoint : String) (loop : Option String) : Step :=
      ⟨some "get", some endpoint, none, some [("ids", "ids")], loop⟩
    let request : Request :=
      ⟨some [step "/start" none, step "/items/\x7bids\x7d" (some "ids")], .null, true⟩
    let header := "\tBearer  a b "
    header.toList.all Text.isBlank = false ∧ ∃ log log' answer,
      (request.run (some header)).Plays log answer ∧ log.map (fun e => e.1.url) =
        ["/start", "/items/1", "/items/2"] ∧
      (∀ exchange ∈ log, exchange.1.authorization = some "Bearer  a b") ∧
      (request.run none).Plays log' answer ∧
      ∀ exchange ∈ log', exchange.1.authorization = none := by
  intro step request header
  have hblank : header.toList.all Text.isBlank = false := by decide +kernel
  have hstrip : Text.strip header = "Bearer  a b" := by decide +kernel
  have heval : ((request.run (some header)).against
      [.ok ⟨200, "\x7b\"ids\": [1, 2]\x7d", ""⟩, .ok ⟨200, "\x7b\x7d", ""⟩,
        .ok ⟨404, "", ""⟩]).map (fun played => played.1.map fun e => e.1.url) =
      some ["/start", "/items/1", "/items/2"] := by
    cbv
  obtain ⟨⟨log, answer⟩, hagainst, hurls⟩ := Option.map_eq_some_iff.1 heval
  have hplay := Dialogue.plays_of_against hagainst
  obtain ⟨hnone, hsome, _, _, _, hother⟩ := header_is_carried_on_and_reaches_nothing_else request
  obtain ⟨hplay', _⟩ := hother (some header) none log answer hplay
  refine ⟨hblank, log, _, answer, hplay, hurls, ?_, hplay', hnone none _ answer hplay' rfl⟩
  rw [← hstrip]
  exact hsome header log answer hplay hblank

end Run
end RequestChain
