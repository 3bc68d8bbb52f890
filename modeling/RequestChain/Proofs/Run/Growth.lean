import Mathlib
import RequestChain.Proofs.Run.Content
import RequestChain.Proofs.Run.Executed
import RequestChain.Proofs.Variable.Place

namespace RequestChain

def Step.returned (s : Step) : List String := Entries.names (s.returns.getD [])

def Event.boundName? : Event → Option String
  | .bound name _ => some name
  | _ => none

/-- The names stand in the order in which they were first bound. -/
def Progress.InOrder (p : Progress) : Prop :=
  p.store.names = (p.events.filterMap Event.boundName?).eraseDups

namespace Run

/-- What was bound is bound, in its old place; only the given names got other values; and if the
names stood in the order of their binding, they still do. -/
structure Grows (names : List String) (p q : Progress) : Prop where
  order : p.store.names <+: q.store.names
  kept : ∀ name, name ∉ names → q.store.get? name = p.store.get? name
  inOrder : p.InOrder → q.InOrder

namespace Grows

variable {names names' : List String} {name : String} {value : Bound} {p q r : Progress}

theorem refl (names : List String) (p : Progress) : Grows names p p :=
  ⟨List.prefix_rfl, fun _ _ => rfl, id⟩

theorem trans (h : Grows names p q) (h' : Grows names q r) : Grows names p r :=
  ⟨h.order.trans h'.order, fun name hn => (h'.kept name hn).trans (h.kept name hn),
    fun hp => h'.inOrder (h.inOrder hp)⟩

theorem mono (h : Grows names p q) (hsub : names ⊆ names') : Grows names' p q :=
  ⟨h.order, fun name hn => h.kept name fun hm => hn (hsub hm), h.inOrder⟩

/-- A name that was not there before is one of those that may grow. -/
theorem mem_of_new (h : Grows names p q) (hq : name ∈ q.store.names)
    (hp : name ∉ p.store.names) : name ∈ names := by
  apply Classical.byContradiction
  intro hn
  obtain ⟨value, hv⟩ := Store.mem_names_iff.1 hq
  rw [h.kept name hn] at hv
  exact hp (Store.mem_names_iff.2 ⟨value, hv⟩)

theorem record (names : List String) (p : Progress) {e : Event} (he : e.boundName? = none) :
    Grows names p (p.record e) := by
  refine ⟨List.prefix_rfl, fun _ _ => rfl, fun hp => ?_⟩
  simpa [Progress.InOrder, he] using hp

theorem rebind (hm : name ∈ p.store.names) (hn : name ∈ names) :
    Grows names p (p.bind name value) := by
  have hsame : (p.bind name value).store.names = p.store.names := Store.names_bind_of_mem hm
  refine ⟨hsame ▸ List.prefix_rfl, ?_, fun hp => ?_⟩
  · intro other ho
    have hne : ¬ name = other := fun he => ho (he ▸ hn)
    rw [Progress.store_bind, Store.get?_bind, if_neg hne]
  · rw [Progress.InOrder, hsame, Progress.events_bind]
    exact hp

theorem bound (hn : name ∈ names) (wire : String) :
    Grows names p ((p.bind name value).record (.bound name wire)) := by
  refine ⟨?_, ?_, fun hp => ?_⟩
  · rw [Progress.store_record, Progress.store_bind, Store.names_bind]
    split
    · exact List.prefix_rfl
    · exact List.prefix_append _ _
  · intro other ho
    have hne : ¬ name = other := fun he => ho (he ▸ hn)
    rw [Progress.store_record, Progress.store_bind, Store.get?_bind, if_neg hne]
  · -- the binding is told of as it is made, so a new name comes last in both orders
    have hold : p.store.names = (p.events.filterMap Event.boundName?).eraseDups := hp
    have hevents : ((p.bind name value).record (.bound name wire)).events.filterMap
        Event.boundName? = p.events.filterMap Event.boundName? ++ [name] := by
      simp [Event.boundName?]
    rw [Progress.InOrder, hevents, Entries.eraseDups_append_singleton, Progress.store_record,
      Progress.store_bind, Store.names_bind, hold]
    simp only [List.mem_eraseDups]

/-- When the value of a variable is put back, it is as if it had not been among the names. -/
theorem restore (h : Grows (name :: names) p q) (hv : p.store.get? name = some value) :
    Grows names p (q.bind name value) := by
  have hm : name ∈ q.store.names := h.order.subset (Store.mem_names_iff.2 ⟨value, hv⟩)
  have hback : Grows (name :: names) p (q.bind name value) :=
    h.trans (rebind hm List.mem_cons_self)
  refine ⟨hback.order, ?_, hback.inOrder⟩
  intro other ho
  -- `name` may have any value in `q`, but it is bound to its old one after that
  by_cases he : name = other
  · subst he
    rw [Progress.store_bind, Store.get?_bind, if_pos rfl, hv]
  · refine hback.kept other fun hmem => ?_
    rcases List.mem_cons.1 hmem with heq | hin
    · exact he heq.symm
    · exact ho hin

end Grows

variable {authorization : Option String} {s : Step} {p : Progress} {number : Nat}
  {log : List (Call × CallResult)} {out : Outcome}

/-- The entries of a step bind their own names only. -/
theorem bindReturns_grows (call : Call) (repeats : Bool)
    (document : Except ExtractionError Json) (entries : List (String × String)) (p : Progress) :
    Grows (Entries.names entries) p (bindReturns call repeats document entries p).2 := by
  induction entries generalizing p with
  | nil => exact .refl _ p
  | cons entry rest ih =>
    obtain ⟨name, expression⟩ := entry
    have hrest : Entries.names rest ⊆ Entries.names ((name, expression) :: rest) :=
      List.subset_cons_self _ _
    have hname : name ∈ Entries.names ((name, expression) :: rest) := List.mem_cons_self
    rw [bindReturns_cons]
    split
    · exact .record _ p rfl
    · exact (Grows.record _ p rfl).trans ((ih _).mono hrest)
    · exact (Grows.bound hname _).trans ((ih _).mono hrest)

theorem settle_grows (s : Step) (call : Call) (result : CallResult) (p : Progress) :
    Grows s.returned p (settle s call result p).2 := by
  cases result with
  | error message => exact .record _ p rfl
  | ok reply =>
    cases hs : Reply.isSuccess reply.status with
    | false =>
      rw [settle_refused hs]
      exact .record _ p rfl
    | true =>
      rw [settle_accepted hs]
      exact (Grows.record _ p rfl).trans (bindReturns_grows _ _ _ _ _)

theorem execute_grows (h : (execute authorization s p).Plays log out) :
    Grows s.returned p out.2 := by
  obtain ⟨result, rfl, rfl⟩ := plays_execute_iff.1 h
  exact (Grows.record _ p rfl).trans (settle_grows s _ result _)

/-- An iteration may also change the variable that it goes through. -/
theorem iterate_grows {name : String} {elements : List String} (hm : name ∈ p.store.names)
    (h : (iterate authorization s name elements p).Plays log out) :
    Grows (name :: s.returned) p out.2 := by
  induction elements generalizing p log with
  | nil =>
    obtain ⟨_, rfl⟩ := plays_iterate_nil_iff.1 h
    exact .refl _ p
  | cons element rest ih =>
    have hbind : Grows (name :: s.returned) p (p.bind name (.text element)) :=
      .rebind hm List.mem_cons_self
    have hsub : s.returned ⊆ name :: s.returned := List.subset_cons_self _ _
    rcases plays_iterate_cons_iff.1 h with ⟨failure, q, hx, rfl⟩ | ⟨_, _, q, _, hx, hr⟩
    · exact hbind.trans ((execute_grows hx).mono hsub)
    · have hturn := hbind.trans ((execute_grows hx).mono hsub)
      exact hturn.trans (ih (hturn.order.subset hm) hr)

theorem runStep_grows (h : (runStep authorization number s p).Plays log out) :
    Grows s.returned p out.2 := by
  rcases plays_runStep_iff.1 h with ⟨_, hc⟩ | ⟨_, _, rfl⟩
  · rcases plays_runComplete_iff.1 hc with ⟨_, hx⟩ | ⟨name, value, hloop, failure, q, hi, rfl⟩
    · exact execute_grows hx
    · have hv := (Step.loop?_eq_some_iff.1 hloop).2.2
      have hm : name ∈ p.store.names := Store.mem_names_iff.2 ⟨value, hv⟩
      have hloops := (Grows.record _ p rfl).trans (iterate_grows hm hi)
      exact hloops.restore hv
  · exact .record _ p rfl

theorem stop_grows (names : List String) (number : Nat) (failure : Failure) (p : Progress) :
    Grows names p (stop number failure p) := by
  unfold stop
  split
  · exact .refl _ p
  · exact .record _ p rfl

/-- Steps in order bind what each of them returns, and the names stay in the order of their binding.
-/
theorem runSteps_grows {steps : List Step}
    (h : (runSteps authorization number steps p).Plays log out) :
    Grows (steps.flatMap Step.returned) p out.2 := by
  induction steps generalizing p log number with
  | nil =>
    obtain ⟨_, rfl⟩ := plays_runSteps_nil_iff.1 h
    exact .refl _ p
  | cons step rest ih =>
    have hfirst : step.returned ⊆ (step :: rest).flatMap Step.returned := by simp
    have hrest : rest.flatMap Step.returned ⊆ (step :: rest).flatMap Step.returned := by simp
    rcases plays_runSteps_cons_iff.1 h with ⟨failure, q, hx, rfl⟩ | ⟨_, _, q, _, hx, hr⟩
    · exact ((runStep_grows hx).mono hfirst).trans (stop_grows _ _ _ _)
    · exact ((runStep_grows hx).mono hfirst).trans ((ih hr).mono hrest)

/-- A name that steps bind is first bound by one of those that are executed. -/
theorem exists_executes_of_new {steps : List Step} {name : String}
    (h : (runSteps authorization number steps p).Plays log out)
    (hm : name ∈ out.2.store.names) (hp : name ∉ p.store.names) :
    ∃ s q out', Executes authorization number steps p log s q out' ∧ name ∈ s.returned ∧
      name ∉ q.store.names ∧ name ∈ out'.2.store.names := by
  induction steps generalizing p log number with
  | nil =>
    obtain ⟨_, rfl⟩ := plays_runSteps_nil_iff.1 h
    exact absurd hm hp
  | cons step rest ih =>
    rcases plays_runSteps_cons_iff.1 h with
      ⟨failure, q, hx, rfl⟩ | ⟨before, after, q, rfl, hx, hr⟩
    · rw [store_stop] at hm
      rw [← List.append_nil log]
      exact ⟨step, p, _, .here hx, (runStep_grows hx).mem_of_new hm hp, hp, hm⟩
    · by_cases hq : name ∈ q.store.names
      · exact ⟨step, p, _, .here hx, (runStep_grows hx).mem_of_new hq hp, hp, hq⟩
      · obtain ⟨s, q', out', hs, hrest⟩ := ih hr hq
        exact ⟨s, q', out', .later hx hs, hrest⟩

/-- However a step ends, the names bound before it are the first of the names bound after it, in
the same order and none twice; each name after them is one that the step returns; and a variable
that the step does not return has its value. So at the end of a run, whose text is made from the
variables, the names are those of all bindings in the order of the first of each, and each was
bound first by a step which the run came to and which returns it. -/
theorem variables_grow_in_the_order_of_binding (authorization : Option String) :
    (∀ number s p log out, (runStep authorization number s p).Plays log out →
      p.store.names <+: out.2.store.names ∧ out.2.store.names.Nodup ∧
      (∀ name ∈ out.2.store.names, name ∉ p.store.names → name ∈ s.returned) ∧
      ∀ name, name ∉ s.returned → out.2.store.get? name = p.store.get? name) ∧
    ∀ request header log answer, (Request.run request header).Plays log answer → ∃ p : Progress,
      (runRequest request (Authorization.forwarded header)).Plays log (answer.status, p) ∧
      answer.content = preface request.debug p.events ++
        (Report.body request.response p.store.scope ++ "\n") ∧
      Entries.names p.store.scope = (p.events.filterMap Event.boundName?).eraseDups ∧
      ∀ name ∈ Entries.names p.store.scope, ∃ s q out,
        Executes (Authorization.forwarded header) 1 (request.steps.getD []) .start log s q out ∧
        name ∈ s.returned ∧ name ∉ q.store.names ∧ name ∈ out.2.store.names := by
  refine ⟨?_, ?_⟩
  · intro number s p log out h
    have hg := runStep_grows h
    exact ⟨hg.order, out.2.store.nodup, fun name hm hp => hg.mem_of_new hm hp, hg.kept⟩
  · intro request header log answer h
    obtain ⟨p, hp, hc, _⟩ := Request.plays_run_iff.1 h
    refine ⟨p, hp, hc.trans (report_text request p), ?_⟩
    rw [Store.names_scope]
    rcases plays_runRequest_iff.1 hp with ⟨_, _, _, rfl⟩ | ⟨_, failure, hsteps, _⟩
    · exact ⟨rfl, by simp [Progress.start, Store.empty, Store.names, Entries.names]⟩
    · refine ⟨(runSteps_grows hsteps).inOrder rfl, ?_⟩
      intro name hm
      have hstart : name ∉ Progress.start.store.names := by
        simp [Progress.start, Store.empty, Store.names, Entries.names]
      exact exists_executes_of_new hsteps hm hstart

/-- A run that is refused in the second turn of an iteration ends with what the first turn bound,
after what was bound before it. -/
theorem refused_turn_leaves_names_in_order :
    let first : Step := ⟨some "get", some "/start", none, some [("ids", "ids")], none⟩
    let step : Step :=
      ⟨some "get", some "/items/\x7bids\x7d", none, some [("v", "v")], some "ids"⟩
    let request : Request := ⟨some [first, step], .null, false⟩
    ∃ log answer p, (request.run none).Plays log answer ∧ answer.status = 500 ∧
      (runRequest request none).Plays log (answer.status, p) ∧
      Entries.names p.store.scope = ["ids", "v"] ∧
      (p.events.filterMap Event.boundName?).eraseDups = ["ids", "v"] ∧
      ∃ s q out, Executes none 1 [first, step] .start log s q out ∧ "v" ∈ s.returned ∧
        "v" ∉ q.store.names ∧ "v" ∈ out.2.store.names ∧ q.store.names <+: out.2.store.names := by
  intro first step request
  have heval : ((runRequest request none).against
      [.ok ⟨200, "\x7b\"ids\": [1, 2]\x7d", ""⟩, .ok ⟨200, "\x7b\"v\": \"x\"\x7d", ""⟩,
        .ok ⟨404, "", ""⟩]).map
      (fun played => (played.2.1, Entries.names played.2.2.store.scope)) =
      some (500, ["ids", "v"]) := by
    cbv
  obtain ⟨⟨log, status, p⟩, hagainst, he⟩ := Option.map_eq_some_iff.1 heval
  obtain ⟨hstatus, hnames⟩ := Prod.mk.inj he
  have hp := Dialogue.plays_of_against hagainst
  let answer : Answer := ⟨status, (report request p).text, p.events.filterMap Event.logEntry?⟩
  have hrun : (request.run none).Plays log answer := Request.plays_run_iff.2 ⟨p, hp, rfl, rfl⟩
  obtain ⟨hstep, hwhole⟩ := variables_grow_in_the_order_of_binding none
  obtain ⟨last, hlast, _, horder, hdeclared⟩ := hwhole request none log answer hrun
  obtain ⟨_, heq⟩ := hp.unique hlast List.prefix_rfl
  obtain ⟨_, rfl⟩ := Prod.mk.inj heq
  have hv : "v" ∈ Entries.names p.store.scope := by simp [hnames]
  obtain ⟨s, q, out, hexec, hreturned, hnew, hbound⟩ := hdeclared "v" hv
  obtain ⟨number, log', hplay⟩ := hexec.exists_plays
  exact ⟨log, answer, p, hrun, hstatus, hp, hnames, horder.symm.trans hnames, s, q, out, hexec,
    hreturned, hnew, hbound, (hstep number s q log' out hplay).1⟩

end Run
end RequestChain
