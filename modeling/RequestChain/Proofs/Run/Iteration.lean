import Mathlib
import RequestChain.Proofs.Run.FailFast
import RequestChain.Proofs.Variable.Merge

namespace RequestChain.Run

/-- What the expression of a name selects among the entries of a step. It is evaluated after the
entries before it have been bound. -/
def matchesFor (name : String) (call : Call) (repeats : Bool)
    (document : Except ExtractionError Json) :
    List (String × String) → Progress → Except ExtractionError (List Json)
  | [], _ => .ok []
  | (other, expression) :: rest, p =>
    if other = name then selected call document expression p.store
    else
      matchesFor name call repeats document rest
        (bindReturns call repeats document [(other, expression)] p).2

def matchesOfTurn (s : Step) (name : String) (call : Call) (result : CallResult) (p : Progress) :
    Except ExtractionError (List Json) :=
  match result with
  | .error _ => .ok []
  | .ok reply =>
    matchesFor name call s.repeats (Selection.document reply.text) (s.returns.getD [])
      (p.record (.replied call reply))

/-- What the expression of a name selects in each turn of an iteration, against these results of
the calls. -/
def matchesOfTurns (authorization : Option String) (s : Step) (loop name : String) :
    List String → List CallResult → Progress → List (Except ExtractionError (List Json))
  | element :: elements, result :: results, p =>
    let p := p.bind loop (.text element)
    let call := s.call p.store authorization
    let p := p.record (.calling call)
    matchesOfTurn s name call result p ::
      matchesOfTurns authorization s loop name elements results (settle s call result p).2
  | _, _, _ => []

variable {authorization : Option String} {s : Step} {p q : Progress} {name loop : String}
  {log : List (Call × CallResult)} {call : Call} {repeats : Bool}
  {document : Except ExtractionError Json}

/-- A single match is merged into what the name holds before the entries. -/
theorem get?_bindReturns {entries : List (String × String)} {v : Json}
    (hn : (Entries.names entries).Nodup) (hm : name ∈ Entries.names entries)
    (h : bindReturns call repeats document entries p = (none, q))
    (hv : matchesFor name call repeats document entries p = .ok [v]) :
    q.store.get? name =
      some (Bound.merge (p.store.get? name) (Bound.ofMatches [v]) repeats) := by
  induction entries generalizing p with
  | nil => cases hm
  | cons entry rest ih =>
    obtain ⟨other, expression⟩ := entry
    obtain ⟨hnot, hrest⟩ := List.nodup_cons.1 hn
    rw [matchesFor] at hv
    by_cases he : other = name
    · rw [if_pos he] at hv
      subst he
      rw [bindReturns_cons, hv] at h
      rw [get?_of_bindReturns hnot h, Progress.store_record, Progress.store_bind,
        Store.get?_bind, if_pos rfl]
      rfl
    · rw [if_neg he] at hv
      obtain ⟨q', h1, h2⟩ := bindReturns_cons_eq_none_iff.1 h
      have hother : name ∉ Entries.names [(other, expression)] := by
        simpa [Entries.names] using fun h => he h.symm
      have hmem : name ∈ Entries.names rest :=
        (List.mem_cons.1 hm).resolve_left fun h => he h.symm
      rw [h1] at hv
      rw [ih hrest hmem h2 hv, get?_of_bindReturns hother h1]

/-- The entries of the step have different names, as the members of an object have. The name is one
of them, and it is not that of the variable which the step is repeated for. -/
structure Returns (s : Step) (loop name : String) : Prop where
  nodup : (Entries.names (s.returns.getD [])).Nodup
  mem : name ∈ Entries.names (s.returns.getD [])
  ne : name ≠ loop

/-- One turn merges its match into what the name holds. -/
theorem get?_settle {result : CallResult} {v : Json} (hr : Returns s loop name)
    (h : settle s call result p = (none, q)) (hv : matchesOfTurn s name call result p = .ok [v]) :
    q.store.get? name =
      some (Bound.merge (p.store.get? name) (Bound.ofMatches [v]) s.repeats) := by
  cases result with
  | error message => cases h
  | ok reply =>
    cases hs : Reply.isSuccess reply.status with
    | false =>
      rw [settle_refused hs] at h
      cases h
    | true =>
      rw [settle_accepted hs] at h
      have hg := get?_bindReturns hr.nodup hr.mem h hv
      exact hg

/-- By induction on the elements: each turn merges its match into what the turns before it have
left. -/
theorem get?_iterate {elements : List String} {values : List Json} (hr : Returns s loop name)
    (hs : s.repeats = true)
    (h : (iterate authorization s loop elements p).Plays log (none, q))
    (hv : matchesOfTurns authorization s loop name elements (log.map Prod.snd) p =
      values.map fun v => .ok [v]) :
    values.length = elements.length ∧
      q.store.get? name = Bound.mergeAll (p.store.get? name) (values.map fun v => [v]) := by
  induction elements generalizing p log values with
  | nil =>
    obtain ⟨rfl, hq⟩ := plays_iterate_nil_iff.1 h
    cases hq
    obtain rfl : values = [] := List.map_eq_nil_iff.1 hv.symm
    exact ⟨rfl, rfl⟩
  | cons element rest ih =>
    rcases plays_iterate_cons_iff.1 h with ⟨_, _, _, hq⟩ | ⟨before, after, q', rfl, hx, hi⟩
    · cases hq
    obtain ⟨result, rfl, hsettle⟩ := plays_execute_iff.1 hx
    cases values with
    | nil => simp [matchesOfTurns] at hv
    | cons v values =>
      simp only [List.singleton_append, List.map_cons, matchesOfTurns, List.cons.injEq,
        ← hsettle] at hv
      obtain ⟨hl, hg⟩ := ih hi hv.2
      have hfirst := get?_settle hr hsettle.symm hv.1
      rw [Progress.store_record, Progress.store_bind, Store.get?_bind,
        if_neg fun he => hr.ne he.symm, hs] at hfirst
      exact ⟨by simp [hl], by rw [hg, hfirst]; rfl⟩

theorem repeats_of_loop? {value : Bound} (h : s.loop? p.store = some (loop, value)) :
    s.repeats = true := by
  obtain ⟨hf, hne, _⟩ := Step.loop?_eq_some_iff.1 h
  simp [Step.repeats, hf, hne]

/-- A step that is repeated for two elements or more, in which all calls succeed and all
expressions can be evaluated. If a name that was not bound selects one value in each turn, it is
then bound to a list: the elements of the first value's text, and after them the texts of the other
values in the order of the turns. Unless the first text is that of a JSON array, these are the
texts of all values. -/
theorem repeated_step_keeps_one_item_each {number : Nat} {value : Bound}
    {failure : Option Failure} {events : List Event} {first : Json} {rest : List Json}
    (hc : s.isComplete = true) (hloop : s.loop? p.store = some (loop, value))
    (hlen : 2 ≤ value.elements.length) (hr : Returns s loop name)
    (hfree : p.store.get? name = none)
    (hplay : (runStep authorization number s p).Plays log (failure, q))
    (hcalls : ∀ exchange ∈ log, succeeded exchange.2 = true)
    (hevents : q.events = p.events ++ events)
    (hevaluated : ∀ e ∈ events, e.failureKind? ≠ some .extraction)
    (hmatches : matchesOfTurns authorization s loop name value.elements (log.map Prod.snd)
      (p.record (.iterating loop value.elements.length)) = (first :: rest).map fun v => .ok [v]) :
    failure = none ∧ (first :: rest).length = value.elements.length ∧
      q.store.get? name =
        some (.list ((Bound.text first.bindingText).elements ++ rest.map Json.bindingText)) ∧
      (Bound.isArray first.bindingText = false →
        q.store.get? name = some (.list ((first :: rest).map Json.bindingText))) := by
  obtain ⟨events', issued, he, hlog, ha⟩ := runStep_keeps hplay
  obtain rfl : events = events' := List.append_cancel_left (hevents.symm.trans he)
  have hissued : ∀ i ∈ issued, succeeded i.result = true := fun i hi =>
    hcalls (i.exchange authorization) (hlog ▸ List.mem_map_of_mem hi)
  have hnone : failure = none := by
    refine ha.failFast.ending_eq_none ?_ hissued hevaluated
    intro hv
    rw [ha.incomplete_of_ending hv] at hc
    cases hc
  subst hnone
  obtain ⟨_, h⟩ | ⟨hi, _⟩ := plays_runStep_iff.1 hplay
  · obtain ⟨hn, _⟩ | ⟨_, _, hs, _, q', hi, hq⟩ := plays_runComplete_iff.1 h
    · rw [hloop] at hn
      cases hn
    · rw [hloop] at hs
      cases hs
      cases hq
      obtain ⟨hl, hg⟩ := get?_iterate hr (repeats_of_loop? hloop) hi hmatches
      have hrest : rest ≠ [] := by
        rintro rfl
        rw [← hl] at hlen
        simp at hlen
      rw [Progress.store_record, hfree, Bound.mergeAll_none_singles first hrest] at hg
      have hend : (q'.bind loop value).store.get? name = q'.store.get? name := by
        rw [Progress.store_bind, Store.get?_bind, if_neg fun he => hr.ne he.symm]
      refine ⟨rfl, hl, hend.trans hg, ?_⟩
      intro hnot
      rw [hend, hg]
      simp only [Bound.isArray, Option.isSome_eq_false_iff, Option.isNone_iff_eq_none] at hnot
      simp [Bound.elements, Bound.decodeList, hnot]
  · rw [hi] at hc
    cases hc

/-- Texts of arrays that come after the first turn stay items. -/
theorem later_array_text_is_kept :
    let step : Step := ⟨some "get", some "/items/\x7bids\x7d", none, some [("v", "v")], some "ids"⟩
    let p := Progress.start.bind "ids" (.list ["1", "2"])
    let results : List CallResult :=
      [.ok ⟨200, "\x7b\"v\": \"a\"\x7d", ""⟩, .ok ⟨200, "\x7b\"v\": \"[]\"\x7d", ""⟩]
    ∃ log q, (runStep none 1 step p).Plays log (none, q) ∧ log.map Prod.snd = results ∧
      q.store.get? "v" = some (.list ["a", "[]"]) := by
  intro step p results
  have heval : ((runStep none 1 step p).against results).map
      (fun played => (played.1.map Prod.snd, played.2.1,
        played.1.all fun exchange => succeeded exchange.2,
        played.2.2.events.all fun e => e.failureKind? ≠ some .extraction)) =
      some (results, none, true, true) := by
    cbv
  obtain ⟨⟨log, failure, q⟩, hagainst, he⟩ := Option.map_eq_some_iff.1 heval
  simp only [Prod.mk.injEq, List.all_eq_true, decide_eq_true_eq] at he
  obtain ⟨hlog, rfl, hcalls, hevaluated⟩ := he
  have hplay := Dialogue.plays_of_against hagainst
  have hmatches : matchesOfTurns none step "ids" "v" ["1", "2"] results
      (p.record (.iterating "ids" 2)) =
        [Json.str "a", Json.str "[]"].map fun v => .ok [v] := by
    cbv
  have hplain : Bound.isArray (Json.str "a").bindingText = false := by decide +kernel
  have hlist := repeated_step_keeps_one_item_each (by decide)
    (by decide : step.loop? p.store = some ("ids", .list ["1", "2"])) (by decide)
    (⟨by decide, by decide, by decide⟩ : Returns step "ids" "v") (by decide) hplay hcalls
    (List.nil_append q.events).symm hevaluated (hlog ▸ hmatches)
  exact ⟨log, q, hplay, hlog, hlist.2.2.2 hplain⟩

/-- The text of an array in the first turn does not stay an item: its own items take its place. -/
theorem first_array_text_is_spliced :
    let step : Step := ⟨some "get", some "/items/\x7bids\x7d", none, some [("v", "v")], some "ids"⟩
    let p := Progress.start.bind "ids" (.list ["1", "2"])
    let results : List CallResult :=
      [.ok ⟨200, "\x7b\"v\": \"[]\"\x7d", ""⟩, .ok ⟨200, "\x7b\"v\": \"x\"\x7d", ""⟩]
    ∃ log q, (runStep none 1 step p).Plays log (none, q) ∧ log.map Prod.snd = results ∧
      matchesOfTurns none step "ids" "v" ["1", "2"] results (p.record (.iterating "ids" 2)) =
        [.ok [.str "[]"], .ok [.str "x"]] ∧
      p.store.get? "v" = none ∧ q.store.get? "v" = some (.list ["x"]) ∧
      q.store.get? "v" ≠ some (.list (["[]", "x"].map fun s => (Json.str s).bindingText)) := by
  intro step p results
  have heval : ((runStep none 1 step p).against results).map
      (fun played => (played.1.map Prod.snd, played.2.1, played.2.2.store.get? "v")) =
      some (results, none, some (.list ["x"])) := by
    cbv
  obtain ⟨⟨log, failure, q⟩, hagainst, he⟩ := Option.map_eq_some_iff.1 heval
  simp only [Prod.mk.injEq] at he
  obtain ⟨hlog, rfl, hv⟩ := he
  have hmatches : matchesOfTurns none step "ids" "v" ["1", "2"] results
      (p.record (.iterating "ids" 2)) = [.ok [.str "[]"], .ok [.str "x"]] := by
    cbv
  refine ⟨log, q, Dialogue.plays_of_against hagainst, hlog, hmatches, by decide, hv, ?_⟩
  rw [hv]
  decide

end RequestChain.Run
