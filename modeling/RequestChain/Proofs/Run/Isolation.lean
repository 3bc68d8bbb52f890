import Mathlib
import RequestChain.Proofs.Dialogue.Concurrent
import RequestChain.Proofs.Run.Plays

namespace RequestChain.Run

open Dialogue

def dialogues (runs : List (Request × Option String)) : List (Calling Answer) :=
  runs.map fun run => run.1.run run.2

def started (runs : List (Request × Option String)) : List (Thread Call CallResult Answer) :=
  (dialogues runs).map .ready

/-- A run that has come to a thread by these signals has done what it does alone. -/
structure AsAlone (run : Request × Option String) (xs : List (Signal Call CallResult))
    (t : Thread Call CallResult Answer) : Prop where
  calls : ∀ call ∈ questions xs, ∃ s ∈ run.1.steps.getD [],
    s.isComplete = true ∧ IsCallOf (Authorization.forwarded run.2) s call
  begins : ∀ solo answer, (run.1.run run.2).Plays solo answer →
    answers xs <+: solo.map Prod.snd → xs <+: exchanges solo
  ends : ∀ solo answer, (run.1.run run.2).Plays solo answer →
    answers xs = solo.map Prod.snd → xs = exchanges solo ∧ t = .ready (.done answer)
  played : ∀ answer, t = .ready (.done answer) →
    ∃ solo, (run.1.run run.2).Plays solo answer ∧ xs = exchanges solo

theorem asAlone_of_steps {run : Request × Option String}
    {xs : List (Signal Call CallResult)} {t : Thread Call CallResult Answer}
    (h : (Thread.ready (run.1.run run.2)).Steps xs t) : AsAlone run xs t := by
  refine ⟨?_, ?_, fun _ _ hp ha => h.eq_done hp ha, ?_⟩
  · intro call hc
    obtain ⟨log, answer, hp, hx⟩ := h.exists_plays
    have hm : call ∈ log.map Prod.fst := by
      rw [← questions_exchanges]
      exact (hx.filterMap Signal.question?).subset hc
    obtain ⟨exchange, he, rfl⟩ := List.mem_map.mp hm
    exact Request.isCallOf_of_plays_run hp exchange he
  · intro solo answer hp ha
    obtain ⟨rest, he, _⟩ := h.exists_rest hp ha
    exact ⟨rest, he.symm⟩
  · rintro answer rfl
    obtain ⟨solo, hx, hp⟩ := Thread.steps_to_done_iff.1 h
    exact ⟨solo, hp, hx⟩

theorem getElem?_dialogues {runs : List (Request × Option String)} {i : Nat}
    {d : Calling Answer} :
    (dialogues runs)[i]? = some d ↔ ∃ run, runs[i]? = some run ∧ run.1.run run.2 = d := by
  rw [dialogues, List.getElem?_map, Option.map_eq_some_iff]

/-- What started runs can do at once is what each of them can do alone. -/
theorem concurrent_started_iff {runs : List (Request × Option String)}
    {log : List (Nat × Signal Call CallResult)} {after : List (Thread Call CallResult Answer)} :
    Concurrent (started runs) log after ↔
      after.length = runs.length ∧ (∀ e ∈ log, e.1 < runs.length) ∧
        ∀ (i : Nat) (run : Request × Option String) (t : Thread Call CallResult Answer),
          runs[i]? = some run → after[i]? = some t →
            (Thread.ready (run.1.run run.2)).Steps (own i log) t := by
  have hl : (started runs).length = runs.length := by simp [started, dialogues]
  rw [concurrent_iff, hl]
  refine and_congr_right fun _ => and_congr_right fun _ => ?_
  constructor
  · intro h i run t hr ht
    exact h i _ t (by simp [started, dialogues, hr]) ht
  · intro h i t u ht hu
    rw [started, List.getElem?_map, Option.map_eq_some_iff] at ht
    obtain ⟨d, hd, rfl⟩ := ht
    obtain ⟨run, hr, rfl⟩ := getElem?_dialogues.1 hd
    exact h i run u hr hu

/-- Any number of runs that go on at once, in any order and with any number of calls waiting for
their answers. What they can do is what each of them can do alone. Each has done a part of what it
does alone against its answers, with calls of its own steps under its own authorization, and once
it has all answers, all of it. When all have, the calls of the system are an interleaving of those
that each run makes alone. Runs that a schedule leads through a shared world are such runs. -/
theorem runs_at_once_as_alone (runs : List (Request × Option String)) :
    (∀ log after, Concurrent (started runs) log after ↔
      after.length = runs.length ∧ (∀ e ∈ log, e.1 < runs.length) ∧
        ∀ i run t, runs[i]? = some run → after[i]? = some t →
          (Thread.ready (run.1.run run.2)).Steps (own i log) t) ∧
    (∀ log after, Concurrent (started runs) log after →
      (∀ i run t, runs[i]? = some run → after[i]? = some t → AsAlone run (own i log) t) ∧
      ∀ solos : List (List (Call × CallResult) × Answer), solos.length = runs.length →
        (∀ i run solo, runs[i]? = some run → solos[i]? = some solo →
          (run.1.run run.2).Plays solo.1 solo.2 ∧ answers (own i log) = solo.1.map Prod.snd) →
        after = solos.map (fun solo => .ready (.done solo.2)) ∧
          Interleaving (solos.map fun solo => solo.1.map Prod.fst) (asked log)) ∧
    ∀ (σ : Type) (client : Call → σ → CallResult × σ) (turns : List Nat) (state : σ),
      let played := advanceAll client turns (dialogues runs) state
      ∃ log, Answered client state (log.map Prod.snd) played.2 ∧
        Concurrent (started runs) (exchangesOf log) (played.1.map .ready) := by
  refine ⟨fun _ _ => concurrent_started_iff, ?_, ?_⟩
  · intro log after h
    refine ⟨?_, ?_⟩
    · intro i run t hr ht
      exact asAlone_of_steps ((concurrent_started_iff.1 h).2.2 i run t hr ht)
    · intro solos hs hgiven
      refine h.ended (by simp [hs, dialogues]) ?_
      intro i d solo hd hsolo
      obtain ⟨run, hr, rfl⟩ := getElem?_dialogues.1 hd
      exact hgiven i run solo hr hsolo
  · intro σ client turns state
    obtain ⟨log, hi, ha⟩ := exists_interleaves_advanceAll client turns (dialogues runs) state
    exact ⟨log, ha, hi.concurrent⟩

/-- The same request comes twice, with two headers, and its iteration goes through other elements
each time. One run waits in its second turn and the other in its first, with calls of its own, and
each has done the beginning of what it does alone. -/
theorem both_wait_within_their_iterations :
    let first : Step := ⟨some "get", some "/start", none, some [("ids", "ids")], none⟩
    let second : Step := ⟨some "get", some "/items/\x7bids\x7d", none, none, some "ids"⟩
    let request : Request := ⟨some [first, second], .null, false⟩
    let runs := [(request, some "Bearer left"), (request, some "Bearer right")]
    ∃ log next next' solo answer solo' answer',
      Concurrent (started runs) log [.waiting next, .waiting next'] ∧
      (asked log).map (fun call => (call.1, call.2.url, call.2.authorization)) =
        [(0, "/start", some "Bearer left"), (1, "/start", some "Bearer right"),
          (1, "/items/7", some "Bearer right"), (0, "/items/1", some "Bearer left"),
          (0, "/items/2", some "Bearer left")] ∧
      AsAlone (request, some "Bearer left") (own 0 log) (.waiting next) ∧
      AsAlone (request, some "Bearer right") (own 1 log) (.waiting next') ∧
      (request.run (some "Bearer left")).Plays solo answer ∧ own 0 log <+: exchanges solo ∧
      (request.run (some "Bearer right")).Plays solo' answer' ∧ own 1 log <+: exchanges solo' := by
  intro first second request runs
  let call (url authorization : String) : Call := ⟨"GET", url, .null, some authorization⟩
  let fine : CallResult := .ok ⟨200, "", ""⟩
  let exchange (url authorization : String) : Call × CallResult := (call url authorization, fine)
  let small : Call × CallResult :=
    (call "/start" "Bearer left", .ok ⟨200, "\x7b\"ids\": [1, 2]\x7d", ""⟩)
  let large : Call × CallResult :=
    (call "/start" "Bearer right", .ok ⟨200, "\x7b\"ids\": [7, 8]\x7d", ""⟩)
  have hleft : ((request.run (some "Bearer left")).against [small.2, fine, fine]).map Prod.fst =
      some [small, exchange "/items/1" "Bearer left", exchange "/items/2" "Bearer left"] := by
    cbv
  have hright : ((request.run (some "Bearer right")).against [large.2, fine, fine]).map Prod.fst =
      some [large, exchange "/items/7" "Bearer right", exchange "/items/8" "Bearer right"] := by
    cbv
  obtain ⟨⟨_, answer⟩, hleft, rfl⟩ := Option.map_eq_some_iff.1 hleft
  obtain ⟨⟨_, answer'⟩, hright, rfl⟩ := Option.map_eq_some_iff.1 hright
  have hplay : (request.run (some "Bearer left")).Plays
      ([small, exchange "/items/1" "Bearer left"] ++ exchange "/items/2" "Bearer left" :: [])
      answer := plays_of_against hleft
  have hplay' : (request.run (some "Bearer right")).Plays
      ([large] ++ exchange "/items/7" "Bearer right" :: [exchange "/items/8" "Bearer right"])
      answer' := plays_of_against hright
  obtain ⟨next, hnext, _⟩ := Thread.exists_waiting_of_plays hplay
  obtain ⟨next', hnext', _⟩ := Thread.exists_waiting_of_plays hplay'
  let log : List (Nat × Signal Call CallResult) :=
    [(0, .asked small.1), (1, .asked large.1), (1, .answered large.2), (0, .answered small.2),
      (1, .asked (call "/items/7" "Bearer right")), (0, .asked (call "/items/1" "Bearer left")),
      (0, .answered fine), (0, .asked (call "/items/2" "Bearer left"))]
  obtain ⟨hiff, halone, _⟩ := runs_at_once_as_alone runs
  have hatonce : Concurrent (started runs) log [.waiting next, .waiting next'] := by
    refine (hiff _ _).2 ⟨rfl, by simp [log, runs], ?_⟩
    rintro (_ | _ | i) run t hr ht
    · cases hr
      cases ht
      exact hnext
    · cases hr
      cases ht
      exact hnext'
    · cases hr
  obtain ⟨heach, _⟩ := halone _ _ hatonce
  have hfirst := heach 0 _ _ rfl rfl
  have hsecond := heach 1 _ _ rfl rfl
  exact ⟨log, next, next', _, answer, _, answer', hatonce, by decide, hfirst, hsecond, hplay,
    hfirst.begins _ _ hplay (by decide), hplay', hsecond.begins _ _ hplay' (by decide)⟩

end RequestChain.Run
