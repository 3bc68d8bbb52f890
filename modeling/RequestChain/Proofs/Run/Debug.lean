import RequestChain.Proofs.Run.Content

namespace RequestChain

theorem Dialogue.play_map {Q A α β σ : Type} (d : Dialogue Q A α) (f : α → β)
    (answer : Q → σ → A × σ) (s : σ) :
    (d.map f).play answer s = (f (d.play answer s).1, (d.play answer s).2) := by
  induction d generalizing s with
  | done a => rfl
  | ask q next ih => exact ih (answer q s).1 (answer q s).2

namespace Run

/-- The steps are run without regard to debugging. -/
theorem runRequest_debug (request : Request) (debug : Bool) (authorization : Option String) :
    runRequest { request with debug := debug } authorization = runRequest request authorization :=
  rfl

/-- The answer is read off one and the same run. -/
theorem plays_run_debug_iff {request : Request} {debug : Bool} {header : Option String}
    {log : List (Call × CallResult)} {answer : Answer} :
    ({ request with debug := debug }.run header).Plays log answer ↔
      ∃ p, (runRequest request (Authorization.forwarded header)).Plays log (answer.status, p) ∧
        answer.content =
          preface debug p.events ++ (Report.body request.response p.store.scope ++ "\n") ∧
        answer.log = p.events.filterMap Event.logEntry? := by
  simp only [Request.plays_run_iff, runRequest_debug, report_text]

/-- A client with a memory of its own answers the calls of both runs alike. Any two runs that get
the same answers make the same calls, with the same method, address, body and authorization; they
have the same status and leave the same messages in the log. The text without debugging is the body
and a line feed; the text with it has the lines of the trace and a heading before that. -/
theorem debugging_only_adds_the_trace (request : Request) (header : Option String) :
    let loud := { request with debug := true }.run header
    let quiet := { request with debug := false }.run header
    (∀ (σ : Type) (client : Call → σ → CallResult × σ) (state : σ), ∃ log,
      Dialogue.Answered client state log (loud.play client state).2 ∧
      (quiet.play client state).2 = (loud.play client state).2 ∧
      loud.Plays log (loud.play client state).1 ∧
      quiet.Plays log (quiet.play client state).1) ∧
    ∀ log log' shown silent, loud.Plays log shown → quiet.Plays log' silent →
      (log.map Prod.snd <+: log'.map Prod.snd ∨ log'.map Prod.snd <+: log.map Prod.snd) →
      log = log' ∧ shown.status = silent.status ∧ shown.log = silent.log ∧ ∃ p : Progress,
        (runRequest request (Authorization.forwarded header)).Plays log (shown.status, p) ∧
        silent.content = Report.body request.response p.store.scope ++ "\n" ∧
        shown.content = traceText p.events ++ "[RESPONSE]\n" ++ silent.content := by
  intro loud quiet
  refine ⟨?_, ?_⟩
  · intro σ client state
    obtain ⟨log, ha, hp⟩ := Dialogue.exists_plays_play
      (runRequest request (Authorization.forwarded header)) client state
    refine ⟨log, ?_, ?_, ?_, ?_⟩
    · simpa only [loud, Request.run, runRequest_debug, Dialogue.play_map] using ha
    · simp only [loud, quiet, Request.run, runRequest_debug, Dialogue.play_map]
    · simp only [loud, Request.run, runRequest_debug, Dialogue.play_map]
      exact Dialogue.plays_map_iff.2 ⟨_, hp, rfl⟩
    · simp only [quiet, Request.run, runRequest_debug, Dialogue.play_map]
      exact Dialogue.plays_map_iff.2 ⟨_, hp, rfl⟩
  · intro log log' shown silent hloud hquiet hanswers
    obtain ⟨p, hp, hshown, hlog⟩ := plays_run_debug_iff.1 hloud
    obtain ⟨p', hp', hsilent, hlog'⟩ := plays_run_debug_iff.1 hquiet
    have hsame : log = log' ∧ (shown.status, p) = (silent.status, p') := by
      rcases hanswers with h | h
      · exact hp.unique hp' h
      · obtain ⟨hl, he⟩ := hp'.unique hp h
        exact ⟨hl.symm, he.symm⟩
    obtain ⟨rfl, he⟩ := hsame
    obtain ⟨hstatus, rfl⟩ := Prod.mk.inj he
    refine ⟨rfl, hstatus, hlog.trans hlog'.symm, p, hp, ?_, ?_⟩
    · rw [hsilent, preface, if_neg Bool.false_ne_true, String.empty_append]
    · rw [hshown, hsilent, preface, preface, if_pos rfl, if_neg Bool.false_ne_true,
        String.empty_append]

/-- A refused call is told of in the trace, and nowhere else in the text. -/
theorem refused_call_is_told_only_in_the_trace :
    let request (debug : Bool) : Request :=
      ⟨some [⟨some "get", some "/items", none, none, none⟩], .null, debug⟩
    ∃ log shown silent p, ((request true).run none).Plays log shown ∧
      ((request false).run none).Plays log silent ∧
      (runRequest (request false) none).Plays log (500, p) ∧
      shown.status = 500 ∧ silent.status = 500 ∧
      silent.content = "\x7b\x7d\n" ∧
      shown.content = traceText p.events ++ "[RESPONSE]\n" ++ silent.content ∧
      shown.content =
        "[ERROR] \"GET\" \"/items\" ended up with 404 Not Found!\n[RESPONSE]\n\x7b\x7d\n" := by
  intro request
  let results : List CallResult := [.ok ⟨404, "", "Not Found"⟩]
  have hloud : (((request true).run none).against results).map
      (fun played => (played.2.status, played.2.content)) =
      some (500,
        "[ERROR] \"GET\" \"/items\" ended up with 404 Not Found!\n[RESPONSE]\n\x7b\x7d\n") := by
    decide +kernel
  have hquiet : (((request false).run none).against results).map
      (fun played => played.2.content) = some "\x7b\x7d\n" := by
    decide +kernel
  obtain ⟨⟨log, shown⟩, hshown, he⟩ := Option.map_eq_some_iff.1 hloud
  obtain ⟨⟨log', silent⟩, hsilent, hcontent'⟩ := Option.map_eq_some_iff.1 hquiet
  obtain ⟨hstatus, hcontent⟩ := Prod.mk.inj he
  have hplay := Dialogue.plays_of_against hshown
  have hplay' := Dialogue.plays_of_against hsilent
  have hanswers : log.map Prod.snd = log'.map Prod.snd :=
    (Dialogue.answers_of_against hshown).trans (Dialogue.answers_of_against hsilent).symm
  obtain ⟨rfl, hsame, _, p, hp, _, htext⟩ :=
    (debugging_only_adds_the_trace (request false) none).2 log log' shown silent hplay hplay'
      (.inl (hanswers ▸ List.prefix_rfl))
  exact ⟨log, shown, silent, p, hplay, hplay', hstatus ▸ hp, hstatus, hsame ▸ hstatus, hcontent',
    htext, hcontent⟩

end Run
end RequestChain
