import Mathlib
import RequestChain.CommandLine
import RequestChain.Proofs.Dialogue.Via
import RequestChain.Proofs.Run.Plays

namespace RequestChain.CommandLine

def arguments (debug : Bool) (authorization : Option String) : List String :=
  "-" :: ((if debug then ["--debug"] else []) ++
    (authorization.map fun value => "--auth=" ++ value).toList)

theorem words?_cons {arg : String} (h : arg ≠ "--") (rest : List String) :
    words? (arg :: rest) = (word? arg).bind fun w => (words? rest).map fun ws => w :: ws := by
  rw [words?]
  · cases word? arg with
    | none => rfl
    | some w => cases words? rest <;> rfl
  · exact h

/-- A text that begins in another way is not the option with a value. -/
theorem auth_ne {s : String} (h : s.toList.take 7 ≠ "--auth=".toList) (value : String) :
    "--auth=" ++ value ≠ s := by
  rintro rfl
  simp at h

theorem lookup_auth (value : String) : Flag.spellings.lookup ("--auth=" ++ value) = none := by
  have hs : ∀ p ∈ Flag.spellings, p.1.toList.take 7 ≠ "--auth=".toList := by decide
  rw [List.lookup_eq_none_iff]
  intro p hp
  exact bne_iff_ne.2 (auth_ne (hs p hp) value)

/-- With an equals sign, the value belongs to the option whatever its characters are. -/
theorem word?_auth (value : String) :
    word? ("--auth=" ++ value) = some (.flag .authorization (.value value)) := by
  have ht : ("--auth=" ++ value).toList =
      '-' :: '-' :: (['a', 'u', 't', 'h', '='] ++ value.toList) := by simp
  rw [word?, lookup_auth, ht]
  simp [longWord?, Flag.spellings]

theorem words?_auth (value : String) :
    words? ["--auth=" ++ value] = some [.flag .authorization (.value value)] := by
  rw [words?_cons (auth_ne (by decide) value), word?_auth]
  rfl

/-- Every combination of the options can be asked for. -/
theorem parse_arguments (debug : Bool) (authorization : Option String) :
    parse (arguments debug authorization) =
      .run "-" { source := some "-", debug, authorization } := by
  have hsource : word? "-" = some (.plain "-") := by rfl
  have hdebug : word? "--debug" = some (.flag .debug .nothing) := by rfl
  cases authorization with
  | none => cases debug <;> rfl
  | some value =>
    cases debug with
    | false =>
      simp only [parse, arguments, Bool.false_eq_true, ↓reduceIte, Option.map_some,
        Option.toList_some, List.nil_append]
      rw [words?_cons (by decide), hsource, words?_auth]
      rfl
    | true =>
      simp only [parse, arguments, ↓reduceIte, Option.map_some, Option.toList_some,
        List.cons_append, List.nil_append]
      rw [words?_cons (by decide), hsource, words?_cons (by decide), hdebug, words?_auth]
      rfl

/-- The trace can be switched on in the value. -/
def isObject : Json → Bool
  | .obj _ => true
  | _ => false

/-- The value with the trace switched on, if that is asked for and can be done. -/
def withDebug (debug : Bool) : Json → Json
  | .obj members => .obj (if debug then Entries.put "debug" (.bool true) members else members)
  | v => v

/-- No value but an object is a request, also once the trace is switched on in it. -/
theorem isObject_of_ofJson {debug : Bool} {v : Json} {request : Request}
    (h : Request.ofJson (withDebug debug v) = .ok request) : isObject v = true := by
  cases v <;> first | rfl | cases h

section Request

variable {limit : Nat} {debug : Bool} {text : String}

theorem request_too_deep {bracket : Char} (h : Json.tooDeep? limit text = some bracket) :
    request limit debug text = .error (.uncaught (.nesting bracket)) := by
  rw [request, h]

theorem request_unread {fault : Json.ReadError} (hdepth : Json.tooDeep? limit text = none)
    (h : Json.read text = .error fault) : request limit debug text = .error .refused := by
  rw [request, hdepth, h]

/-- Once a value is read, the trace decides first: where it cannot be switched on, the value is not
even checked. -/
theorem request_read (debug : Bool) {v : Json} (hdepth : Json.tooDeep? limit text = none)
    (h : Json.read text = .ok v) :
    request limit debug text =
      if debug && !isObject v then .error (.uncaught (.notAnObject v))
      else (Request.ofJson (withDebug debug v)).mapError fun _ => .refused := by
  rw [request, hdepth, h]
  cases debug <;> cases v <;> rfl

end Request

section Execution

variable {limit : Nat} {options : Options} {env : Settings.Environment} {settings : Settings}
  {text : String} {log : List (HttpRequest × WireResult)} {ending : Ending}

theorem logLevel_is_known (hlevel : options.verbose = true ∨ settings.logLevel ∈ logLevels) :
    (!options.verbose && decide (settings.logLevel ∉ logLevels)) = false := by
  rcases hlevel with hv | hm
  · simp [hv]
  · simp [hm]

/-- With settings in order, what keeps a text from being a request ends the command. -/
theorem execute_refused (hsettings : Settings.ofEnvironment env = .ok settings)
    (hlevel : options.verbose = true ∨ settings.logLevel ∈ logLevels)
    (h : request limit options.debug text = .error ending) :
    execute limit options env (some text) = .done ending := by
  simp only [execute, hsettings, logLevel_is_known hlevel, Bool.false_eq_true, ↓reduceIte, h]

theorem execute_accepted {request : Request}
    (hsettings : Settings.ofEnvironment env = .ok settings)
    (hlevel : options.verbose = true ∨ settings.logLevel ∈ logLevels)
    (h : CommandLine.request limit options.debug text = .ok request) :
    execute limit options env (some text) = answer settings options.authorization request := by
  simp only [execute, hsettings, logLevel_is_known hlevel, Bool.false_eq_true, ↓reduceIte, h]

/-- The exit code of a run: 0 for a success, else 1. -/
theorem plays_answer_iff {authorization : Option String} {request : Request} {client : HttpClient}
    (hclient : HttpClient.ofBase settings.baseUrl settings.followRedirects = .ok client) :
    (CommandLine.answer settings authorization request).Plays log ending ↔
      ∃ calls answer, (request.run authorization).Plays calls answer ∧
        Dialogue.AnsweredBy client.send calls log ∧
        ending = .exit (if answer.status = 200 then 0 else 1)
          (s!"Status: {answer.status}\n" ++ answer.content) := by
  have hcode {calls : List (Call × CallResult)} {answer : Answer}
      (h : (request.run authorization).Plays calls answer) :
      (if Reply.isSuccess answer.status then 0 else 1) =
        if answer.status = 200 then 0 else 1 := by
    rcases Request.status_cases_of_plays_run h with hs | hs | hs <;> rw [hs] <;> rfl
  simp only [CommandLine.answer, hclient, Dialogue.plays_map_iff, Dialogue.plays_via_iff]
  constructor
  · rintro ⟨answer, ⟨calls, hr, hc⟩, rfl⟩
    exact ⟨calls, answer, hr, hc, by rw [hcode hr]⟩
  · rintro ⟨calls, answer, hr, hc, rfl⟩
    exact ⟨answer, ⟨calls, hr, hc⟩, by rw [hcode hr]⟩

end Execution

/-- Whatever the options are, and however they are written, a text from standard input that is not
JSON or whose value is no request ends the command with the exit code 2, without a call and without
output. There are two exceptions, which end it in an error that nothing handles, with the exit code
1: the brackets of the text are open more than `limit` at a time, which takes as many brackets; or
the trace was to be switched on in a value that is no object. A request is run through a client
with the given settings, and comes to an end whatever the network answers; the command prints its
status and its text, and the exit code is 0 for the status 200 and 1 for 400 and 500, the only
others. -/
theorem command_refuses_a_text_or_reports_its_run {limit : Nat} {args : List String}
    {options : Options} {env : Settings.Environment} {settings : Settings} {text : String}
    {textOf : String → Option String}
    (hargs : parse args = .run "-" options)
    (hsettings : Settings.ofEnvironment env = .ok settings)
    (hlevel : options.verbose = true ∨ settings.logLevel ∈ logLevels)
    (htext : textOf "-" = some text) :
    (∀ debug authorization, parse (arguments debug authorization) =
      .run "-" { source := some "-", debug, authorization }) ∧
    (∀ error, (Ending.uncaught error).code = 1 ∧ (Ending.uncaught error).output = "") ∧
    (text.toList.countP Json.isOpening ≤ limit → Json.tooDeep? limit text = none) ∧
    (∀ bracket, Json.tooDeep? limit text = some bracket →
      run limit args env textOf = .done (.uncaught (.nesting bracket))) ∧
    (Json.tooDeep? limit text = none →
      (∀ fault, Json.read text = .error fault → run limit args env textOf = .done (.exit 2 "")) ∧
      ∀ v, Json.read text = .ok v →
        (options.debug = true → isObject v = false →
          run limit args env textOf = .done (.uncaught (.notAnObject v))) ∧
        ((options.debug = true → isObject v = true) →
          ∀ complaints, Request.ofJson (withDebug options.debug v) = .error complaints →
            run limit args env textOf = .done (.exit 2 "")) ∧
        ∀ request client, Request.ofJson (withDebug options.debug v) = .ok request →
          HttpClient.ofBase settings.baseUrl settings.followRedirects = .ok client →
          (∀ (σ : Type) (network : HttpRequest → σ → WireResult × σ) (state : σ), ∃ log,
            let played := (run limit args env textOf).play network state
            Dialogue.Answered network state log played.2 ∧
            (run limit args env textOf).Plays log played.1) ∧
          ∀ log ending, (run limit args env textOf).Plays log ending ↔
            ∃ calls answer, (request.run options.authorization).Plays calls answer ∧
              Dialogue.AnsweredBy client.send calls log ∧
              ending = .exit (if answer.status = 200 then 0 else 1)
                (s!"Status: {answer.status}\n" ++ answer.content) ∧
              (answer.status = 200 ∨ answer.status = 400 ∨ answer.status = 500)) := by
  have hrun : run limit args env textOf = execute limit options env (some text) := by
    rw [run, hargs, ← htext]
  refine ⟨parse_arguments, fun _ => ⟨rfl, rfl⟩, Json.tooDeep?_eq_none, ?_, ?_⟩
  · intro bracket hdeep
    rw [hrun, execute_refused hsettings hlevel (request_too_deep hdeep)]
  intro hdepth
  constructor
  · intro fault hr
    rw [hrun, execute_refused hsettings hlevel (request_unread hdepth hr)]
    rfl
  · intro v hr
    have hrequest := request_read options.debug hdepth hr
    refine ⟨?_, ?_, ?_⟩
    · intro hdebug hobject
      rw [hdebug, hobject] at hrequest
      rw [hrun]
      apply execute_refused hsettings hlevel
      rw [hdebug, hrequest]
      rfl
    · intro hobject complaints hv
      have hswitched : (options.debug && !isObject v) = false := by
        cases hd : options.debug with
        | false => rfl
        | true => simp [hobject hd]
      rw [hswitched, hv] at hrequest
      rw [hrun]
      exact execute_refused hsettings hlevel hrequest
    · intro request client hv hclient
      rw [hv, isObject_of_ofJson hv, Bool.not_true, Bool.and_false] at hrequest
      refine ⟨fun σ network state => Dialogue.exists_plays_play _ network state, ?_⟩
      intro log ending
      rw [hrun, execute_accepted hsettings hlevel hrequest]
      refine (plays_answer_iff hclient).trans ?_
      constructor
      · rintro ⟨calls, answer, hp, hc, he⟩
        exact ⟨calls, answer, hp, hc, he, Request.status_cases_of_plays_run hp⟩
      · rintro ⟨calls, answer, hp, hc, he, _⟩
        exact ⟨calls, answer, hp, hc, he⟩

theorem refused_call_gives_exit_code_one :
    (run 991 (arguments true (some "Bearer t")) [] fun _ => some
      "\x7b\"requests\": [\x7b\"method\": \"get\", \"endpoint\": \"http://svc/x\"\x7d]\x7d").Plays
      [(⟨"GET", ⟨"http", "", "svc", none, "/x", none, none⟩, "", some "Bearer t", none⟩,
        .ok ⟨404, "Not Found", [], []⟩)]
      (.exit 1 ("Status: 500\n[ERROR] \"GET\" \"http://svc/x\" ended up with 404 Not Found!\n" ++
        "[RESPONSE]\n\x7b\x7d\n")) := by
  let text :=
    "\x7b\"requests\": [\x7b\"method\": \"get\", \"endpoint\": \"http://svc/x\"\x7d]\x7d"
  let textOf : String → Option String := fun _ => some text
  let request : Request :=
    ⟨some [⟨some "get", some "http://svc/x", none, none, none⟩], .null, true⟩
  let client : HttpClient := ⟨⟨"", "", "", none, "", none, none⟩, true⟩
  let call : Call := ⟨"GET", "http://svc/x", .null, some "Bearer t"⟩
  let reply : Reply := ⟨404, "", "Not Found"⟩
  have hbrackets : text.toList.countP Json.isOpening ≤ 991 := by decide +kernel
  have hread : Json.read text = .ok (.obj [("requests",
      .arr [.obj [("method", .str "get"), ("endpoint", .str "http://svc/x")]])]) := by cbv
  have hsettings : Settings.ofEnvironment [] = .ok {} := by rfl
  have hclient : HttpClient.ofBase "" true = .ok client := by cbv
  have hsend : (client.send call).against [.ok ⟨404, "Not Found", [], []⟩] =
      some ([(⟨"GET", ⟨"http", "", "svc", none, "/x", none, none⟩, "", some "Bearer t", none⟩,
        .ok ⟨404, "Not Found", [], []⟩)], .ok reply) := by cbv
  have heval : ((request.run (some "Bearer t")).against [.ok reply]).map
      (fun played => (played.1, played.2.status, played.2.content)) =
      some ([(call, .ok reply)], 500,
        "[ERROR] \"GET\" \"http://svc/x\" ended up with 404 Not Found!\n" ++
          "[RESPONSE]\n\x7b\x7d\n") := by cbv
  obtain ⟨⟨calls, answer⟩, hagainst, he⟩ := Option.map_eq_some_iff.1 heval
  simp only [Prod.mk.injEq] at he
  obtain ⟨rfl, hstatus, hcontent⟩ := he
  obtain ⟨_, _, hshallow, _, hread_ok⟩ := command_refuses_a_text_or_reports_its_run
    (parse_arguments true (some "Bearer t")) hsettings (.inr (by decide))
    (rfl : textOf "-" = some text)
  obtain ⟨_, _, hplays⟩ := (hread_ok (hshallow hbrackets)).2 _ hread
  obtain ⟨_, hplays⟩ := hplays request client (by rfl) hclient
  refine (hplays _ _).2 ⟨_, answer, Dialogue.plays_of_against hagainst,
    .cons (Dialogue.plays_of_against hsend) .nil, ?_, .inr (.inr hstatus)⟩
  rw [hstatus, hcontent]
  rfl

/-- The one text is refused with and without the trace, but not in the same way. -/
theorem array_with_the_trace_gives_exit_code_one :
    let ending : Ending := .uncaught (.notAnObject (.arr []))
    Json.read "[]" = .ok (.arr []) ∧
    (∃ complaints, Request.ofJson (withDebug true (.arr [])) = .error complaints) ∧
    run 991 (arguments true none) [] (fun _ => some "[]") = .done ending ∧
    ending.code = 1 ∧ ending.code ≠ 2 ∧ ending.output = "" ∧
    run 991 (arguments false none) [] (fun _ => some "[]") = .done (.exit 2 "") := by
  intro ending
  exact ⟨by cbv, ⟨_, rfl⟩, by rfl, by decide, by decide, by decide, by rfl⟩

end RequestChain.CommandLine
