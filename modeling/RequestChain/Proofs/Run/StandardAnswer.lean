import Mathlib
import RequestChain.Proofs.Json.StandardWriter
import RequestChain.Proofs.Report.ReadBack
import RequestChain.Proofs.Run.Content

namespace RequestChain

open Json.Standard

theorem Report.isFinite_memberValue_iff {wire : String} :
    (memberValue wire).isFinite = true ↔
      ∀ v, Json.read? wire = some v → v.isFinite = true := by
  cases hr : Json.read? wire with
  | none =>
    rw [memberValue_of_not_read? (by simp [hr])]
    simp [Json.isFinite]
  | some v =>
    by_cases hn : v = .null
    · rw [memberValue_of_not_read? (by simp [hr, hn]), hn]
      simp [Json.isFinite]
    · rw [memberValue_of_read? hr hn]
      simp

/-- The object of all variables, with the line feed after it. -/
theorem Report.isText_variablesBody_iff {scope : Scope} :
    IsText (variablesBody scope ++ "\n").toList ↔
      ∀ e ∈ scope, ∀ v, Json.read? e.2 = some v → v.isFinite = true := by
  have hfeed : IsBlank "\n".toList := rfl
  rw [String.toList_append, variablesBody, Json.pretty,
    Json.isText_write_iff Json.pretty_isReadable hfeed, Json.isFinite, Json.membersAreFinite_iff]
  constructor
  · intro h e he
    exact isFinite_memberValue_iff.1 (h _ (List.mem_map_of_mem he))
  · intro h m hm
    obtain ⟨e, he, rfl⟩ := List.mem_map.1 hm
    exact isFinite_memberValue_iff.2 (h e he)

namespace Run

/-- Whatever the called services do, an answer without a trace and without a template is the object
of the variables that the run ends with, and a line feed. It is standard JSON exactly if each of
their texts that is read as JSON is read as a value in which all numbers are finite: a text such as
`NaN` is read and written back as a bare word. -/
theorem quiet_answer_is_standard_iff_values_are_finite (request : Request) (header : Option String)
    (hdebug : request.debug = false) (hresponse : request.response = .null) :
    (∀ (σ : Type) (client : Call → σ → CallResult × σ) (state : σ), ∃ log,
      Dialogue.Answered client state log ((request.run header).play client state).2 ∧
      (request.run header).Plays log ((request.run header).play client state).1) ∧
    ∀ log answer, (request.run header).Plays log answer → ∃ p : Progress,
      (runRequest request (Authorization.forwarded header)).Plays log (answer.status, p) ∧
      answer.content = Report.variablesBody p.store.scope ++ "\n" ∧
      (IsText answer.content.toList ↔
        ∀ e ∈ p.store.scope, ∀ v, Json.read? e.2 = some v → v.isFinite = true) := by
  refine ⟨?_, ?_⟩
  · intro σ client state
    exact Dialogue.exists_plays_play _ client state
  · intro log answer hplay
    obtain ⟨p, hp, hcontent, _⟩ := Request.plays_run_iff.1 hplay
    have hbody : answer.content = Report.variablesBody p.store.scope ++ "\n" := by
      rw [hcontent, report_text, preface, hdebug, if_neg Bool.false_ne_true, String.empty_append,
        hresponse]
      rfl
    refine ⟨p, hp, hbody, ?_⟩
    rw [hbody]
    exact Report.isText_variablesBody_iff

/-- Within an array the text `NaN` keeps its quotes. -/
theorem quoted_word_in_an_answer :
    let request : Request :=
      ⟨some [⟨some "get", some "/x", none, some [("x", "x")], none⟩], .null, false⟩
    ∃ log answer p, request.debug = false ∧ request.response = .null ∧
      (request.run none).Plays log answer ∧ (runRequest request none).Plays log (answer.status, p) ∧
      p.store.scope = [("x", "[\n  1,\n  \"NaN\"\n]")] ∧
      answer.content = Report.variablesBody p.store.scope ++ "\n" ∧
      IsText answer.content.toList := by
  intro request
  have heval : ((runRequest request none).against
      [.ok ⟨200, "\x7b\"x\": [1, \"NaN\"]\x7d", ""⟩]).map (fun played => played.2.2.store.scope) =
      some [("x", "[\n  1,\n  \"NaN\"\n]")] := by
    cbv
  obtain ⟨⟨log, status, p⟩, hagainst, hscope⟩ := Option.map_eq_some_iff.1 heval
  dsimp only at hscope
  have hp := Dialogue.plays_of_against hagainst
  let answer : Answer := ⟨status, (report request p).text, p.events.filterMap Event.logEntry?⟩
  have hrun : (request.run none).Plays log answer := Request.plays_run_iff.2 ⟨p, hp, rfl, rfl⟩
  obtain ⟨p', hp', hcontent, hstandard⟩ :=
    (quiet_answer_is_standard_iff_values_are_finite request none rfl rfl).2 log answer hrun
  obtain ⟨_, heq⟩ := hp.unique hp' List.prefix_rfl
  obtain ⟨_, rfl⟩ := Prod.mk.inj heq
  have hread : Json.read? "[\n  1,\n  \"NaN\"\n]" = some (.arr [.int 1, .str "NaN"]) := by
    cbv
  refine ⟨log, answer, p, rfl, rfl, hrun, hp, hscope, hcontent, hstandard.2 ?_⟩
  rw [hscope]
  intro e he v hv
  rw [List.mem_singleton.1 he, hread] at hv
  obtain rfl := Option.some.inj hv
  rfl

/-- A reply with the string `NaN` makes an answer that is not standard JSON. -/
theorem bare_word_in_an_answer :
    let request : Request :=
      ⟨some [⟨some "get", some "/x", none, some [("x", "x")], none⟩], .null, false⟩
    ∃ log answer, request.debug = false ∧ request.response = .null ∧
      (request.run none).Plays log answer ∧
      log.map (fun exchange => exchange.2) = [.ok ⟨200, "\x7b\"x\": \"NaN\"\x7d", ""⟩] ∧
      answer.content = "\x7b\n  \"x\": NaN\n\x7d\n" ∧ ¬ IsText answer.content.toList := by
  intro request
  let results : List CallResult := [.ok ⟨200, "\x7b\"x\": \"NaN\"\x7d", ""⟩]
  have heval : ((request.run none).against results).map (fun played => played.2.content) =
      some "\x7b\n  \"x\": NaN\n\x7d\n" := by
    cbv
  obtain ⟨⟨log, answer⟩, hagainst, hcontent⟩ := Option.map_eq_some_iff.1 heval
  have hanswers : log.map (fun exchange => exchange.2) = results :=
    Dialogue.answers_of_against hagainst
  refine ⟨log, answer, rfl, rfl, Dialogue.plays_of_against hagainst, hanswers, hcontent, ?_⟩
  intro htext
  -- no text of the grammar has the capital N of the word outside of strings
  have hscan := htext.shows []
  dsimp only at hcontent
  rw [hcontent] at hscan
  exact absurd hscan (by decide)

end Run
end RequestChain
