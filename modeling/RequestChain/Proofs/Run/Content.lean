import RequestChain.Proofs.Run.Plays

namespace RequestChain

namespace Report

def joinLines (lines : List String) : String := String.join (lines.map (· ++ "\n"))

theorem joinLines_append (lines more : List String) :
    joinLines (lines ++ more) = joinLines lines ++ joinLines more := by
  rw [joinLines, List.map_append, String.join_append]
  rfl

theorem joinLines_singleton (line : String) : joinLines [line] = line ++ "\n" := by
  simp [joinLines]

/-- The lines of the trace are kept only if it is shown. -/
theorem foldl_trace (r : Report) (lines : List String) :
    lines.foldl trace r = if r.showTrace then { r with lines := r.lines ++ lines } else r := by
  induction lines generalizing r with
  | nil => simp
  | cons line rest ih =>
    rw [List.foldl_cons, ih]
    cases h : r.showTrace with
    | false => simp [trace, h]
    | true => simp [trace, h]

theorem lines_respond_shown (lines : List String) (template : Json) (scope : Scope) :
    ((lines.foldl trace (start true)).respond template scope).lines =
      lines ++ ["[RESPONSE]", body template scope] := by
  simp [foldl_trace, respond, trace, start]

theorem text_respond_shown (lines : List String) (template : Json) (scope : Scope) :
    ((lines.foldl trace (start true)).respond template scope).text =
      joinLines lines ++ "[RESPONSE]\n" ++ (body template scope ++ "\n") := by
  change joinLines ((lines.foldl trace (start true)).respond template scope).lines = _
  rw [lines_respond_shown, List.append_cons, joinLines_append, joinLines_append,
    joinLines_singleton, joinLines_singleton]
  rfl

theorem text_respond_hidden (lines : List String) (template : Json) (scope : Scope) :
    ((lines.foldl trace (start false)).respond template scope).text =
      body template scope ++ "\n" := by
  have hlines : ((lines.foldl trace (start false)).respond template scope).lines =
      [body template scope] := by
    simp [foldl_trace, respond, trace, start]
  change joinLines ((lines.foldl trace (start false)).respond template scope).lines = _
  rw [hlines, joinLines_singleton]

end Report

namespace Run

def traceText (events : List Event) : String :=
  Report.joinLines (events.filterMap Event.traceLine?)

/-- What stands before the body. -/
def preface (debug : Bool) (events : List Event) : String :=
  if debug then traceText events ++ "[RESPONSE]\n" else ""

theorem report_text (request : Request) (p : Progress) :
    (report request p).text =
      preface request.debug p.events ++ (Report.body request.response p.store.scope ++ "\n") := by
  cases h : request.debug with
  | true => rw [report, h, Report.text_respond_shown, preface, if_pos rfl, traceText]
  | false =>
    rw [report, h, Report.text_respond_hidden, preface, if_neg Bool.false_ne_true,
      String.empty_append]

end Run
end RequestChain
