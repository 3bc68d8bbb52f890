import RequestChain.Proofs.Entries
import RequestChain.Proofs.Request.Accepted
import RequestChain.Proofs.Text.Blank
import RequestChain.Run.Basic

namespace RequestChain.Request

open Text (AllBlank IsTrimmed isBlank)

def IsBraced (text : String) : Prop := ∃ inner, text = "\x7b" ++ inner ++ "\x7d"

/-- The ways to write the name of a variable. -/
inductive IsSpelling (name : String) : String → Prop where
  | plain {before after : String} : ¬ IsBraced name → AllBlank before → AllBlank after →
      IsSpelling name (before ++ name ++ after)
  | braced {before left right after : String} : AllBlank before → AllBlank left →
      AllBlank right → AllBlank after →
        IsSpelling name (before ++ ("\x7b" ++ (left ++ name ++ right) ++ "\x7d") ++ after)

structure IsPlainName (name : String) : Prop where
  nonempty : name ≠ ""
  trimmed : IsTrimmed isBlank name.toList
  unbraced : ¬ IsBraced name

inductive StepRespelled : Json → Json → Prop where
  | same (v : Json) : StepRespelled v v
  | renamed {members : List (String × Json)} : "variables" ∉ Entries.names members →
      StepRespelled (.obj members) (.obj (Entries.rename "returns" "variables" members))
  | forEach {members : List (String × Json)} {name written : String} : IsPlainName name →
      Entries.get? "foreach" members = some (.str name) → IsSpelling name written →
        StepRespelled (.obj members) (.obj (Entries.put "foreach" (.str written) members))
  | trans {u v w : Json} : StepRespelled u v → StepRespelled v w → StepRespelled u w

/-- One request may be written as the other: any of its steps are written in other ways. -/
inductive Respelled : Json → Json → Prop where
  | steps {members : List (String × Json)} {items items' : List Json} :
      Entries.get? "requests" members = some (.arr items) →
      List.Forall₂ StepRespelled items items' →
        Respelled (.obj members) (.obj (Entries.put "requests" (.arr items') members))

section Name

variable {written name inner : String}

theorem isTrimmed_braced (inner : String) :
    IsTrimmed isBlank ("\x7b" ++ inner ++ "\x7d").toList := by
  have hlist : ("\x7b" ++ inner ++ "\x7d").toList = '{' :: (inner.toList ++ ['}']) := by simp
  rw [hlist]
  constructor
  · intro c hc
    cases hc
    decide
  · intro c hc
    rw [← List.cons_append, List.getLast?_concat] at hc
    cases hc
    decide

/-- Between braces, the name is what is left within them without blanks. -/
theorem variableName_of_braced (h : Text.strip written = "\x7b" ++ inner ++ "\x7d") :
    variableName written = if Text.strip inner = "" then none else some (Text.strip inner) := by
  have hlist : ("\x7b" ++ inner ++ "\x7d").toList = '{' :: (inner.toList ++ ['}']) := by simp
  simp only [variableName, h, hlist, List.getLast?_concat, ↓reduceIte, List.dropLast_concat,
    String.ofList_toList]

/-- Without braces on both sides, the name is the trimmed text, whatever it holds. -/
theorem variableName_of_not_braced (h : ¬ IsBraced (Text.strip written)) :
    variableName written =
      if Text.strip written = "" then none else some (Text.strip written) := by
  unfold variableName
  dsimp only
  split
  · rename_i rest hlist
    have hlast : rest.getLast? ≠ some '}' := by
      intro hlast
      obtain ⟨inner, rfl⟩ := List.getLast?_eq_some_iff.1 hlast
      refine h ⟨String.ofList inner, ?_⟩
      rw [← String.ofList_toList (s := Text.strip written), hlist]
      simp [String.ext_iff]
    rw [if_neg hlast]
  · rfl

/-- A text names a variable exactly if it is one of the ways to write its name. -/
theorem variableName_eq_some_iff :
    variableName written = some name ↔
      name ≠ "" ∧ IsTrimmed isBlank name.toList ∧ IsSpelling name written := by
  constructor
  · intro h
    -- within braces the text is stripped twice, so there are blanks to account for on four sides
    by_cases hbraced : IsBraced (Text.strip written)
    · obtain ⟨inner, hinner⟩ := hbraced
      obtain ⟨_, before, after, hb, ha, rfl⟩ := Text.strip_eq_iff.1 hinner
      rw [variableName_of_braced hinner, Option.ite_none_left_eq_some, Option.some.injEq] at h
      obtain ⟨hne, hname⟩ := h
      rw [hname] at hne
      obtain ⟨htrimmed, left, right, hl, hr, rfl⟩ := Text.strip_eq_iff.1 hname
      exact ⟨hne, htrimmed, .braced hb hl hr ha⟩
    · rw [variableName_of_not_braced hbraced, Option.ite_none_left_eq_some,
        Option.some.injEq] at h
      obtain ⟨hne, hname⟩ := h
      rw [hname] at hne hbraced
      obtain ⟨htrimmed, before, after, hb, ha, rfl⟩ := Text.strip_eq_iff.1 hname
      exact ⟨hne, htrimmed, .plain hbraced hb ha⟩
  · rintro ⟨hne, htrimmed, hspelling⟩
    cases hspelling with
    | plain hbraced hb ha =>
      have hstrip := Text.strip_append_append hb htrimmed ha
      rw [variableName_of_not_braced (by rwa [hstrip]), hstrip, if_neg hne]
    | @braced before left right after hb hl hr ha =>
      have hinner := Text.strip_append_append hl htrimmed hr
      have hstrip :=
        Text.strip_append_append hb (isTrimmed_braced (left ++ name ++ right)) ha
      rw [variableName_of_braced hstrip, hinner, if_neg hne]

theorem IsPlainName.variableName_eq (h : IsPlainName name) : variableName name = some name := by
  have hself : IsSpelling name ("" ++ name ++ "") := .plain h.unbraced rfl rfl
  rw [String.empty_append, String.append_empty] at hself
  exact variableName_eq_some_iff.2 ⟨h.nonempty, h.trimmed, hself⟩

end Name

variable {other : ComplaintKind} {place : List PlaceStep} {members : List (String × Json)}

/-- `variables` does what `returns` does. -/
theorem toOption_checkFields_variables (h : "variables" ∉ Entries.names members) :
    (checkFields place (Entries.rename "returns" "variables" members)).toOption =
      (checkFields place members).toOption := by
  have hother {name : String} (hr : name ≠ "returns") (hv : name ≠ "variables") :
      Entries.get? name (Entries.rename "returns" "variables" members) =
        Entries.get? name members := by
    rw [Entries.get?_rename h, if_neg hv, if_neg hr]
  apply toOption_checkFields_eq
  · exact hother (by decide) (by decide)
  · exact hother (by decide) (by decide)
  · exact hother (by decide) (by decide)
  · have hnone : Entries.get? "variables" members = none := Entries.get?_eq_none_iff.2 h
    rw [get?_returnsKey, get?_returnsKey, Entries.get?_rename h, Entries.get?_rename h, hnone]
    simp
  · intro place
    rw [hother (by decide) (by decide)]

theorem toOption_checkFields_put_forEach {name written : String}
    (hmember : Entries.get? "foreach" members = some (.str name))
    (h : variableName written = variableName name) :
    (checkFields place (Entries.put "foreach" (.str written) members)).toOption =
      (checkFields place members).toOption := by
  have hother {field : String} (hne : "foreach" ≠ field) :
      Entries.get? field (Entries.put "foreach" (.str written) members) =
        Entries.get? field members := by
    rw [Entries.get?_put, if_neg hne]
  apply toOption_checkFields_eq
  · exact hother (by decide)
  · exact hother (by decide)
  · exact hother (by decide)
  · rw [get?_returnsKey, get?_returnsKey, hother (by decide), hother (by decide)]
  · intro place
    rw [Entries.get?_put, if_pos rfl, hmember]
    simp [checkText, Except.toOption, h]

/-- What is written in another way passes as what it was before. -/
theorem StepRespelled.toOption_checkStep {v v' : Json} (h : StepRespelled v v') :
    (checkStep other place v').toOption = (checkStep other place v).toOption := by
  induction h with
  | same => rfl
  | renamed hfree => exact toOption_checkFields_variables hfree
  | forEach hname hmember hspelling =>
    have hwritten := variableName_eq_some_iff.2 ⟨hname.nonempty, hname.trimmed, hspelling⟩
    exact toOption_checkFields_put_forEach hmember (hwritten.trans hname.variableName_eq.symm)
  | trans _ _ ih ih' => exact ih'.trans ih

/-- A request passes in all its spellings or in none, and as the same request. -/
theorem Respelled.toOption_check {v v' : Json} (h : Respelled v v') :
    (check other place v').toOption = (check other place v).toOption := by
  cases h with
  | steps hmember hitems =>
    exact toOption_check_put_requests hmember
      (hitems.imp fun v v' hstep place => hstep.toOption_checkStep)

/-- A request passes exactly if it passes with any of its steps written in other ways, and it is
then the same request with the same run. What names the variable of an iteration is its name
between blanks, or between braces with blanks inside and outside; a step has this name, or none if
nothing is left, so whatever was written, the name is not empty and has no blanks around it. -/
theorem other_spellings_make_the_same_request (other : ComplaintKind) (place : List PlaceStep) :
    (∀ v v', Respelled v v' →
      (∀ r, check other place v = .ok r ↔ check other place v' = .ok r) ∧
      ∀ r r' header, check other place v = .ok r → check other place v' = .ok r' →
        r'.run header = r.run header) ∧
    (∀ written name, variableName written = some name ↔
      name ≠ "" ∧ IsTrimmed isBlank name.toList ∧ IsSpelling name written) ∧
    (∀ members s written, checkStep other place (.obj members) = .ok s →
      Entries.get? "foreach" members = some (.str written) → s.forEach = variableName written) ∧
    ∀ v r, check other place v = .ok r → ∀ s ∈ r.steps.getD [], ∀ name, s.forEach = some name →
      name ≠ "" ∧ IsTrimmed isBlank name.toList := by
  refine ⟨?_, fun _ _ => variableName_eq_some_iff, ?_, ?_⟩
  · intro v v' h
    have hpass (r : Request) : check other place v = .ok r ↔ check other place v' = .ok r := by
      rw [← Checked.toOption_eq_some_iff, ← Checked.toOption_eq_some_iff, h.toOption_check]
    refine ⟨hpass, fun r r' header hr hr' => ?_⟩
    rw [(hpass r).1 hr] at hr'
    rw [Except.ok.inj hr']
  · intro members s written hs hmember
    obtain ⟨_, htext, hforEach⟩ := forEach_of_checkFields hs
    rw [hmember, checkText, Except.ok.injEq] at htext
    rw [hforEach, ← htext, Option.bind_some]
  · intro v r hr s hs name hname
    obtain ⟨_, _, hfields⟩ := exists_checkFields_of_check hr hs
    obtain ⟨written, _, hforEach⟩ := forEach_of_checkFields hfields
    rw [hforEach] at hname
    obtain ⟨_, _, hname⟩ := Option.bind_eq_some_iff.1 hname
    obtain ⟨hne, htrimmed, _⟩ := variableName_eq_some_iff.1 hname
    exact ⟨hne, htrimmed⟩

/-- Two steps with `variables` for `returns`, and the second with its variable between braces. -/
theorem braces_and_variables_make_the_same_request :
    let first (key : String) : Json := .obj [("method", .str "get"), ("endpoint", .str "/a"),
      (key, .obj [("ids", .str "[*].id")])]
    let second (key written : String) : Json := .obj [("method", .str "get"),
      ("foreach", .str written), ("endpoint", .str "/b/\x7bids\x7d"), (key, .obj [("v", .str "v")])]
    let v : Json := .obj [("requests", .arr [first "returns", second "returns" "ids"])]
    let v' : Json := .obj [("requests", .arr [first "variables",
      second "variables" "\t\x7b ids\u00a0\x7d\n"])]
    let r : Request := ⟨some [⟨some "get", some "/a", none, some [("ids", "[*].id")], none⟩,
      ⟨some "get", some "/b/\x7bids\x7d", none, some [("v", "v")], some "ids"⟩], .null, false⟩
    Respelled v v' ∧ ofJson v = .ok r ∧ ofJson v' = .ok r ∧
      ∀ s ∈ r.steps.getD [], ∀ name, s.forEach = some name →
        name ≠ "" ∧ IsTrimmed isBlank name.toList := by
  intro first second v v' r
  have hplain : IsPlainName "ids" := by
    refine ⟨by decide, ⟨?_, ?_⟩, ?_⟩
    · rintro c ⟨⟩
      decide
    · rintro c ⟨⟩
      decide
    · rintro ⟨inner, h⟩
      have hlist := congrArg String.toList h
      simp at hlist
  have hspelling : IsSpelling "ids"
      ("\t" ++ ("\x7b" ++ (" " ++ "ids" ++ "\u00a0") ++ "\x7d") ++ "\n") :=
    .braced (by decide) (by decide) (by decide) (by decide)
  have hfirst : StepRespelled (first "returns") (first "variables") := .renamed (by decide)
  have hsecond : StepRespelled (second "returns" "ids")
      (second "variables" "\t\x7b ids\u00a0\x7d\n") :=
    (StepRespelled.renamed (by decide)).trans (.forEach hplain rfl hspelling)
  have hrespelled : Respelled v v' := .steps rfl (.cons hfirst (.cons hsecond .nil))
  have hpasses : ofJson v = .ok r := by decide +kernel
  obtain ⟨hsame, _, _, hnames⟩ := other_spellings_make_the_same_request .modelType []
  exact ⟨hrespelled, hpasses, ((hsame v v' hrespelled).1 r).1 hpasses, hnames v r hpasses⟩

end RequestChain.Request
