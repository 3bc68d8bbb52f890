import RequestChain.Dialogue

namespace RequestChain.Dialogue

variable {Q A α β σ : Type}

theorem plays_done_iff {a b : α} {log : List (Q × A)} :
    (done a : Dialogue Q A α).Plays log b ↔ log = [] ∧ b = a := by
  constructor
  · intro h
    cases h
    exact ⟨rfl, rfl⟩
  · rintro ⟨rfl, rfl⟩
    exact .done _

theorem plays_ask_iff {q : Q} {next : A → Dialogue Q A α} {log : List (Q × A)} {a : α} :
    (ask q next).Plays log a ↔
      ∃ answer rest, log = (q, answer) :: rest ∧ (next answer).Plays rest a := by
  constructor
  · intro h
    cases h with
    | ask h => exact ⟨_, _, rfl, h⟩
  · rintro ⟨answer, rest, rfl, h⟩
    exact .ask h

/-- A dialogue that goes on with another is played in two parts, the one log after the other. -/
theorem plays_bind_iff {d : Dialogue Q A α} {f : α → Dialogue Q A β} {log : List (Q × A)}
    {b : β} :
    (d.bind f).Plays log b ↔
      ∃ before after a, log = before ++ after ∧ d.Plays before a ∧ (f a).Plays after b := by
  induction d generalizing log with
  | done a =>
    constructor
    · intro h
      exact ⟨[], log, a, rfl, .done a, h⟩
    · rintro ⟨before, after, a', rfl, hd, hf⟩
      obtain ⟨rfl, rfl⟩ := plays_done_iff.1 hd
      exact hf
  | ask q next ih =>
    constructor
    · intro h
      obtain ⟨answer, rest, rfl, hn⟩ := plays_ask_iff.1 h
      obtain ⟨before, after, a, rfl, hd, hf⟩ := (ih answer).1 hn
      exact ⟨(q, answer) :: before, after, a, rfl, .ask hd, hf⟩
    · rintro ⟨before, after, a, rfl, hd, hf⟩
      obtain ⟨answer, rest, rfl, hn⟩ := plays_ask_iff.1 hd
      exact .ask ((ih answer).2 ⟨rest, after, a, rfl, hn, hf⟩)

theorem plays_map_iff {d : Dialogue Q A α} {f : α → β} {log : List (Q × A)} {b : β} :
    (d.map f).Plays log b ↔ ∃ a, d.Plays log a ∧ b = f a := by
  induction d generalizing log with
  | done a =>
    constructor
    · intro h
      obtain ⟨rfl, rfl⟩ := plays_done_iff.1 h
      exact ⟨a, .done a, rfl⟩
    · rintro ⟨a', hd, rfl⟩
      obtain ⟨rfl, rfl⟩ := plays_done_iff.1 hd
      exact .done _
  | ask q next ih =>
    constructor
    · intro h
      obtain ⟨answer, rest, rfl, hn⟩ := plays_ask_iff.1 h
      obtain ⟨a, hd, rfl⟩ := (ih answer).1 hn
      exact ⟨a, .ask hd, rfl⟩
    · rintro ⟨a, hd, rfl⟩
      obtain ⟨answer, rest, rfl, hn⟩ := plays_ask_iff.1 hd
      exact .ask ((ih answer).2 ⟨a, hn, rfl⟩)

/-- The log and the result of a dialogue that these answers bring to its end. -/
def against : Dialogue Q A α → List A → Option (List (Q × A) × α)
  | done a, [] => some ([], a)
  | done _, _ :: _ => none
  | ask _ _, [] => none
  | ask q next, answer :: answers =>
    (against (next answer) answers).map fun played => ((q, answer) :: played.1, played.2)

/-- What answers one by one bring to its end is a play. -/
theorem plays_of_against {d : Dialogue Q A α} {answers : List A} {log : List (Q × A)} {a : α}
    (h : d.against answers = some (log, a)) : d.Plays log a := by
  induction d generalizing answers log with
  | done b =>
    cases answers with
    | nil =>
      cases h
      exact .done _
    | cons => cases h
  | ask q next ih =>
    cases answers with
    | nil => cases h
    | cons answer answers =>
      obtain ⟨⟨rest, b⟩, hr, he⟩ := Option.map_eq_some_iff.1 h
      cases he
      exact .ask (ih answer hr)

theorem answers_of_against {d : Dialogue Q A α} {answers : List A} {log : List (Q × A)} {a : α}
    (h : d.against answers = some (log, a)) : log.map Prod.snd = answers := by
  induction d generalizing answers log with
  | done b =>
    cases answers with
    | nil =>
      cases h
      rfl
    | cons => cases h
  | ask q next ih =>
    cases answers with
    | nil => cases h
    | cons answer answers =>
      obtain ⟨⟨rest, b⟩, hr, he⟩ := Option.map_eq_some_iff.1 h
      cases he
      exact congrArg (List.cons answer) (ih answer hr)

/-- The answers of a log come out of a state, which they lead to another. -/
inductive Answered (answer : Q → σ → A × σ) : σ → List (Q × A) → σ → Prop where
  | nil (s : σ) : Answered answer s [] s
  | cons {s t : σ} {q : Q} {log : List (Q × A)} :
      Answered answer (answer q s).2 log t → Answered answer s ((q, (answer q s).1) :: log) t

/-- A dialogue never gets stuck: however its questions are answered, it comes to an end. -/
theorem exists_plays_play (d : Dialogue Q A α) (answer : Q → σ → A × σ) (s : σ) :
    ∃ log, Answered answer s log (d.play answer s).2 ∧ d.Plays log (d.play answer s).1 := by
  induction d generalizing s with
  | done a => exact ⟨[], .nil s, .done a⟩
  | ask q next ih =>
    obtain ⟨log, ha, hp⟩ := ih (answer q s).1 (answer q s).2
    exact ⟨(q, (answer q s).1) :: log, .cons ha, .ask hp⟩

/-- The answers decide the questions and the result. A dialogue that has ended takes no further
answers, so it is enough that the other play begins with the answers of this one. -/
theorem Plays.unique {d : Dialogue Q A α} {log log' : List (Q × A)} {a a' : α}
    (h : d.Plays log a) (h' : d.Plays log' a')
    (he : log.map Prod.snd <+: log'.map Prod.snd) : log = log' ∧ a = a' := by
  induction h generalizing log' with
  | done a =>
    obtain ⟨rfl, rfl⟩ := plays_done_iff.1 h'
    exact ⟨rfl, rfl⟩
  | ask _ ih =>
    obtain ⟨answer, rest, rfl, hn⟩ := plays_ask_iff.1 h'
    simp only [List.map_cons, List.cons_prefix_cons] at he
    obtain ⟨rfl, he⟩ := he
    obtain ⟨rfl, rfl⟩ := ih hn he
    exact ⟨rfl, rfl⟩

end RequestChain.Dialogue
