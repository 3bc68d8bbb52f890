import RequestChain.Proofs.Dialogue.Plays

namespace RequestChain.Dialogue

variable {Q A Q' A' α : Type}

/-- The answers of a log are worked out one after another by dialogues, which together make the
other log. -/
inductive AnsweredBy (answer : Q → Dialogue Q' A' A) : List (Q × A) → List (Q' × A') → Prop where
  | nil : AnsweredBy answer [] []
  | cons {q : Q} {a : A} {log : List (Q × A)} {first more : List (Q' × A')} :
      (answer q).Plays first a → AnsweredBy answer log more →
        AnsweredBy answer ((q, a) :: log) (first ++ more)

/-- A play of the whole is a play of the outer dialogue, each of whose answers is worked out by a
play of an inner one. -/
theorem plays_via_iff {answer : Q → Dialogue Q' A' A} {d : Dialogue Q A α}
    {log : List (Q' × A')} {a : α} :
    (d.via answer).Plays log a ↔ ∃ asked, d.Plays asked a ∧ AnsweredBy answer asked log := by
  induction d generalizing log with
  | done b =>
    constructor
    · intro h
      obtain ⟨rfl, rfl⟩ := plays_done_iff.1 h
      exact ⟨[], .done _, .nil⟩
    · rintro ⟨asked, hd, ha⟩
      obtain ⟨rfl, rfl⟩ := plays_done_iff.1 hd
      cases ha
      exact .done _
  | ask q next ih =>
    rw [via, plays_bind_iff]
    constructor
    · rintro ⟨first, more, reply, rfl, hq, hn⟩
      obtain ⟨asked, hd, ha⟩ := (ih reply).1 hn
      exact ⟨(q, reply) :: asked, .ask hd, .cons hq ha⟩
    · rintro ⟨asked, hd, ha⟩
      obtain ⟨reply, rest, rfl, hn⟩ := plays_ask_iff.1 hd
      cases ha with
      | cons hq ha => exact ⟨_, _, reply, rfl, hq, (ih reply).2 ⟨rest, hn, ha⟩⟩

end RequestChain.Dialogue
