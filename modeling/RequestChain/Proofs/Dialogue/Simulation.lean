import RequestChain.Dialogue

namespace RequestChain.Dialogue

variable {Q Q' A α β γ δ : Type} {S : Q → Q' → Prop} {R : α → β → Prop} {T : γ → δ → Prop}

/-- Both dialogues stand at questions related by `S` and go on alike after the same answer, or both
have ended with results related by `R`. -/
inductive Simulates (S : Q → Q' → Prop) (R : α → β → Prop) :
    Dialogue Q A α → Dialogue Q' A β → Prop where
  | done {a : α} {b : β} : R a b → Simulates S R (.done a) (.done b)
  | ask {q : Q} {q' : Q'} {next : A → Dialogue Q A α} {next' : A → Dialogue Q' A β} :
      S q q' → (∀ answer, Simulates S R (next answer) (next' answer)) →
        Simulates S R (.ask q next) (.ask q' next')

/-- Dialogues that go on from related results stay side by side. -/
theorem Simulates.bind {d : Dialogue Q A α} {e : Dialogue Q' A β} {f : α → Dialogue Q A γ}
    {g : β → Dialogue Q' A δ} (h : Simulates S R d e)
    (hf : ∀ a b, R a b → Simulates S T (f a) (g b)) : Simulates S T (d.bind f) (e.bind g) := by
  induction h with
  | done hr => exact hf _ _ hr
  | ask hq _ ih => exact .ask hq ih

theorem Simulates.map {d : Dialogue Q A α} {e : Dialogue Q' A β} {f : α → γ} {g : β → δ}
    (h : Simulates S R d e) (hf : ∀ a b, R a b → T (f a) (g b)) :
    Simulates S T (d.map f) (e.map g) := by
  induction h with
  | done hr => exact .done (hf _ _ hr)
  | ask hq _ ih => exact .ask hq ih

/-- Dialogues that ask equal questions are told apart by nothing but their results. -/
theorem Simulates.exists_plays {d : Dialogue Q A α} {e : Dialogue Q A β} {log : List (Q × A)}
    {a : α} (h : Simulates Eq R d e) (hp : d.Plays log a) : ∃ b, e.Plays log b ∧ R a b := by
  induction hp generalizing e with
  | done a =>
    cases h with
    | done hr => exact ⟨_, .done _, hr⟩
  | ask _ ih =>
    cases h with
    | ask hq hn =>
      subst hq
      obtain ⟨b, hb, hr⟩ := ih (hn _)
      exact ⟨b, .ask hb, hr⟩

def asking (f : Q → Q') : Dialogue Q A α → Dialogue Q' A α
  | done a => done a
  | ask q next => ask (f q) fun answer => (next answer).asking f

theorem asking_bind (f : Q → Q') (d : Dialogue Q A α) (k : α → Dialogue Q A γ) :
    (d.bind k).asking f = (d.asking f).bind fun a => (k a).asking f := by
  induction d with
  | done a => rfl
  | ask q next ih =>
    simp only [bind, asking, ask.injEq, true_and]
    funext answer
    exact ih answer

theorem asking_map (f : Q → Q') (d : Dialogue Q A α) (g : α → γ) :
    (d.map g).asking f = (d.asking f).map g := by
  induction d with
  | done a => rfl
  | ask q next ih =>
    simp only [map, asking, ask.injEq, true_and]
    funext answer
    exact ih answer

theorem map_bind (d : Dialogue Q A α) (g : α → β) (k : β → Dialogue Q A γ) :
    (d.map g).bind k = d.bind fun a => k (g a) := by
  induction d with
  | done a => rfl
  | ask q next ih =>
    simp only [bind, map, ask.injEq, true_and]
    funext answer
    exact ih answer

theorem bind_map (d : Dialogue Q A α) (k : α → Dialogue Q A β) (g : β → γ) :
    (d.bind k).map g = d.bind fun a => (k a).map g := by
  induction d with
  | done a => rfl
  | ask q next ih =>
    simp only [bind, map, ask.injEq, true_and]
    funext answer
    exact ih answer

theorem map_map (d : Dialogue Q A α) (g : α → β) (g' : β → γ) :
    (d.map g).map g' = d.map fun a => g' (g a) := by
  induction d with
  | done a => rfl
  | ask q next ih =>
    simp only [map, ask.injEq, true_and]
    funext answer
    exact ih answer

/-- Other questions change nothing but the questions in the log. -/
theorem plays_asking_iff {f : Q → Q'} {d : Dialogue Q A α} {log' : List (Q' × A)} {a : α} :
    (d.asking f).Plays log' a ↔
      ∃ log, d.Plays log a ∧ log' = log.map fun e => (f e.1, e.2) := by
  induction d generalizing log' with
  | done b =>
    constructor
    · intro h
      cases h
      exact ⟨[], .done _, rfl⟩
    · rintro ⟨log, h, rfl⟩
      cases h
      exact .done _
  | ask q next ih =>
    constructor
    · intro h
      cases h with
      | ask h =>
        obtain ⟨log, hp, rfl⟩ := (ih _).1 h
        exact ⟨_ :: log, .ask hp, rfl⟩
    · rintro ⟨log, h, rfl⟩
      cases h with
      | ask h => exact .ask ((ih _).2 ⟨_, h, rfl⟩)

end RequestChain.Dialogue
