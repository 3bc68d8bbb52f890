import RequestChain.Dialogue.Schedule
import RequestChain.Proofs.Dialogue.Plays

namespace RequestChain.Dialogue

variable {Q A α σ : Type}

/-- A dialogue among others: it is about to go on, or it waits for an answer. -/
inductive Thread (Q A α : Type) where
  | ready (dialogue : Dialogue Q A α)
  | waiting (next : A → Dialogue Q A α)

/-- What passes between a thread and those that answer it. -/
inductive Signal (Q A : Type) where
  | asked (question : Q)
  | answered (answer : A)

def Signal.question? : Signal Q A → Option Q
  | asked q => some q
  | answered _ => none

def Signal.answer? : Signal Q A → Option A
  | asked _ => none
  | answered a => some a

def questions (xs : List (Signal Q A)) : List Q := xs.filterMap Signal.question?

def answers (xs : List (Signal Q A)) : List A := xs.filterMap Signal.answer?

/-- The signals of a log in which each question has its answer. -/
def exchanges (log : List (Q × A)) : List (Signal Q A) :=
  log.flatMap fun e => [.asked e.1, .answered e.2]

def exchangesOf (log : List (Nat × Q × A)) : List (Nat × Signal Q A) :=
  log.flatMap fun e => [(e.1, .asked e.2.1), (e.1, .answered e.2.2)]

def own {X : Type} (i : Nat) (log : List (Nat × X)) : List X :=
  log.filterMap fun e => if e.1 = i then some e.2 else none

def asked (log : List (Nat × Signal Q A)) : List (Nat × Q) :=
  log.filterMap fun e => e.2.question?.map fun q => (e.1, q)

/-- The whole is made of the parts, each in its own order, and of nothing else. -/
def Interleaving {X : Type} (parts : List (List X)) (whole : List (Nat × X)) : Prop :=
  (∀ e ∈ whole, e.1 < parts.length) ∧
    ∀ (i : Nat) (part : List X), parts[i]? = some part → own i whole = part

inductive Thread.Step : Thread Q A α → Signal Q A → Thread Q A α → Prop where
  | asked {q : Q} {next : A → Dialogue Q A α} :
      Step (.ready (.ask q next)) (.asked q) (.waiting next)
  | answered {next : A → Dialogue Q A α} {a : A} :
      Step (.waiting next) (.answered a) (.ready (next a))

inductive Thread.Steps : Thread Q A α → List (Signal Q A) → Thread Q A α → Prop where
  | stop (t : Thread Q A α) : Steps t [] t
  | step {t u v : Thread Q A α} {x : Signal Q A} {xs : List (Signal Q A)} :
      Step t x u → Steps u xs v → Steps t (x :: xs) v

/-- Threads that go on at once. Any of them may be the next to go on, and each signal is noted with
its thread. -/
inductive Concurrent :
    List (Thread Q A α) → List (Nat × Signal Q A) → List (Thread Q A α) → Prop where
  | stop (ts : List (Thread Q A α)) : Concurrent ts [] ts
  | turn {ts after : List (Thread Q A α)} {i : Nat} {t u : Thread Q A α} {x : Signal Q A}
      {log : List (Nat × Signal Q A)} :
      ts[i]? = some t → t.Step x u → Concurrent (ts.set i u) log after →
        Concurrent ts ((i, x) :: log) after

@[simp] theorem exchanges_nil : exchanges ([] : List (Q × A)) = [] := rfl

@[simp] theorem exchanges_cons (e : Q × A) (log : List (Q × A)) :
    exchanges (e :: log) = .asked e.1 :: .answered e.2 :: exchanges log := rfl

@[simp] theorem questions_nil : questions ([] : List (Signal Q A)) = [] := rfl

@[simp] theorem questions_asked (q : Q) (xs : List (Signal Q A)) :
    questions (.asked q :: xs) = q :: questions xs := rfl

@[simp] theorem questions_answered (a : A) (xs : List (Signal Q A)) :
    questions (.answered a :: xs) = questions xs := rfl

@[simp] theorem answers_nil : answers ([] : List (Signal Q A)) = [] := rfl

@[simp] theorem answers_asked (q : Q) (xs : List (Signal Q A)) :
    answers (.asked q :: xs) = answers xs := rfl

@[simp] theorem answers_answered (a : A) (xs : List (Signal Q A)) :
    answers (.answered a :: xs) = a :: answers xs := rfl

theorem questions_exchanges (log : List (Q × A)) :
    questions (exchanges log) = log.map Prod.fst := by
  induction log with
  | nil => rfl
  | cons e log ih => simp [ih]

theorem answers_exchanges (log : List (Q × A)) : answers (exchanges log) = log.map Prod.snd := by
  induction log with
  | nil => rfl
  | cons e log ih => simp [ih]

theorem own_cons {X : Type} (i j : Nat) (x : X) (log : List (Nat × X)) :
    own i ((j, x) :: log) = if j = i then x :: own i log else own i log := by
  by_cases h : j = i <;> simp [own, h]

/-- The calls that a log notes of a thread are the questions among its signals. -/
theorem own_asked (i : Nat) (log : List (Nat × Signal Q A)) :
    own i (asked log) = questions (own i log) := by
  induction log with
  | nil => rfl
  | cons e log ih =>
    obtain ⟨j, x⟩ := e
    cases x with
    | answered a =>
      have he : asked ((j, .answered a) :: log) = asked log := rfl
      rw [he, own_cons, ih]
      split <;> rfl
    | asked q =>
      have he : asked ((j, .asked q) :: log) = (j, q) :: asked log := rfl
      rw [he, own_cons, own_cons, ih]
      split <;> rfl

namespace Thread

variable {t u v : Thread Q A α} {d : Dialogue Q A α} {x : Signal Q A} {xs : List (Signal Q A)}
  {log : List (Q × A)} {a : α}

theorem steps_nil_iff : t.Steps [] u ↔ t = u := by
  constructor
  · intro h
    cases h
    rfl
  · rintro rfl
    exact .stop t

theorem steps_cons_iff : t.Steps (x :: xs) v ↔ ∃ u, t.Step x u ∧ u.Steps xs v := by
  constructor
  · intro h
    cases h with
    | step hs h => exact ⟨_, hs, h⟩
  · rintro ⟨u, hs, h⟩
    exact .step hs h

/-- A thread that is about to go on asks the question it stands at. -/
theorem steps_ready_cons_iff : (ready d).Steps (x :: xs) v ↔
    ∃ q next, d = .ask q next ∧ x = .asked q ∧ (waiting next).Steps xs v := by
  rw [steps_cons_iff]
  constructor
  · rintro ⟨u, hs, h⟩
    cases hs
    exact ⟨_, _, rfl, rfl, h⟩
  · rintro ⟨q, next, rfl, rfl, h⟩
    exact ⟨_, .asked, h⟩

/-- A thread that waits takes an answer. -/
theorem steps_waiting_cons_iff {next : A → Dialogue Q A α} :
    (waiting next).Steps (x :: xs) v ↔
      ∃ answer, x = .answered answer ∧ (ready (next answer)).Steps xs v := by
  rw [steps_cons_iff]
  constructor
  · rintro ⟨u, hs, h⟩
    cases hs
    exact ⟨_, rfl, h⟩
  · rintro ⟨answer, rfl, h⟩
    exact ⟨_, .answered, h⟩

/-- A thread whose dialogue has ended does nothing more. -/
theorem steps_done_iff : (ready (.done a)).Steps xs v ↔ xs = [] ∧ v = ready (.done a) := by
  cases xs with
  | nil => simp [steps_nil_iff, eq_comm]
  | cons x xs => simp [steps_ready_cons_iff]

/-- A thread that has ended alone has played its dialogue, and the other way round. -/
theorem steps_to_done_iff :
    (ready d).Steps xs (ready (.done a)) ↔ ∃ log, xs = exchanges log ∧ d.Plays log a := by
  induction d generalizing xs with
  | done b =>
    simp only [steps_done_iff, plays_done_iff, ready.injEq, done.injEq]
    constructor
    · rintro ⟨rfl, rfl⟩
      exact ⟨[], rfl, rfl, rfl⟩
    · rintro ⟨_, rfl, rfl, rfl⟩
      exact ⟨rfl, rfl⟩
  | ask q next ih =>
    constructor
    · intro h
      rcases xs with - | ⟨x, xs⟩
      · simp [steps_nil_iff] at h
      obtain ⟨_, _, hd, rfl, hw⟩ := steps_ready_cons_iff.1 h
      cases hd
      rcases xs with - | ⟨y, xs⟩
      · simp [steps_nil_iff] at hw
      obtain ⟨answer, rfl, hr⟩ := steps_waiting_cons_iff.1 hw
      obtain ⟨log, rfl, hp⟩ := (ih answer).1 hr
      exact ⟨(q, answer) :: log, rfl, .ask hp⟩
    · rintro ⟨log, rfl, hp⟩
      obtain ⟨answer, rest, rfl, hn⟩ := plays_ask_iff.1 hp
      exact .step .asked (.step .answered ((ih answer).2 ⟨rest, rfl, hn⟩))

/-- On its way through a play a thread waits after each question. -/
theorem exists_waiting_of_plays {before after : List (Q × A)} {q : Q} {answer : A}
    (hp : d.Plays (before ++ (q, answer) :: after) a) :
    ∃ next, (ready d).Steps (exchanges before ++ [.asked q]) (waiting next) ∧
      (next answer).Plays after a := by
  induction before generalizing d with
  | nil =>
    cases hp with
    | ask hn => exact ⟨_, .step .asked (.stop _), hn⟩
  | cons e before ih =>
    cases hp with
    | ask hn =>
      obtain ⟨next, hs, hn⟩ := ih hn
      exact ⟨next, .step .asked (.step .answered hs), hn⟩

/-- Against the answers of a play, a thread does nothing but a part of that play, and it can go on
to the end of the play. -/
theorem Steps.exists_rest (h : (ready d).Steps xs t) (hp : d.Plays log a)
    (ha : answers xs <+: log.map Prod.snd) :
    ∃ rest, exchanges log = xs ++ rest ∧ t.Steps rest (ready (.done a)) := by
  induction hp generalizing xs with
  | done a =>
    obtain ⟨rfl, rfl⟩ := steps_done_iff.1 h
    exact ⟨[], rfl, .stop _⟩
  | @ask q next answer log a hp ih =>
    rcases xs with - | ⟨x, xs⟩
    · obtain rfl := steps_nil_iff.1 h
      exact ⟨_, rfl, steps_to_done_iff.2 ⟨(q, answer) :: log, rfl, .ask hp⟩⟩
    obtain ⟨_, _, hd, rfl, hw⟩ := steps_ready_cons_iff.1 h
    cases hd
    rcases xs with - | ⟨y, xs⟩
    · obtain rfl := steps_nil_iff.1 hw
      exact ⟨_, rfl, .step .answered (steps_to_done_iff.2 ⟨log, rfl, hp⟩)⟩
    obtain ⟨other, rfl, hn⟩ := steps_waiting_cons_iff.1 hw
    simp only [answers_asked, answers_answered, List.map_cons, List.cons_prefix_cons] at ha
    obtain ⟨rfl, ha⟩ := ha
    obtain ⟨rest, he, hr⟩ := ih hn ha
    exact ⟨rest, by simp [he], hr⟩

/-- A thread that has all answers of a play has ended as the play does. -/
theorem Steps.eq_done (h : (ready d).Steps xs t) (hp : d.Plays log a)
    (ha : answers xs = log.map Prod.snd) : xs = exchanges log ∧ t = ready (.done a) := by
  obtain ⟨rest, he, hr⟩ := h.exists_rest hp (ha ▸ List.prefix_rfl)
  have hnone : answers rest = [] := by
    have hl := answers_exchanges log
    rw [he, answers, List.filterMap_append] at hl
    exact List.append_right_eq_self.1 (hl.trans ha.symm)
  cases hr with
  | stop => exact ⟨by simpa using he.symm, rfl⟩
  | step hs hr =>
    exfalso
    cases hs with
    | asked =>
      cases hr with
      | step hs _ =>
        cases hs
        simp at hnone
    | answered => simp at hnone

/-- What a thread has done is the beginning of a play. -/
theorem Steps.exists_plays [Inhabited A] (h : (ready d).Steps xs t) :
    ∃ log a, d.Plays log a ∧ xs <+: exchanges log := by
  induction d generalizing xs with
  | done b =>
    obtain ⟨rfl, rfl⟩ := steps_done_iff.1 h
    exact ⟨[], b, .done b, List.nil_prefix⟩
  | ask q next ih =>
    have hstart : ∀ answer, ∃ log a, (next answer).Plays log a := fun answer => by
      obtain ⟨log, -, hp⟩ := exists_plays_play (next answer) (fun _ (_ : Unit) => (default, ())) ()
      exact ⟨log, _, hp⟩
    rcases xs with - | ⟨x, xs⟩
    · obtain ⟨log, a, hp⟩ := hstart default
      exact ⟨_, a, .ask hp, List.nil_prefix⟩
    obtain ⟨_, _, hd, rfl, hw⟩ := steps_ready_cons_iff.1 h
    cases hd
    rcases xs with - | ⟨y, xs⟩
    · obtain ⟨log, a, hp⟩ := hstart default
      exact ⟨_, a, .ask hp, by simp⟩
    obtain ⟨answer, rfl, hn⟩ := steps_waiting_cons_iff.1 hw
    obtain ⟨log, a, hp, hx⟩ := ih answer hn
    exact ⟨_, a, .ask hp, by simpa using hx⟩

end Thread

/-- Threads get in each other's way nowhere: what they do at once is what each of them does alone,
in any order. -/
theorem concurrent_iff {ts after : List (Thread Q A α)} {log : List (Nat × Signal Q A)} :
    Concurrent ts log after ↔
      after.length = ts.length ∧ (∀ e ∈ log, e.1 < ts.length) ∧
        ∀ (i : Nat) (t u : Thread Q A α), ts[i]? = some t → after[i]? = some u →
          t.Steps (own i log) u := by
  constructor
  · intro h
    induction h with
    | stop ts =>
      refine ⟨rfl, by simp, ?_⟩
      intro i t u ht hu
      rw [ht] at hu
      exact Thread.steps_nil_iff.2 (Option.some.inj hu)
    | @turn ts after i t u x log ht hs _ ih =>
      obtain ⟨hl, hi, hsteps⟩ := ih
      have hlt : i < ts.length := (List.getElem?_eq_some_iff.1 ht).1
      rw [List.length_set] at hl hi
      refine ⟨hl, ?_, ?_⟩
      · intro e he
        rcases List.mem_cons.1 he with rfl | he
        · exact hlt
        · exact hi e he
      · intro j t' v ht' hv
        rw [own_cons]
        by_cases hj : i = j
        · subst hj
          obtain rfl : t = t' := Option.some.inj (ht.symm.trans ht')
          rw [if_pos rfl]
          exact .step hs (hsteps i u v (List.getElem?_set_self hlt) hv)
        · rw [if_neg hj]
          exact hsteps j t' v (by rw [List.getElem?_set_ne hj, ht']) hv
  · rintro ⟨hl, hi, hsteps⟩
    induction log generalizing ts with
    | nil =>
      have he : ts = after := by
        apply List.ext_getElem hl.symm
        intro i ht hu
        exact Thread.steps_nil_iff.1 (hsteps i _ _ (List.getElem?_eq_getElem ht)
          (List.getElem?_eq_getElem hu))
      rw [he]
      exact .stop after
    | cons e log ih =>
      obtain ⟨i, x⟩ := e
      have hlt : i < ts.length := hi (i, x) List.mem_cons_self
      have hown := hsteps i _ _ (List.getElem?_eq_getElem hlt)
        (List.getElem?_eq_getElem (hl.symm ▸ hlt))
      rw [own_cons, if_pos rfl] at hown
      obtain ⟨u, hs, hrest⟩ := Thread.steps_cons_iff.1 hown
      refine .turn (List.getElem?_eq_getElem hlt) hs (ih (by simpa using hl) ?_ ?_)
      · intro e he
        rw [List.length_set]
        exact hi e (List.mem_cons_of_mem _ he)
      · intro j t v ht hv
        by_cases hj : i = j
        · subst hj
          rw [List.getElem?_set_self hlt] at ht
          obtain rfl := Option.some.inj ht
          rw [List.getElem?_eq_getElem (hl.symm ▸ hlt)] at hv
          obtain rfl := Option.some.inj hv
          exact hrest
        · rw [List.getElem?_set_ne hj] at ht
          have hother := hsteps j t v ht hv
          rwa [own_cons, if_neg hj] at hother

theorem fst_lt_of_mem_asked {log : List (Nat × Signal Q A)} {n : Nat}
    (h : ∀ e ∈ log, e.1 < n) : ∀ e ∈ asked log, e.1 < n := by
  intro e he
  obtain ⟨x, hx, hq⟩ := List.mem_filterMap.mp he
  obtain ⟨q, _, rfl⟩ := Option.map_eq_some_iff.1 hq
  exact h x hx

/-- When each dialogue has got all answers of one of its plays, all have ended as in these plays,
and the questions of the system are an interleaving of the questions of the plays. -/
theorem Concurrent.ended {ds : List (Dialogue Q A α)} {after : List (Thread Q A α)}
    {log : List (Nat × Signal Q A)} {solos : List (List (Q × A) × α)}
    (h : Concurrent (ds.map .ready) log after) (hs : solos.length = ds.length)
    (hgiven : ∀ (i : Nat) (d : Dialogue Q A α) (solo : List (Q × A) × α), ds[i]? = some d →
      solos[i]? = some solo → d.Plays solo.1 solo.2 ∧ answers (own i log) = solo.1.map Prod.snd) :
    after = solos.map (fun solo => .ready (.done solo.2)) ∧
      Interleaving (solos.map fun solo => solo.1.map Prod.fst) (asked log) := by
  obtain ⟨hl, hi, hsteps⟩ := concurrent_iff.1 h
  rw [List.length_map] at hl hi
  have hend : ∀ (i : Nat) (solo : List (Q × A) × α), solos[i]? = some solo →
      own i log = exchanges solo.1 ∧ after[i]? = some (.ready (.done solo.2)) := by
    intro i solo hsolo
    have hlt : i < solos.length := (List.getElem?_eq_some_iff.1 hsolo).1
    have hd := List.getElem?_eq_getElem (hs ▸ hlt : i < ds.length)
    have ht := List.getElem?_eq_getElem (hl.symm ▸ hs ▸ hlt : i < after.length)
    obtain ⟨hp, ha⟩ := hgiven i _ solo hd hsolo
    obtain ⟨hx, he⟩ := (hsteps i _ _ (by rw [List.getElem?_map, hd, Option.map_some]) ht).eq_done
      hp ha
    exact ⟨hx, he ▸ ht⟩
  refine ⟨?_, ?_, ?_⟩
  · apply List.ext_getElem?
    intro i
    cases hsolo : solos[i]? with
    | none =>
      have hle : solos.length ≤ i := List.getElem?_eq_none_iff.1 hsolo
      rw [List.getElem?_map, hsolo, Option.map_none, List.getElem?_eq_none_iff]
      omega
    | some solo => rw [(hend i solo hsolo).2, List.getElem?_map, hsolo, Option.map_some]
  · rw [List.length_map, hs]
    exact fst_lt_of_mem_asked hi
  · intro i part hpart
    rw [List.getElem?_map, Option.map_eq_some_iff] at hpart
    obtain ⟨solo, hsolo, rfl⟩ := hpart
    rw [own_asked, (hend i solo hsolo).1, questions_exchanges]

/-- A system that answers each question as soon as it is asked is a way of going on at once. -/
theorem Interleaves.concurrent {ds after : List (Dialogue Q A α)} {log : List (Nat × Q × A)}
    (h : Interleaves ds log after) :
    Concurrent (ds.map .ready) (exchangesOf log) (after.map .ready) := by
  induction h with
  | stop ds => exact .stop _
  | @turn ds after i q next a log hd _ ih =>
    have hlt : i < ds.length := (List.getElem?_eq_some_iff.1 hd).1
    refine .turn (t := .ready (.ask q next)) (by simp [hd]) .asked ?_
    refine .turn (t := .waiting next) (List.getElem?_set_self (by simpa using hlt)) .answered ?_
    rwa [List.set_set, ← List.map_set]

/-- Each turn of a schedule is an exchange. -/
theorem exists_interleaves_advanceAll (answer : Q → σ → A × σ) (turns : List Nat)
    (ds : List (Dialogue Q A α)) (s : σ) :
    ∃ log, Interleaves ds log (advanceAll answer turns ds s).1 ∧
      Answered answer s (log.map Prod.snd) (advanceAll answer turns ds s).2 := by
  induction turns generalizing ds s with
  | nil => exact ⟨[], .stop ds, .nil s⟩
  | cons i turns ih =>
    cases hd : ds[i]? with
    | none => simpa [advanceAll, advance, hd] using ih ds s
    | some d =>
      cases d with
      | done a => simpa [advanceAll, advance, hd] using ih ds s
      | ask q next =>
        obtain ⟨log, hl, ha⟩ := ih (ds.set i (next (answer q s).1)) (answer q s).2
        refine ⟨(i, q, (answer q s).1) :: log, ?_, ?_⟩
        · simp only [advanceAll, advance, hd]
          exact .turn hd hl
        · simp only [advanceAll, advance, hd]
          exact .cons ha

end RequestChain.Dialogue
