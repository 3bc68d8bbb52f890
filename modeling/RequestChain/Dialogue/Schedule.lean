import RequestChain.Dialogue

namespace RequestChain.Dialogue

variable {Q A α σ : Type}

def result? : Dialogue Q A α → Option α
  | done a => some a
  | ask _ _ => none

/-- Answers the question that the `i`-th dialogue stands at. Nothing happens if it has ended or if
there is no such dialogue. -/
def advance (answer : Q → σ → A × σ) (i : Nat) (ds : List (Dialogue Q A α)) (s : σ) :
    List (Dialogue Q A α) × σ :=
  match ds[i]? with
  | some (ask q next) =>
    let (a, s) := answer q s
    (ds.set i (next a), s)
  | _ => (ds, s)

def advanceAll (answer : Q → σ → A × σ) :
    List Nat → List (Dialogue Q A α) → σ → List (Dialogue Q A α) × σ
  | [], ds, s => (ds, s)
  | i :: turns, ds, s =>
    let (ds, s) := advance answer i ds s
    advanceAll answer turns ds s

/-- The system of dialogues goes from one state to another while it asks the questions of a log,
each noted with the dialogue that asked it and the answer that it got. -/
inductive Interleaves : List (Dialogue Q A α) → List (Nat × Q × A) → List (Dialogue Q A α) → Prop
    where
  | stop (ds : List (Dialogue Q A α)) : Interleaves ds [] ds
  | turn {ds after : List (Dialogue Q A α)} {i : Nat} {q : Q} {next : A → Dialogue Q A α} {a : A}
      {log : List (Nat × Q × A)} :
      ds[i]? = some (.ask q next) → Interleaves (ds.set i (next a)) log after →
        Interleaves ds ((i, q, a) :: log) after

end RequestChain.Dialogue
