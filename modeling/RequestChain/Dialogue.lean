namespace RequestChain

/-- A computation that asks questions of type `Q`, is answered in `A` and ends with an `α`. Between
its questions it depends on nothing outside. -/
inductive Dialogue (Q A α : Type) where
  | done (result : α)
  | ask (question : Q) (next : A → Dialogue Q A α)

namespace Dialogue

variable {Q A Q' A' α β σ : Type}

def bind : Dialogue Q A α → (α → Dialogue Q A β) → Dialogue Q A β
  | done a, f => f a
  | ask q next, f => ask q fun answer => (next answer).bind f

def map (f : α → β) : Dialogue Q A α → Dialogue Q A β
  | done a => done (f a)
  | ask q next => ask q fun answer => (next answer).map f

def via (answer : Q → Dialogue Q' A' A) : Dialogue Q A α → Dialogue Q' A' α
  | done a => done a
  | ask q next => (answer q).bind fun a => (next a).via answer

/-- Plays a dialogue to its end against answers that depend on a state. -/
def play (answer : Q → σ → A × σ) : Dialogue Q A α → σ → α × σ
  | done a, s => (a, s)
  | ask q next, s =>
    let (a, s) := answer q s
    (next a).play answer s

/-- The dialogue asks these questions, gets these answers and ends with this result. -/
inductive Plays : Dialogue Q A α → List (Q × A) → α → Prop where
  | done (a : α) : Plays (.done a) [] a
  | ask {q : Q} {next : A → Dialogue Q A α} {answer : A} {log : List (Q × A)} {a : α} :
      Plays (next answer) log a → Plays (.ask q next) ((q, answer) :: log) a

end Dialogue
end RequestChain
