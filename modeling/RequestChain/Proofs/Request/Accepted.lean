import Mathlib.Data.List.Forall2
import RequestChain.Proofs.Json.Proper
import RequestChain.Request.Check

namespace RequestChain

namespace Checked

variable {α β : Type} {a : Checked α} {b : Checked β}

theorem both_eq_ok_iff {x : α} {y : β} : a.both b = .ok (x, y) ↔ a = .ok x ∧ b = .ok y := by
  cases a <;> cases b <;> simp [both]

theorem toOption_both :
    (a.both b).toOption = a.toOption.bind fun x => b.toOption.map fun y => (x, y) := by
  cases a <;> cases b <;> rfl

theorem toOption_map (f : α → β) (a : Checked α) : (a.map f).toOption = a.toOption.map f := by
  cases a <;> rfl

theorem toOption_eq_some_iff {x : α} : a.toOption = some x ↔ a = .ok x := by
  cases a <;> simp [Except.toOption]

/-- Lists pass alike if their values do, one by one. -/
theorem toOption_all_eq {as as' : List (Checked α)}
    (h : List.Forall₂ (fun a a' => a.toOption = a'.toOption) as as') :
    (all as).toOption = (all as').toOption := by
  induction h with
  | nil => rfl
  | cons hfirst _ ih =>
    rw [all, all, toOption_map, toOption_map, toOption_both, toOption_both, hfirst, ih]

/-- Values at places that count up may be replaced by others that pass alike at every place. -/
theorem toOption_all_mapIdx_eq {ι π : Type} {check : π → ι → Checked α} {vs vs' : List ι}
    (h : List.Forall₂ (fun v v' => ∀ place, (check place v').toOption = (check place v).toOption)
      vs vs') (toPlace : Nat → π) :
    (all (vs'.mapIdx fun i v => check (toPlace i) v)).toOption =
      (all (vs.mapIdx fun i v => check (toPlace i) v)).toOption := by
  apply toOption_all_eq
  induction h generalizing toPlace with
  | nil => exact .nil
  | cons hfirst _ ih =>
    rw [List.mapIdx_cons, List.mapIdx_cons]
    exact .cons (hfirst _) (ih fun i => toPlace (i + 1))

theorem mem_of_all_eq_ok {as : List (Checked α)} {xs : List α} {x : α} (h : all as = .ok xs)
    (hx : x ∈ xs) : .ok x ∈ as := by
  induction as generalizing xs with
  | nil =>
    cases h
    cases hx
  | cons a as ih =>
    obtain ⟨⟨y, ys⟩, hboth, rfl⟩ := Json.map_eq_ok_iff.1 h
    obtain ⟨rfl, hall⟩ := both_eq_ok_iff.1 hboth
    rcases List.mem_cons.1 hx with rfl | hx
    · exact List.mem_cons_self
    · exact List.mem_cons_of_mem _ (ih hall hx)

end Checked

namespace Request

variable {members : List (String × Json)} {other : ComplaintKind} {place : List PlaceStep}
  {s : Step} {r : Request}

/-- Whether expressions pass does not depend on their place in the input. -/
theorem toOption_checkTexts (place place' : List PlaceStep) (v : Option Json) :
    (checkTexts place v).toOption = (checkTexts place' v).toOption := by
  have hentry (e : String × Json) :
      (checkEntry place e).toOption = (checkEntry place' e).toOption := by
    obtain ⟨name, v⟩ := e
    cases v <;> rfl
  rcases v with - | (_ | _ | _ | _ | _ | _ | members)
  case some.obj =>
    simp only [checkTexts, checkObject, Checked.toOption_map]
    congr 1
    apply Checked.toOption_all_eq
    rw [List.forall₂_map_left_iff, List.forall₂_map_right_iff]
    exact List.forall₂_same.2 fun e _ => hentry e
  all_goals rfl

/-- The expressions are those of `returns`, and those of `variables` only where it is missing. -/
theorem get?_returnsKey (members : List (String × Json)) :
    Entries.get? (returnsKey members) members =
      (Entries.get? "returns" members).or (Entries.get? "variables" members) := by
  unfold returnsKey
  cases hreturns : Entries.get? "returns" members with
  | some v => simp [hreturns]
  | none => cases hvariables : Entries.get? "variables" members <;> simp [hreturns, hvariables]

/-- Fields that agree, one by one, make one step, whichever of its two names the member with the
expressions has. -/
theorem toOption_checkFields_eq {members' : List (String × Json)}
    (hmethod : Entries.get? "method" members' = Entries.get? "method" members)
    (hendpoint : Entries.get? "endpoint" members' = Entries.get? "endpoint" members)
    (hparameters : Entries.get? "parameters" members' = Entries.get? "parameters" members)
    (hreturns : Entries.get? (returnsKey members') members' =
      Entries.get? (returnsKey members) members)
    (hforEach : ∀ place,
      (checkText place (Entries.get? "foreach" members')).toOption.map (·.bind variableName) =
        (checkText place (Entries.get? "foreach" members)).toOption.map (·.bind variableName)) :
    (checkFields place members').toOption = (checkFields place members).toOption := by
  have htexts := toOption_checkTexts (place ++ [.name (returnsKey members')])
    (place ++ [.name (returnsKey members)]) (Entries.get? (returnsKey members) members)
  have hstep (method endpoint : Option String) (parameters : Option (List (String × Json)))
      (returns : Option (List (String × String))) :=
    congrArg (Option.map (Step.mk method endpoint parameters returns))
      (hforEach (place ++ [.name "foreach"]))
  simp only [Option.map_map, Function.comp_def] at hstep
  simp only [checkFields, Checked.toOption_map, Checked.toOption_both, hmethod, hendpoint,
    hparameters, hreturns, htexts, Option.map_bind, Option.map_map, Function.comp_def, hstep]

/-- The steps of a request may be replaced, one by one, by others that pass alike. -/
theorem toOption_check_put_requests {items items' : List Json}
    (hmember : Entries.get? "requests" members = some (.arr items))
    (h : List.Forall₂ (fun v v' => ∀ place,
      (checkStep other place v').toOption = (checkStep other place v).toOption) items items') :
    (check other place (.obj (Entries.put "requests" (.arr items') members))).toOption =
      (check other place (.obj members)).toOption := by
  have hdebug : Entries.get? "debug" (Entries.put "requests" (.arr items') members) =
      Entries.get? "debug" members := by
    rw [Entries.get?_put, if_neg (by decide)]
  have hresponse : Entries.get? "response" (Entries.put "requests" (.arr items') members) =
      Entries.get? "response" members := by
    rw [Entries.get?_put, if_neg (by decide)]
  have hall := Checked.toOption_all_mapIdx_eq h fun i => place ++ [.name "requests"] ++ [.index i]
  simp only [check, Entries.get?_put, hmember, hdebug, hresponse, ↓reduceIte, checkSteps,
    Checked.toOption_map, Checked.toOption_both, hall]

/-- The steps of a request that passes have passed, each as the object at its place. -/
theorem exists_checkFields_of_check {v : Json} (h : check other place v = .ok r)
    (hs : s ∈ r.steps.getD []) : ∃ place members, checkFields place members = .ok s := by
  cases v with
  | obj members =>
    obtain ⟨⟨steps, debug⟩, hboth, rfl⟩ := Json.map_eq_ok_iff.1 h
    obtain ⟨hsteps, _⟩ := Checked.both_eq_ok_iff.1 hboth
    unfold checkSteps at hsteps
    split at hsteps
    · cases hsteps
      cases hs
    · cases hsteps
      cases hs
    · obtain ⟨xs, hall, rfl⟩ := Json.map_eq_ok_iff.1 hsteps
      obtain ⟨i, hi, hstep⟩ := List.mem_mapIdx.1 (Checked.mem_of_all_eq_ok hall hs)
      unfold checkStep at hstep
      split at hstep
      · exact ⟨_, _, hstep⟩
      · cases hstep
    · cases hsteps
  | _ => cases h

/-- The variable of a step that passes is the name that its member gives, without blanks and braces.
-/
theorem forEach_of_checkFields (h : checkFields place members = .ok s) :
    ∃ written, checkText (place ++ [.name "foreach"]) (Entries.get? "foreach" members) =
      .ok written ∧ s.forEach = written.bind variableName := by
  obtain ⟨⟨method, endpoint, parameters, returns, written⟩, hfields, rfl⟩ :=
    Json.map_eq_ok_iff.1 h
  simp only [Checked.both_eq_ok_iff] at hfields
  obtain ⟨_, _, _, _, hwritten⟩ := hfields
  exact ⟨written, hwritten, rfl⟩

end Request
end RequestChain
