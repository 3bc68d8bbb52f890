import RequestChain.Proofs.Path.Reach

namespace RequestChain

variable {step : Node → Except PathFault (List Node)} {n : Node} {ms : List Node}

mutual

/-- Nothing is sorted, no container is asked for, and no text is compared with a pattern. -/
def Segment.isSure : Segment → Bool
  | .parent | .sorted | .sortedBy _ => false
  | .filter condition => condition.isSure
  | .root | .here | .members _ | .children | .indices _ | .slice .. | .descend | .length
  | .names => true

def Path.isSure : List Segment → Bool
  | [] => true
  | segment :: rest => segment.isSure && Path.isSure rest

def Condition.isSure : Condition → Bool
  | .present path | .absent path => Path.isSure path
  | .compare left op right => op != .resembles && Path.isSure left && right.isSure
  | .both a b | .either a b => a.isSure && b.isSure

def Operand.isSure : Operand → Bool
  | .literal _ => true
  | .query path => Path.isSure path

end

theorem exists_reachAll (h : ∀ n, ∃ ms, step n = .ok ms) (ns : List Node) :
    ∃ ms, reachAll step ns = .ok ms := by
  induction ns with
  | nil => exact ⟨[], rfl⟩
  | cons n ns ih =>
    obtain ⟨first, hfirst⟩ := h n
    obtain ⟨more, hmore⟩ := ih
    exact ⟨first ++ more, reachAll_cons_eq_ok_iff.2 ⟨first, more, hfirst, hmore, rfl⟩⟩

theorem exists_keepIf {test : Node → Except PathFault Bool} (h : ∀ n, ∃ b, test n = .ok b)
    (ns : List Node) : ∃ ms, keepIf test ns = .ok ms := by
  induction ns with
  | nil => exact ⟨[], rfl⟩
  | cons n ns ih =>
    obtain ⟨kept, hkept⟩ := h n
    obtain ⟨more, hmore⟩ := ih
    exact ⟨if kept then n :: more else more, by rw [keepIf, hkept, hmore]; rfl⟩

/-- Of the comparisons only that with a pattern can fail. -/
theorem Comparison.exists_holds {op : Comparison} (h : op ≠ .resembles) (a b : Option Json) :
    ∃ result, op.holds a b = .ok result := by
  cases op with
  | resembles => exact absurd rfl h
  | _ => exact ⟨_, rfl⟩

theorem exists_anyM {test : Node → Except PathFault Bool} (h : ∀ n, ∃ b, test n = .ok b)
    (ns : List Node) : ∃ b, ns.anyM test = .ok b := by
  induction ns with
  | nil => exact ⟨false, rfl⟩
  | cons n ns ih =>
    obtain ⟨b, hb⟩ := h n
    cases b with
    | true => exact ⟨true, by rw [List.anyM, hb]; rfl⟩
    | false =>
      obtain ⟨more, hmore⟩ := ih
      exact ⟨more, by rw [List.anyM, hb]; exact hmore⟩

theorem Comparison.exists_holdsForAny {op : Comparison} (h : op ≠ .resembles) (lefts : List Node)
    (right : Option Json) : ∃ result, op.holdsForAny lefts right = .ok result := by
  unfold holdsForAny
  split
  · exact exists_holds h none right
  · exact exists_anyM (fun n => exists_holds h (some n.value) right) lefts

/-- A path that never fails reaches something exactly if what it reaches is not empty. -/
theorem Path.reachesAny_of_isSure {path : List Segment} (h : Path.isSure path = true)
    (hms : Path.reach path n = .ok ms) : Path.reachesAny path n = .ok !ms.isEmpty := by
  unfold Path.reachesAny
  split
  · cases h
  · rw [hms]
    rfl

mutual

theorem Segment.exists_reach (segment : Segment) (h : segment.isSure = true) (n : Node) :
    ∃ ms, segment.reach n = .ok ms := by
  match segment with
  | .parent | .sorted | .sortedBy _ => cases h
  | .filter condition =>
    rw [Segment.reach]
    exact exists_keepIf (fun m => Condition.exists_holds condition h _) _
  | .root | .here | .members _ | .children | .indices _ | .slice .. | .descend | .length
  | .names =>
    rw [Segment.reach]
    exact ⟨_, rfl⟩

theorem Path.exists_reach (path : List Segment) (h : Path.isSure path = true) (n : Node) :
    ∃ ms, Path.reach path n = .ok ms := by
  match path with
  | [] => exact ⟨[n], by rw [Path.reach]⟩
  | segment :: rest =>
    simp only [Path.isSure, Bool.and_eq_true] at h
    obtain ⟨ns, hns⟩ := Segment.exists_reach segment h.1 n
    rw [Path.reach, hns]
    exact exists_reachAll (Path.exists_reach rest h.2) ns

theorem Condition.exists_holds (condition : Condition) (h : condition.isSure = true) (n : Node) :
    ∃ b, condition.holds n = .ok b := by
  match condition with
  | .present path =>
    obtain ⟨ms, hms⟩ := Path.exists_reach path h n
    exact ⟨_, by rw [Condition.holds, Path.reachesAny_of_isSure h hms]⟩
  | .absent path =>
    obtain ⟨ms, hms⟩ := Path.exists_reach path h n
    exact ⟨_, by rw [Condition.holds, Path.reachesAny_of_isSure h hms]; rfl⟩
  | .compare left op right =>
    simp only [Condition.isSure, Bool.and_eq_true, bne_iff_ne] at h
    obtain ⟨lefts, hlefts⟩ := Path.exists_reach left h.1.2 n
    obtain ⟨v, hv⟩ := Operand.exists_value right h.2 n
    rw [Condition.holds, hlefts, hv]
    exact op.exists_holdsForAny h.1.1 lefts v
  | .both a b =>
    simp only [Condition.isSure, Bool.and_eq_true] at h
    obtain ⟨first, hfirst⟩ := Condition.exists_holds a h.1 n
    rw [Condition.holds, hfirst]
    cases first with
    | true => exact Condition.exists_holds b h.2 n
    | false => exact ⟨false, rfl⟩
  | .either a b =>
    simp only [Condition.isSure, Bool.and_eq_true] at h
    obtain ⟨first, hfirst⟩ := Condition.exists_holds a h.1 n
    rw [Condition.holds, hfirst]
    cases first with
    | true => exact ⟨true, rfl⟩
    | false => exact Condition.exists_holds b h.2 n

theorem Operand.exists_value (operand : Operand) (h : operand.isSure = true) (n : Node) :
    ∃ v, operand.value n = .ok v := by
  match operand with
  | .literal v => exact ⟨some v, by rw [Operand.value]⟩
  | .query path =>
    obtain ⟨ms, hms⟩ := Path.exists_reach path h n
    exact ⟨_, by rw [Operand.value, hms]; rfl⟩

end
end RequestChain
