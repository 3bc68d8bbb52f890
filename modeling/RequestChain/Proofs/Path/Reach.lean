import Mathlib.Data.List.Forall2
import RequestChain.Proofs.Json.Levels
import RequestChain.Proofs.Json.Proper
import RequestChain.Selection

namespace RequestChain

open Json (bind_eq_ok_iff)

variable {step next both : Node → Except PathFault (List Node)} {n : Node} {ns ms : List Node}

theorem reachAll_nil_eq_ok_iff : reachAll step [] = .ok ms ↔ ms = [] := by
  rw [reachAll, Except.ok.injEq, eq_comm]

theorem reachAll_cons_eq_ok_iff :
    reachAll step (n :: ns) = .ok ms ↔
      ∃ first more, step n = .ok first ∧ reachAll step ns = .ok more ∧ ms = first ++ more := by
  simp only [reachAll, bind_eq_ok_iff, pure, Except.pure, Except.ok.injEq, exists_and_left]
  simp only [eq_comm]

theorem reachAll_eq_ok_iff :
    reachAll step ns = .ok ms ↔
      ∃ groups, List.Forall₂ (fun n group => step n = .ok group) ns groups ∧
        ms = groups.flatten := by
  induction ns generalizing ms with
  | nil => simp [reachAll_nil_eq_ok_iff]
  | cons n ns ih =>
    rw [reachAll_cons_eq_ok_iff]
    constructor
    · rintro ⟨first, more, hfirst, hmore, rfl⟩
      obtain ⟨groups, hgroups, rfl⟩ := ih.1 hmore
      exact ⟨first :: groups, .cons hfirst hgroups, rfl⟩
    · rintro ⟨groups, hgroups, rfl⟩
      cases hgroups with
      | cons hfirst hrest => exact ⟨_, _, hfirst, ih.2 ⟨_, hrest, rfl⟩, rfl⟩

theorem reachAll_eq_flatMap {f : Node → List Node} (h : ∀ n, step n = .ok (f n)) (ns : List Node) :
    reachAll step ns = .ok (ns.flatMap f) := by
  induction ns with
  | nil => rfl
  | cons n ns ih => exact reachAll_cons_eq_ok_iff.2 ⟨f n, ns.flatMap f, h n, ih, rfl⟩

theorem reachAll_singleton (step : Node → Except PathFault (List Node)) (n : Node) :
    reachAll step [n] = step n := by
  cases h : step n <;> simp [reachAll, h, bind, Except.bind, pure, Except.pure]

theorem reachAll_eq_ok_nil_iff {step : Node → Except PathFault (List Node)} {ns : List Node} :
    reachAll step ns = .ok [] ↔ ∀ n ∈ ns, step n = .ok [] := by
  induction ns with
  | nil => simp [reachAll_nil_eq_ok_iff]
  | cons n ns ih =>
    rw [reachAll_cons_eq_ok_iff, List.forall_mem_cons, ← ih]
    constructor
    · rintro ⟨first, more, hfirst, hmore, he⟩
      obtain ⟨rfl, rfl⟩ := List.nil_eq_append_iff.1 he
      exact ⟨hfirst, hmore⟩
    · rintro ⟨hfirst, hmore⟩
      exact ⟨[], [], hfirst, hmore, rfl⟩

theorem reachAll_append_eq_ok_iff {ns' : List Node} :
    reachAll step (ns ++ ns') = .ok ms ↔
      ∃ first more, reachAll step ns = .ok first ∧ reachAll step ns' = .ok more ∧
        ms = first ++ more := by
  induction ns generalizing ms with
  | nil => simp [reachAll_nil_eq_ok_iff]
  | cons n ns ih =>
    simp only [List.cons_append, reachAll_cons_eq_ok_iff, ih]
    constructor
    · rintro ⟨first, _, hfirst, ⟨second, third, hsecond, hthird, rfl⟩, rfl⟩
      exact ⟨first ++ second, third, ⟨first, second, hfirst, hsecond, rfl⟩, hthird,
        (List.append_assoc _ _ _).symm⟩
    · rintro ⟨_, third, ⟨first, second, hfirst, hsecond, rfl⟩, hthird, rfl⟩
      exact ⟨first, second ++ third, hfirst, ⟨second, third, hsecond, hthird, rfl⟩,
        List.append_assoc _ _ _⟩

/-- From all nodes by the one step and then by the other is from each node by both. -/
theorem reachAll_both_eq_ok_iff
    (h : ∀ n ms, both n = .ok ms ↔ ∃ ks, step n = .ok ks ∧ reachAll next ks = .ok ms) :
    reachAll both ns = .ok ms ↔
      ∃ ks, reachAll step ns = .ok ks ∧ reachAll next ks = .ok ms := by
  induction ns generalizing ms with
  | nil => simp [reachAll_nil_eq_ok_iff]
  | cons n ns ih =>
    simp only [reachAll_cons_eq_ok_iff, h, ih]
    constructor
    · rintro ⟨first, more, ⟨ks, hks, hfirst⟩, ⟨ls, hls, hmore⟩, rfl⟩
      exact ⟨ks ++ ls, ⟨ks, ls, hks, hls, rfl⟩,
        reachAll_append_eq_ok_iff.2 ⟨first, more, hfirst, hmore, rfl⟩⟩
    · rintro ⟨_, ⟨ks, ls, hks, hls, rfl⟩, hms⟩
      obtain ⟨first, more, hfirst, hmore, rfl⟩ := reachAll_append_eq_ok_iff.1 hms
      exact ⟨first, more, ⟨ks, hks, hfirst⟩, ⟨ls, hls, hmore⟩, rfl⟩

namespace Path

theorem reach_nil_eq_ok_iff : Path.reach [] n = .ok ms ↔ ms = [n] := by
  rw [Path.reach, Except.ok.injEq, eq_comm]

theorem reach_cons_eq_ok_iff {segment : Segment} {rest : List Segment} :
    Path.reach (segment :: rest) n = .ok ms ↔
      ∃ ns, segment.reach n = .ok ns ∧ reachAll (Path.reach rest) ns = .ok ms := by
  rw [Path.reach, bind_eq_ok_iff]

/-- A path in two parts leads from each node that the first part reaches on by the second. -/
theorem reach_append_eq_ok_iff {first second : List Segment} :
    Path.reach (first ++ second) n = .ok ms ↔
      ∃ ns, Path.reach first n = .ok ns ∧ reachAll (Path.reach second) ns = .ok ms := by
  induction first generalizing n ms with
  | nil => simp [reach_nil_eq_ok_iff, reachAll_singleton]
  | cons segment first ih =>
    have hall {ks ms : List Node} : reachAll (Path.reach (first ++ second)) ks = .ok ms ↔
        ∃ ns, reachAll (Path.reach first) ks = .ok ns ∧ reachAll (Path.reach second) ns = .ok ms :=
      reachAll_both_eq_ok_iff fun _ _ => ih
    simp only [List.cons_append, reach_cons_eq_ok_iff, hall]
    constructor
    · rintro ⟨ks, hks, ns, hns, hms⟩
      exact ⟨ns, ⟨ks, hks, hns⟩, hms⟩
    · rintro ⟨ns, ⟨ks, hks, hns⟩, hms⟩
      exact ⟨ks, hks, ns, hns, hms⟩

theorem reach_root (path : List Segment) (v : Json) :
    Path.reach (.root :: path) (Node.whole v) = Path.reach path (Node.whole v) := by
  rw [Path.reach, Segment.reach]
  exact reachAll_singleton _ _

end Path

namespace Node

theorem walkItems_eq_flatMap (ancestors : List Json) (items : List Json) :
    walkItems ancestors items = items.flatMap (walk ancestors) := by
  induction items with
  | nil => rfl
  | cons v vs ih => rw [walkItems, ih, List.flatMap_cons]

theorem walkMembers_eq_flatMap (ancestors : List Json) (members : List (String × Json)) :
    walkMembers ancestors members = members.flatMap fun m => walk ancestors m.2 := by
  induction members with
  | nil => rfl
  | cons m ms ih => rw [walkMembers, ih, List.flatMap_cons]

/-- A descent comes to the node itself, and then to each child with what stands below it. -/
theorem descend_eq (n : Node) : n.descend = n :: n.children.flatMap descend := by
  obtain ⟨v, ancestors⟩ := n
  cases v with
  | arr items =>
    rw [descend, walk, walkItems_eq_flatMap, children, List.flatMap_map]
    rfl
  | obj members =>
    rw [descend, walk, walkMembers_eq_flatMap, children, List.flatMap_map]
    rfl
  | _ => rfl

theorem map_value_children (n : Node) : n.children.map value = n.value.contents := by
  obtain ⟨v, ancestors⟩ := n
  cases v with
  | arr items => rw [children, List.map_map]; exact List.map_id items
  | obj members => rw [children, List.map_map]; rfl
  | _ => rfl

/-- What holds of a node if it holds of what the node contains holds of every node. -/
theorem byChildren {P : Node → Prop} (step : ∀ n, (∀ c ∈ n.children, P c) → P n) (n : Node) :
    P n := by
  obtain ⟨v, ancestors⟩ := n
  induction v using Json.byContents generalizing ancestors with
  | step v ih =>
    apply step
    intro c hc
    have hmem : c.value ∈ v.contents :=
      map_value_children ⟨v, ancestors⟩ ▸ List.mem_map_of_mem hc
    exact ih c.value hmem c.ancestors

/-- Seen as values, the descendants of a node are the values in it. -/
theorem map_value_descend (n : Node) : n.descend.map value = n.value.nodes := by
  induction n using byChildren with
  | step n ih =>
    rw [descend_eq, Json.nodes_eq, List.map_cons, List.map_flatMap, ← map_value_children,
      List.flatMap_map, List.flatMap_congr ih]

theorem mem_descend_iff {m : Node} :
    m ∈ n.descend ↔ m = n ∨ ∃ c ∈ n.children, m ∈ c.descend := by
  rw [descend_eq, List.mem_cons, List.mem_flatMap]

theorem mem_descend_trans {k m : Node} (hk : k ∈ m.descend) (hm : m ∈ n.descend) :
    k ∈ n.descend := by
  induction n using byChildren with
  | step n ih =>
    rcases mem_descend_iff.1 hm with rfl | ⟨c, hc, hm⟩
    · exact hk
    · exact mem_descend_iff.2 (.inr ⟨c, hc, ih c hc hm⟩)

end Node

theorem Path.reach_descend_eq_ok_iff {path : List Segment} :
    Path.reach (.descend :: path) n = .ok ms ↔
      ∃ first more, Path.reach path n = .ok first ∧
        reachAll (Path.reach path) (n.children.flatMap Node.descend) = .ok more ∧
        ms = first ++ more := by
  rw [Path.reach_cons_eq_ok_iff, Segment.reach]
  simp only [Except.ok.injEq, exists_eq_left']
  rw [Node.descend_eq, reachAll_cons_eq_ok_iff]

namespace Selection

theorem select_congr {expression other : String} (h : rooted expression = rooted other)
    (document : Json) : select document expression = select document other := by
  rw [select, select, h]

/-- What is selected is what the path of the expression reaches from the whole document. -/
theorem select_eq_ok_iff {document : Json} {expression text : String} {path : Path}
    {values : List Json} (hrooted : rooted expression = .ok text)
    (hparse : Path.parse text = .ok path) :
    select document expression = .ok values ↔
      ∃ ms, Path.reach path (Node.whole document) = .ok ms ∧ values = ms.map Node.value := by
  cases h : Path.reach path (Node.whole document) with
  | error fault =>
    simp [select, hrooted, hparse, Path.select, h, bind, Except.bind]
  | ok ms =>
    simp [select, hrooted, hparse, Path.select, h, bind, Except.bind, pure, Except.pure, eq_comm]

end Selection
end RequestChain
