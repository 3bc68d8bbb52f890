import Mathlib
import RequestChain.Proofs.Path.Sure
import RequestChain.Proofs.Variable.Merge

namespace RequestChain

open scoped List
open Json (bind_eq_ok_iff)

/-- The segment leads to some of what a node contains, each once and in order. -/
def Segment.isDownward : Segment → Bool
  | .members [_] | .children | .indices [_] | .filter _ => true
  | .slice _ _ step => decide (0 ≤ step.getD 1)
  | _ => false

namespace Node

variable {n : Node} {ns ms : List Node}

theorem elements_sublist (n : Node) : n.elements.map n.child <+ n.children := by
  obtain ⟨v, ancestors⟩ := n
  cases v with
  | arr items => exact List.Sublist.refl _
  | _ => exact List.nil_sublist _

theorem members_sublist (n : Node) (name : String) : n.members [name] <+ n.children := by
  obtain ⟨v, ancestors⟩ := n
  cases v with
  | obj ms =>
    cases hget : Entries.get? name ms with
    | none => simp [members, Json.get?, Json.members, hget]
    | some w =>
      have hmem : (name, w) ∈ ms := Entries.mem_of_get? hget
      simp only [members, Json.get?, Json.members, hget, List.filterMap_cons, Option.map_some,
        List.filterMap_nil, List.singleton_sublist, children, List.mem_map]
      exact ⟨_, hmem, rfl⟩
  | _ => simp [members, Json.get?, Json.members, Entries.get?]

theorem filterMap_getElem?_sublist {α : Type} (xs : List α) {positions : List Nat}
    (h : positions.Pairwise (· < ·)) {k : Nat} (hk : ∀ p ∈ positions, k ≤ p) :
    positions.filterMap (xs[·]?) <+ xs.drop k := by
  induction positions generalizing k with
  | nil => exact List.nil_sublist _
  | cons p positions ih =>
    obtain ⟨hp, hrest⟩ := List.pairwise_cons.1 h
    have hkp := hk p List.mem_cons_self
    cases hx : xs[p]? with
    | none =>
      rw [List.filterMap_cons_none hx]
      exact ih hrest fun q hq => hk q (List.mem_cons_of_mem _ hq)
    | some x =>
      obtain ⟨hlt, rfl⟩ := List.getElem?_eq_some_iff.1 hx
      rw [List.filterMap_cons_some hx]
      have htail := ih hrest fun q hq => Nat.succ_le_of_lt (hp q hq)
      have hdrop : xs[p] :: xs.drop (p + 1) <+ xs.drop k := by
        rw [← List.drop_eq_getElem_cons hlt]
        exact List.drop_sublist_drop_left xs hkp
      exact (htail.cons_cons _).trans hdrop

theorem pairwise_slicePositions (size : Nat) (first last : Option Int) {step : Option Int}
    (h : 0 ≤ step.getD 1) : (slicePositions size first last step).Pairwise (· < ·) := by
  unfold slicePositions
  generalize step.getD 1 = k at h
  have hneg : ¬ k < 0 := Int.not_lt.2 h
  simp only [if_neg hneg]
  split
  · exact .nil
  · have hstart : 0 ≤ (first.map (bound size 0 size)).getD 0 := by
      cases first with
      | none => exact Int.le_refl 0
      | some i => exact Int.le_max_left _ _
    rw [List.pairwise_map]
    refine List.pairwise_lt_range.imp ?_
    intro i j hij
    have hfrom : 0 ≤ k * i := Int.mul_nonneg h (by omega)
    have hmul : k * i < k * j := Int.mul_lt_mul_of_pos_left (by omega) (by omega)
    omega

/-- A slice that does not go backwards takes some of the children, in their order. -/
theorem slice_sublist (n : Node) (first last : Option Int) {step : Option Int}
    (h : 0 ≤ step.getD 1) : n.slice first last step <+ n.children := by
  have hpositions := pairwise_slicePositions n.elements.length first last h
  have hchosen := filterMap_getElem?_sublist (n.elements.map n.child) hpositions
    fun p _ => Nat.zero_le p
  simp only [List.getElem?_map, List.drop_zero] at hchosen
  exact hchosen.trans n.elements_sublist

theorem indices_sublist (n : Node) (i : Int) : n.indices [i] <+ n.children := by
  refine List.Sublist.trans ?_ n.elements_sublist
  unfold indices
  cases hp : position? n.elements.length i with
  | none => simp [hp]
  | some p =>
    cases hv : n.elements[p]? with
    | none => simp [hp, hv]
    | some v =>
      simp only [List.filterMap_cons, hp, hv, Option.bind_eq_bind, Option.bind_some,
        List.filterMap_nil, Option.pure_def, List.singleton_sublist]
      exact List.mem_map_of_mem (List.mem_of_getElem? hv)

theorem keepIf_sublist {test : Node → Except PathFault Bool} (h : keepIf test ns = .ok ms) :
    ms <+ ns := by
  induction ns generalizing ms with
  | nil =>
    cases h
    exact List.Sublist.refl _
  | cons n ns ih =>
    obtain ⟨kept, _, h⟩ := bind_eq_ok_iff.1 h
    obtain ⟨more, hmore, h⟩ := bind_eq_ok_iff.1 h
    cases h
    cases kept with
    | true => exact (ih hmore).cons_cons n
    | false => exact (ih hmore).cons n

theorem sublist_flatMap_descend (ns : List Node) : ns <+ ns.flatMap descend := by
  induction ns with
  | nil => exact List.Sublist.refl _
  | cons n ns ih =>
    rw [List.flatMap_cons, descend_eq, List.cons_append]
    exact (ih.trans (List.sublist_append_right _ _)).cons_cons n

/-- Descending from some children, in their order, stays in the order of the descent from their
container. -/
theorem flatMap_descend_sublist (h : ms <+ n.children) : ms.flatMap descend <+ n.descend := by
  rw [n.descend_eq]
  exact (h.flatMap descend).cons n

/-- All that the nodes of a walk contain is, in another order, the walk without its start. -/
theorem flatMap_children_perm (n : Node) :
    n.descend.flatMap children ~ n.children.flatMap descend := by
  induction n using byChildren with
  | step n ih =>
    calc n.descend.flatMap children
        = n.children ++ n.children.flatMap fun c => c.descend.flatMap children := by
          rw [descend_eq, List.flatMap_cons, List.flatMap_assoc]
      _ ~ n.children ++ n.children.flatMap fun c => c.children.flatMap descend :=
          (List.Perm.flatMap_left _ ih).append_left _
      _ ~ n.children.flatMap fun c => c :: c.children.flatMap descend := by
          have h := List.map_append_flatMap_perm n.children id fun c => c.children.flatMap descend
          rwa [List.map_id] at h
      _ = n.children.flatMap descend := List.flatMap_congr fun c _ => c.descend_eq.symm

theorem flatMap_children_subperm (h : ns <+~ n.descend) : ns.flatMap children <+~ n.descend := by
  obtain ⟨ks, hperm, hsub⟩ := h
  have hwhole : ks.flatMap children <+~ n.children.flatMap descend :=
    (hsub.flatMap children).subperm.trans n.flatMap_children_perm.subperm
  have htail : n.children.flatMap descend <+~ n.descend := by
    rw [n.descend_eq]
    exact (List.sublist_cons_self _ _).subperm
  exact (hperm.flatMap_right children).symm.subperm.trans (hwhole.trans htail)

end Node

variable {step : Node → Except PathFault (List Node)} {path : List Segment} {n : Node}
  {ns ms : List Node}

theorem reachAll_sublist {f g : Node → List Node}
    (hstep : ∀ n ms, step n = .ok ms → ms.flatMap f <+ g n) (h : reachAll step ns = .ok ms) :
    ms.flatMap f <+ ns.flatMap g := by
  induction ns generalizing ms with
  | nil =>
    cases h
    exact List.Sublist.refl _
  | cons n ns ih =>
    obtain ⟨first, more, hfirst, hmore, rfl⟩ := reachAll_cons_eq_ok_iff.1 h
    rw [List.flatMap_append, List.flatMap_cons]
    exact (hstep n first hfirst).append (ih hmore)

theorem reachAll_subset {P : Node → Prop} (hns : ∀ n ∈ ns, ∀ ms, step n = .ok ms → ∀ m ∈ ms, P m)
    (h : reachAll step ns = .ok ms) : ∀ m ∈ ms, P m := by
  induction ns generalizing ms with
  | nil =>
    cases h
    simp
  | cons n ns ih =>
    obtain ⟨hn, hrest⟩ := List.forall_mem_cons.1 hns
    obtain ⟨first, more, hfirst, hmore, rfl⟩ := reachAll_cons_eq_ok_iff.1 h
    exact List.forall_mem_append.2 ⟨hn first hfirst, ih hrest hmore⟩

namespace Segment

variable {s : Segment}

/-- A segment that leads down takes some of the children, in their order. -/
theorem reach_sublist (hs : s.isDownward = true) (h : s.reach n = .ok ms) : ms <+ n.children := by
  match s, hs with
  | .members [name], _ =>
    rw [Segment.reach] at h
    cases h
    exact n.members_sublist name
  | .children, _ =>
    rw [Segment.reach] at h
    cases h
    exact List.Sublist.refl _
  | .indices [i], _ =>
    rw [Segment.reach] at h
    cases h
    exact n.indices_sublist i
  | .slice first last step, hs =>
    rw [Segment.reach] at h
    cases h
    exact n.slice_sublist first last (of_decide_eq_true hs)
  | .filter condition, _ =>
    rw [Segment.reach] at h
    exact Node.keepIf_sublist h

/-- A segment that leads down, or descends, reaches nothing but the node and what stands below it.
-/
theorem reach_subset (hs : s.isDownward = true ∨ s = .descend) (h : s.reach n = .ok ms) :
    ms ⊆ n.descend := by
  rcases hs with hs | rfl
  · intro m hm
    have hchild := (reach_sublist hs h).subset hm
    exact Node.mem_descend_iff.2 (.inr ⟨m, hchild, Node.mem_descend_iff.2 (.inl rfl)⟩)
  · rw [Segment.reach] at h
    cases h
    exact List.Subset.refl _

end Segment

namespace Path

theorem flatMap_descend_sublist (hp : ∀ s ∈ path, s.isDownward = true)
    (h : Path.reach path n = .ok ms) : ms.flatMap Node.descend <+ n.descend := by
  induction path generalizing n ms with
  | nil =>
    rw [reach_nil_eq_ok_iff.1 h, List.flatMap_cons, List.flatMap_nil, List.append_nil]
  | cons s rest ih =>
    obtain ⟨hs, hrest⟩ := List.forall_mem_cons.1 hp
    obtain ⟨ns, hns, hms⟩ := reach_cons_eq_ok_iff.1 h
    have hfirst := Node.flatMap_descend_sublist (Segment.reach_sublist hs hns)
    exact (reachAll_sublist (fun n ms h => ih hrest h) hms).trans hfirst

/-- A path without a descent reaches nodes in the order of the walk, each once. -/
theorem reach_sublist (hp : ∀ s ∈ path, s.isDownward = true) (h : Path.reach path n = .ok ms) :
    ms <+ n.descend :=
  (Node.sublist_flatMap_descend ms).trans (flatMap_descend_sublist hp h)

/-- From different nodes of a walk a path without a descent reaches different nodes. -/
theorem reachAll_subperm (hp : ∀ s ∈ path, s.isDownward = true) (hns : ns <+~ n.descend)
    (h : reachAll (Path.reach path) ns = .ok ms) : ms <+~ n.descend := by
  induction path generalizing ns with
  | nil =>
    have hself := reachAll_sublist (f := ([·])) (g := ([·])) (fun n ms h => by
      rw [reach_nil_eq_ok_iff.1 h, List.flatMap_cons, List.flatMap_nil, List.append_nil]) h
    rw [List.flatMap_singleton', List.flatMap_singleton'] at hself
    exact hself.subperm.trans hns
  | cons s rest ih =>
    obtain ⟨hs, hrest⟩ := List.forall_mem_cons.1 hp
    -- One segment is followed from all nodes before the next: what different nodes contain is
    -- different, and again among the nodes of the walk.
    obtain ⟨ks, hks, hms⟩ :=
      (reachAll_both_eq_ok_iff fun n ms => reach_cons_eq_ok_iff).1 h
    have hchildren := reachAll_sublist (f := ([·])) (fun n ms h => by
      rw [List.flatMap_singleton']
      exact Segment.reach_sublist hs h) hks
    rw [List.flatMap_singleton'] at hchildren
    exact ih hrest (hchildren.subperm.trans (Node.flatMap_children_subperm hns)) hms

theorem reach_subset (hp : ∀ s ∈ path, s.isDownward = true ∨ s = .descend)
    (h : Path.reach path n = .ok ms) : ∀ m ∈ ms, m ∈ n.descend := by
  induction path generalizing n ms with
  | nil =>
    rw [reach_nil_eq_ok_iff.1 h, List.forall_mem_singleton]
    exact Node.mem_descend_iff.2 (.inl rfl)
  | cons s rest ih =>
    obtain ⟨hs, hrest⟩ := List.forall_mem_cons.1 hp
    obtain ⟨ns, hns, hms⟩ := reach_cons_eq_ok_iff.1 h
    refine reachAll_subset (P := (· ∈ n.descend)) ?_ hms
    intro k hk ks hks m hm
    exact Node.mem_descend_trans (ih hrest hks m hm) (Segment.reach_subset hs hns hk)

end Path

namespace Selection

open Json (bindingText)

/-- A path from the root that goes down by names, by all members or elements, by an index, by a
slice that does not go backwards, by filters and by descents. It gives a list, unless a filter
sorts, asks for a container or compares with a pattern. All matches are values in the document.
Without a descent they are in document order, each once, and so are the texts that are bound. What
follows the last descent is followed from the nodes of a walk, node by node: each node gives a group
of matches in document order. After a first descent the nodes are in document order too, each once,
and no match comes twice; but the groups overlap in the document, so all matches together need not
be in its order. -/
theorem matches_follow_the_document_up_to_descents (document : Json) (expression text : String)
    (path : Path) (hrooted : rooted expression = .ok text)
    (hparse : Path.parse text = .ok (.root :: path))
    (hdown : ∀ s ∈ path, s.isDownward = true ∨ s = .descend) :
    (Path.isSure path = true → ∃ values, select document expression = .ok values) ∧
    ∀ values, select document expression = .ok values →
      values ⊆ document.nodes ∧
      (.descend ∉ path → values <+ document.nodes ∧
        (2 ≤ values.length → ∃ items, Bound.ofMatches values = .list items ∧
          items <+ document.nodes.map bindingText)) ∧
      ∀ before after, path = before ++ .descend :: after → .descend ∉ after →
        ∃ (starts : List Node) (groups : List (List Node)),
          values = groups.flatten.map Node.value ∧
          List.Forall₂ (fun start group => Path.reach after start = .ok group ∧
            group.map Node.value <+ start.value.nodes) starts groups ∧
          starts.map Node.value ⊆ document.nodes ∧
          (.descend ∉ before → starts.map Node.value <+ document.nodes ∧
            values <+~ document.nodes) := by
  have hnodes : (Node.whole document).descend.map Node.value = document.nodes :=
    Node.map_value_descend _
  have hplain : ∀ segments : List Segment, segments ⊆ path → .descend ∉ segments →
      ∀ s ∈ segments, s.isDownward = true := by
    intro segments hsub hnot s hs
    exact (hdown s (hsub hs)).resolve_right fun he => hnot (he ▸ hs)
  refine ⟨?_, ?_⟩
  · intro hsure
    obtain ⟨ms, hms⟩ := Path.exists_reach path hsure (Node.whole document)
    rw [← Path.reach_root] at hms
    exact ⟨_, (select_eq_ok_iff hrooted hparse).2 ⟨ms, hms, rfl⟩⟩
  · intro values hvalues
    obtain ⟨ms, hms, rfl⟩ := (select_eq_ok_iff hrooted hparse).1 hvalues
    rw [Path.reach_root] at hms
    refine ⟨?_, ?_, ?_⟩
    · rw [← hnodes]
      exact List.map_subset _ (Path.reach_subset hdown hms)
    · intro hnot
      have horder : ms.map Node.value <+ document.nodes := by
        rw [← hnodes]
        exact (Path.reach_sublist (hplain path (List.Subset.refl _) hnot) hms).map _
      refine ⟨horder, ?_⟩
      intro hmany
      exact ⟨_, Bound.ofMatches_of_two_le hmany, horder.map _⟩
    · rintro before after rfl hafter
      obtain ⟨ns, hns, hms⟩ := Path.reach_append_eq_ok_iff.1 hms
      obtain ⟨ks, hks, hms⟩ :=
        (reachAll_both_eq_ok_iff fun n ms => Path.reach_cons_eq_ok_iff).1 hms
      rw [reachAll_eq_flatMap fun n => by rw [Segment.reach]] at hks
      cases hks
      obtain ⟨groups, hgroups, rfl⟩ := reachAll_eq_ok_iff.1 hms
      have hdownAfter := hplain after (by simp) hafter
      refine ⟨ns.flatMap Node.descend, groups, rfl, ?_, ?_, ?_⟩
      · refine hgroups.imp ?_
        intro start group hgroup
        rw [← Node.map_value_descend]
        exact ⟨hgroup, (Path.reach_sublist hdownAfter hgroup).map _⟩
      · rw [← hnodes]
        apply List.map_subset
        intro start hstart
        obtain ⟨n, hn, hstart⟩ := List.mem_flatMap.1 hstart
        have hdownBefore := fun s hs => hdown s (List.mem_append_left _ hs)
        exact Node.mem_descend_trans hstart (Path.reach_subset hdownBefore hns n hn)
      · intro hbefore
        have hstarts := Path.flatMap_descend_sublist (hplain before (by simp) hbefore) hns
        obtain ⟨ls, hperm, hsub⟩ := Path.reachAll_subperm hdownAfter hstarts.subperm hms
        rw [← hnodes]
        exact ⟨hstarts.map _, ls.map Node.value, hperm.map _, hsub.map _⟩

/-- A filter after a name, and a descent whose two groups are out of order. -/
theorem matches_of_each_group_are_in_order :
    let document : Json :=
      .obj [("x", .obj [("a", .arr [.int 1, .null, .str "s"])]), ("a", .arr [.int 3])]
    let kept : List Json := [.int 1, .str "s"]
    let found : List Json := [.int 3, .int 1, .null, .str "s"]
    let chosen : Segment := .filter (.compare [.here] .unequal (.literal .null))
    Path.parse "$.x.a[?@ != null]" = .ok [.root, .members ["x"], .members ["a"], chosen] ∧
    (∃ values, select document "x.a[?@ != null]" = .ok values) ∧
    select document "x.a[?@ != null]" = .ok kept ∧ kept <+ document.nodes ∧
    (∃ items, Bound.ofMatches kept = .list items ∧ items <+ document.nodes.map bindingText) ∧
    Path.parse "$..a[*]" = .ok [.root, .descend, .members ["a"], .children] ∧
    select document "$..a[*]" = .ok found ∧ found <+~ document.nodes := by
  intro document kept found chosen
  have hkept : select document "x.a[?@ != null]" = .ok kept := by cbv
  have hfound : select document "$..a[*]" = .ok found := by cbv
  have hkeptPath : Path.parse "$.x.a[?@ != null]" =
      .ok [.root, .members ["x"], .members ["a"], chosen] := by cbv
  have hfoundPath : Path.parse "$..a[*]" = .ok [.root, .descend, .members ["a"], .children] := by
    cbv
  obtain ⟨hsure, hdown⟩ := matches_follow_the_document_up_to_descents document "x.a[?@ != null]"
    "$.x.a[?@ != null]" [.members ["x"], .members ["a"], chosen] (by cbv) hkeptPath
    (by simp [chosen, Segment.isDownward])
  obtain ⟨_, horder, _⟩ := hdown kept hkept
  obtain ⟨hnodes, htexts⟩ := horder (by simp [chosen])
  obtain ⟨_, hwalk⟩ := matches_follow_the_document_up_to_descents document "$..a[*]" "$..a[*]"
    [.descend, .members ["a"], .children] (by cbv) hfoundPath (by simp [Segment.isDownward])
  obtain ⟨_, _, hgroups⟩ := hwalk found hfound
  obtain ⟨_, _, _, _, _, honce⟩ := hgroups [] [.members ["a"], .children] rfl (by simp)
  exact ⟨hkeptPath, hsure (by cbv), hkept, hnodes, htexts (by decide), hfoundPath, hfound,
    (honce (by simp)).2⟩

/-- A member of the root comes before one that stands earlier in the document but deeper, and a node
that is reached from two containers comes twice. -/
theorem shallow_match_comes_before_an_earlier_one :
    let document : Json := .obj [("x", .obj [("a", .int 1)]), ("a", .int 2)]
    let nested : Json := .obj [("a", .obj [("a", .obj [("b", .int 3)])])]
    Path.parse "$..a" = .ok [.root, .descend, .members ["a"]] ∧
    select document "$..a" = .ok [.int 2, .int 1] ∧
    ¬ ([.int 2, .int 1] : List Json) <+ document.nodes ∧
    ([.int 1, .int 2] : List Json) <+ document.nodes ∧
    Path.parse "$..a..b" = .ok [.root, .descend, .members ["a"], .descend, .members ["b"]] ∧
    select nested "$..a..b" = .ok [.int 3, .int 3] ∧
    ¬ ([.int 3, .int 3] : List Json) <+ nested.nodes := by
  intro document nested
  exact ⟨by cbv, by cbv, by decide +kernel, by decide +kernel, by cbv, by cbv, by decide +kernel⟩

end Selection

end RequestChain
