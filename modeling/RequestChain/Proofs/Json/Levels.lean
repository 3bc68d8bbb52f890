import RequestChain.Json.Basic

namespace RequestChain.Json

def contents : Json → List Json
  | .arr items => items
  | .obj members => members.map Prod.snd
  | .null | .bool _ | .int _ | .float _ | .str _ => []

mutual

/-- The value and all values in it, each before what it contains, in the order of the document. -/
def nodes : Json → List Json
  | .arr items => .arr items :: nodesOfItems items
  | .obj members => .obj members :: nodesOfMembers members
  | .null => [.null]
  | .bool b => [.bool b]
  | .int n => [.int n]
  | .float x => [.float x]
  | .str s => [.str s]

def nodesOfItems : List Json → List Json
  | [] => []
  | v :: vs => nodes v ++ nodesOfItems vs

def nodesOfMembers : List (String × Json) → List Json
  | [] => []
  | (_, v) :: ms => nodes v ++ nodesOfMembers ms

end

variable {P : Json → Prop}

mutual

/-- What holds of a value if it holds of its contents holds of every value. -/
theorem byContents (step : ∀ v, (∀ u ∈ v.contents, P u) → P v) (v : Json) : P v := by
  match v with
  | .null | .bool _ | .int _ | .float _ | .str _ => exact step _ (by simp [contents])
  | .arr items => exact step _ (byContents_items step items)
  | .obj members => exact step _ (byContents_members step members)

theorem byContents_items (step : ∀ v, (∀ u ∈ v.contents, P u) → P v) (items : List Json) :
    ∀ v ∈ items, P v := by
  match items with
  | [] => simp
  | v :: vs => exact List.forall_mem_cons.2 ⟨byContents step v, byContents_items step vs⟩

theorem byContents_members (step : ∀ v, (∀ u ∈ v.contents, P u) → P v)
    (members : List (String × Json)) : ∀ v ∈ members.map Prod.snd, P v := by
  match members with
  | [] => simp
  | (_, v) :: ms =>
    exact List.forall_mem_cons.2 ⟨byContents step v, byContents_members step ms⟩

end

theorem nodesOfItems_eq_flatMap (items : List Json) : nodesOfItems items = items.flatMap nodes := by
  induction items with
  | nil => rfl
  | cons v vs ih => rw [nodesOfItems, ih, List.flatMap_cons]

theorem nodesOfMembers_eq_flatMap (members : List (String × Json)) :
    nodesOfMembers members = (members.map Prod.snd).flatMap nodes := by
  induction members with
  | nil => rfl
  | cons m ms ih => rw [nodesOfMembers, ih, List.map_cons, List.flatMap_cons]

/-- The values in a value are itself and then those in its contents, one after another. -/
theorem nodes_eq (v : Json) : v.nodes = v :: v.contents.flatMap nodes := by
  cases v with
  | arr items => rw [nodes, nodesOfItems_eq_flatMap, contents]
  | obj members => rw [nodes, nodesOfMembers_eq_flatMap, contents]
  | _ => rfl

theorem mem_nodes_iff {u v : Json} : u ∈ v.nodes ↔ u = v ∨ ∃ w ∈ v.contents, u ∈ w.nodes := by
  rw [nodes_eq, List.mem_cons, List.mem_flatMap]

theorem nodes_subset_of_mem {u v : Json} (h : u ∈ v.contents) : u.nodes ⊆ v.nodes := by
  intro w hw
  exact mem_nodes_iff.2 (.inr ⟨u, h, hw⟩)

theorem self_mem_nodes (v : Json) : v ∈ v.nodes := mem_nodes_iff.2 (.inl rfl)

/-- Two lists are mapped to one exactly if their items are, place by place. -/
theorem map_eq_map_iff {α β γ : Type} {f : α → γ} {g : β → γ} {xs : List α} {ys : List β} :
    xs.map f = ys.map g ↔ xs.length = ys.length ∧
      ∀ (i : Nat) x y, xs[i]? = some x → ys[i]? = some y → f x = g y := by
  constructor
  · intro h
    refine ⟨by simpa using congrArg List.length h, ?_⟩
    intro i x y hx hy
    have hi := congrArg (·[i]?) h
    simpa [hx, hy] using hi
  · rintro ⟨hlength, h⟩
    apply List.ext_getElem?
    intro i
    rw [List.getElem?_map, List.getElem?_map]
    cases hx : xs[i]? with
    | none =>
      have hy : ys[i]? = none :=
        List.getElem?_eq_none_iff.2 (hlength ▸ List.getElem?_eq_none_iff.1 hx)
      rw [hy]
      rfl
    | some x =>
      have hlt : i < ys.length := hlength ▸ (List.getElem?_eq_some_iff.1 hx).1
      have hy := List.getElem?_eq_getElem hlt
      rw [hy]
      exact congrArg some (h i x _ hx hy)

end RequestChain.Json
