import RequestChain.Proofs.Entries
import RequestChain.Proofs.Json.Levels
import RequestChain.Proofs.Template.Reach

namespace RequestChain

open Text (Occurs)
open Template (token)

theorem Template.render_of_not_occurs {template : String} {scopes : List Scope}
    (h : ∀ scope ∈ scopes, ∀ entry ∈ scope, ¬ Occurs (token entry.1) template) :
    render template scopes = template := by
  induction scopes with
  | nil => rfl
  | cons scope scopes ih =>
    have hfirst : substitute template scope = template := by
      apply substitute_of_unchanged
      intro entry he
      exact Text.replaceAll_of_not_occurs (h scope List.mem_cons_self entry he) entry.2
    rw [render, List.foldl_cons, hfirst]
    exact ih fun scope hs => h scope (List.mem_cons_of_mem _ hs)

namespace Json

/-- One value is the other with its texts rendered. -/
inductive Rendered (scopes : List Scope) : Json → Json → Prop where
  | null : Rendered scopes .null .null
  | bool (b : Bool) : Rendered scopes (.bool b) (.bool b)
  | int (n : Int) : Rendered scopes (.int n) (.int n)
  | float (x : Double) : Rendered scopes (.float x) (.float x)
  | str (s : String) : Rendered scopes (.str s) (.str (Template.render s scopes))
  | arr {items results : List Json} (length : results.length = items.length)
      (each : ∀ (i : Nat) v w, items[i]? = some v → results[i]? = some w → Rendered scopes v w) :
      Rendered scopes (.arr items) (.arr results)
  | obj {members results : List (String × Json)}
      (names : Entries.names results =
        (members.map fun m => Template.render m.1 scopes).eraseDups)
      (last : ∀ before m after w, members = before ++ m :: after →
        Template.render m.1 scopes ∉ after.map (fun m => Template.render m.1 scopes) →
          (Template.render m.1 scopes, w) ∈ results → Rendered scopes m.2 w) :
      Rendered scopes (.obj members) (.obj results)

def texts (v : Json) : List String :=
  v.nodes.flatMap fun
    | .str s => [s]
    | u => Entries.names u.members

variable {scopes : List Scope} {members : List (String × Json)}

theorem renderItems_eq_map (items : List Json) :
    renderItems scopes items = items.map (render scopes) := by
  induction items with
  | nil => rfl
  | cons v vs ih => rw [renderItems, ih, List.map_cons]

theorem renderMembers_eq_map (members : List (String × Json)) :
    renderMembers scopes members =
      members.map fun m => (Template.render m.1 scopes, m.2.render scopes) := by
  induction members with
  | nil => rfl
  | cons m ms ih => rw [renderMembers, ih, List.map_cons]

theorem names_renderMembers (members : List (String × Json)) :
    Entries.names (renderMembers scopes members) =
      members.map fun m => Template.render m.1 scopes := by
  rw [renderMembers_eq_map, Entries.names, List.map_map]
  rfl

/-- The last member of those whose names become one gives its value. -/
theorem get?_collect_renderMembers {before after : List (String × Json)} {m : String × Json}
    (hm : members = before ++ m :: after)
    (hlast : Template.render m.1 scopes ∉ after.map (fun m => Template.render m.1 scopes)) :
    Entries.get? (Template.render m.1 scopes) (Entries.collect (renderMembers scopes members)) =
      some (m.2.render scopes) := by
  subst hm
  rw [renderMembers_eq_map, List.map_append, List.map_cons]
  apply Entries.get?_collect_of_last
  rw [← names_renderMembers, renderMembers_eq_map] at hlast
  exact hlast

theorem exists_last_member {name : String}
    (h : name ∈ members.map fun m => Template.render m.1 scopes) :
    ∃ before m after, members = before ++ m :: after ∧ Template.render m.1 scopes = name ∧
      name ∉ after.map fun m => Template.render m.1 scopes := by
  induction members with
  | nil => simp at h
  | cons m ms ih =>
    by_cases hm : name ∈ ms.map fun m => Template.render m.1 scopes
    · obtain ⟨before, n, after, rfl, hname, hnot⟩ := ih hm
      exact ⟨m :: before, n, after, rfl, hname, hnot⟩
    · have hname : name = Template.render m.1 scopes := (List.mem_cons.1 h).resolve_right hm
      exact ⟨[], m, ms, rfl, hname.symm, hm⟩

/-- The relation says all: there is one value that it holds of. -/
theorem Rendered.eq_render {v w : Json} (h : Rendered scopes v w) : w = v.render scopes := by
  induction h with
  | null => rfl
  | bool b => rfl
  | int n => rfl
  | float x => rfl
  | str s => rfl
  | @arr items results hlength _ ih =>
    have hmap : results.map id = items.map (render scopes) :=
      map_eq_map_iff.2 ⟨hlength, fun i w v hw hv => ih i v w hv hw⟩
    rw [render, renderItems_eq_map, ← hmap, List.map_id]
  | @obj members results hnames _ ih =>
    rw [render]
    congr 1
    have hcollected : Entries.names results =
        Entries.names (Entries.collect (renderMembers scopes members)) := by
      rw [Entries.names_collect, names_renderMembers, hnames]
    have hn : (Entries.names results).Nodup := hcollected ▸ Entries.nodup_names_collect _
    apply Entries.eq_of_get?_eq hn hcollected
    intro name hname
    obtain ⟨w, hw⟩ := Option.isSome_iff_exists.1 (Entries.mem_names_iff.1 hname)
    rw [hnames, List.mem_eraseDups] at hname
    obtain ⟨before, m, after, hm, rfl, hlast⟩ := exists_last_member hname
    rw [hw, get?_collect_renderMembers hm hlast,
      ih before m after w hm hlast (Entries.mem_of_get? hw)]

theorem rendered_render (v : Json) : Rendered scopes v (v.render scopes) := by
  induction v using byContents with
  | step v ih =>
    cases v with
    | null => exact .null
    | bool b => exact .bool b
    | int n => exact .int n
    | float x => exact .float x
    | str s => exact .str s
    | arr items =>
      rw [render, renderItems_eq_map]
      refine .arr (List.length_map _) ?_
      intro i v w hv hw
      rw [List.getElem?_map, hv] at hw
      cases hw
      exact ih v (List.mem_of_getElem? hv)
    | obj members =>
      rw [render]
      refine .obj ?_ ?_
      · rw [Entries.names_collect, names_renderMembers]
      · intro before m after w hm hlast hw
        have hget := Entries.get?_of_mem (Entries.nodup_names_collect _) hw
        rw [get?_collect_renderMembers hm hlast] at hget
        cases hget
        have hmem : m ∈ members := hm ▸ List.mem_append_right _ List.mem_cons_self
        exact ih m.2 (List.mem_map_of_mem hmem)

/-- Members are merged only if their names become one. -/
theorem render_obj_of_nodup (h : (members.map fun m => Template.render m.1 scopes).Nodup) :
    (Json.obj members).render scopes =
      .obj (members.map fun m => (Template.render m.1 scopes, m.2.render scopes)) := by
  rw [← names_renderMembers] at h
  rw [render, Entries.collect_of_nodup h, renderMembers_eq_map]

theorem texts_subset_of_mem {u v : Json} (h : u ∈ v.contents) : u.texts ⊆ v.texts := by
  intro s hs
  obtain ⟨w, hw, hs⟩ := List.mem_flatMap.1 hs
  exact List.mem_flatMap.2 ⟨w, nodes_subset_of_mem h hw, hs⟩

/-- If rendering changes none of its texts, it does not change the value, unless an object repeats a
name. -/
theorem render_of_no_token (v : Json) (hn : ∀ u ∈ v.nodes, (Entries.names u.members).Nodup)
    (h : ∀ s ∈ v.texts, Template.render s scopes = s) : v.render scopes = v := by
  induction v using byContents with
  | step v ih =>
    have hcontents : ∀ u ∈ v.contents, u.render scopes = u := by
      intro u hu
      exact ih u hu (fun w hw => hn w (nodes_subset_of_mem hu hw))
        fun s hs => h s (texts_subset_of_mem hu hs)
    cases v with
    | null => rfl
    | bool b => rfl
    | int n => rfl
    | float x => rfl
    | str s => rw [render, h s (List.mem_flatMap.2 ⟨_, self_mem_nodes _, List.mem_cons_self⟩)]
    | arr items =>
      have hitems : items.map (render scopes) = items :=
        (List.map_congr_left hcontents).trans (List.map_id items)
      rw [render, renderItems_eq_map, hitems]
    | obj members =>
      have hmember : ∀ m ∈ members, (Template.render m.1 scopes, m.2.render scopes) = m := by
        intro m hm
        have hname : m.1 ∈ (Json.obj members).texts :=
          List.mem_flatMap.2 ⟨_, self_mem_nodes _, List.mem_map_of_mem hm⟩
        rw [h m.1 hname, hcontents m.2 (List.mem_map_of_mem hm)]
      have hnodup : (Entries.names members).Nodup := hn _ (self_mem_nodes _)
      have hmembers : renderMembers scopes members = members := by
        rw [renderMembers_eq_map]
        exact (List.map_congr_left hmember).trans (List.map_id members)
      rw [render, hmembers, Entries.collect_of_nodup hnodup]

/-- The rendered value is the one that is got level by level: each string is rendered; numbers,
truth values and null stay; an array keeps its length and its order; and an object has the different
rendered names in the order in which they first come, each with the rendered value of the last
member whose name becomes it. So members are merged only if their names become one. If no token of a
scope is in a string or a name of the value, the value stays as it is; its objects hold each name
once, as those of all that is read. -/
theorem rendering_walks_every_level (scopes : List Scope) (v : Json) :
    (∀ w, Rendered scopes v w ↔ w = v.render scopes) ∧
    (∀ members, v = .obj members →
      (members.map fun m => Template.render m.1 scopes).Nodup →
        v.render scopes =
          .obj (members.map fun m => (Template.render m.1 scopes, m.2.render scopes))) ∧
    ((∀ u ∈ v.nodes, (Entries.names u.members).Nodup) →
      (∀ s ∈ v.texts, ∀ scope ∈ scopes, ∀ entry ∈ scope, ¬ Occurs (token entry.1) s) →
        v.render scopes = v) := by
  refine ⟨?_, ?_, ?_⟩
  · intro w
    constructor
    · exact Rendered.eq_render
    · rintro rfl
      exact rendered_render v
  · rintro members rfl hn
    exact render_obj_of_nodup hn
  · intro hn habsent
    apply render_of_no_token v hn
    intro s hs
    exact Template.render_of_not_occurs (habsent s hs)

/-- Two names become one beneath an object whose own names stay apart, and a value of the scope
looks like a token. -/
theorem names_that_become_one_are_merged :
    let scopes : List Scope := [[("a", "x"), ("b", "x")], [("c", "\x7ba\x7d")]]
    let inner : List (String × Json) :=
      [("\x7ba\x7d", .int 1), ("k", .null), ("\x7bb\x7d", .str "\x7bc\x7d")]
    let members : List (String × Json) := [("\x7bc\x7d", .arr [.obj inner]), ("k", .bool true)]
    let merged : Json := .obj [("x", .str "\x7ba\x7d"), ("k", .null)]
    let plain : Json := .obj [("x", .arr [.str "\x7bd\x7d", .int 2]), ("\x7b", .null)]
    (Json.obj inner).render scopes = merged ∧ Rendered scopes (.obj inner) merged ∧
    (members.map fun m => Template.render m.1 scopes).Nodup ∧
    (Json.obj members).render scopes = .obj [("\x7ba\x7d", .arr [merged]), ("k", .bool true)] ∧
    (∀ u ∈ plain.nodes, (Entries.names u.members).Nodup) ∧
    (∀ s ∈ plain.texts, ∀ scope ∈ scopes, ∀ entry ∈ scope, ¬ Occurs (token entry.1) s) ∧
    plain.render scopes = plain := by
  intro scopes inner members merged plain
  have hmerged : (Json.obj inner).render scopes = merged := by decide +kernel
  have hitems : (Json.arr [.obj inner]).render scopes = .arr [merged] := by
    simp only [render, renderItems] at hmerged ⊢
    rw [hmerged]
  have hnodup : (members.map fun m => Template.render m.1 scopes).Nodup := by decide +kernel
  have hdiffer : ∀ u ∈ plain.nodes, (Entries.names u.members).Nodup := by decide +kernel
  have habsent : ∀ s ∈ plain.texts, ∀ scope ∈ scopes, ∀ entry ∈ scope,
      ¬ Occurs (token entry.1) s := by
    decide +kernel
  obtain ⟨hrendered, _, _⟩ := rendering_walks_every_level scopes (.obj inner)
  obtain ⟨_, happart, _⟩ := rendering_walks_every_level scopes (.obj members)
  obtain ⟨_, _, hstays⟩ := rendering_walks_every_level scopes plain
  refine ⟨hmerged, (hrendered merged).2 hmerged.symm, hnodup, ?_, hdiffer, habsent,
    hstays hdiffer habsent⟩
  rw [happart members rfl hnodup, List.map_cons, List.map_cons, hitems]
  decide +kernel

end Json
end RequestChain
