import Mathlib
import RequestChain.Proofs.Json.Proper
import RequestChain.Proofs.Variable.Place
import RequestChain.Proofs.Variable.WireForm
import RequestChain.Report
import RequestChain.Selection

namespace RequestChain

namespace Report

def isFloatFree (scope : Scope) : Bool := scope.all fun e => (Json.read? e.2).all Json.isFloatFree

/-- The body without a template is read as an object of these members, whatever lines stand before
it. -/
def ReadsAs (scope : Scope) (members : List (String × Json)) : Prop :=
  ∀ r : Report, ∃ text, (r.respond .null scope).lines = (r.trace "[RESPONSE]").lines ++ [text] ∧
    Json.read? text = some (.obj members)

theorem memberValue_of_read? {wire : String} {v : Json} (h : Json.read? wire = some v)
    (hn : v ≠ .null) : memberValue wire = v := by
  unfold memberValue
  rw [h]
  cases v with
  | null => exact absurd rfl hn
  | _ => rfl

theorem memberValue_of_not_read? {wire : String} (h : ∀ v, Json.read? wire = some v → v = .null) :
    memberValue wire = .str wire := by
  unfold memberValue
  cases hr : Json.read? wire with
  | none => rfl
  | some v =>
    rw [h v hr]

/-- A member of the body reads back if the text of its variable is no value with doubles. -/
theorem isExact_memberValue {wire : String}
    (h : (Json.read? wire).all Json.isFloatFree = true) : (memberValue wire).isExact = true := by
  cases hr : Json.read? wire with
  | none =>
    rw [memberValue_of_not_read? (by simp [hr])]
    rfl
  | some v =>
    rw [hr, Option.all_some] at h
    by_cases hn : v = .null
    · rw [memberValue_of_not_read? (by simp [hr, hn])]
      rfl
    · rw [memberValue_of_read? hr hn]
      exact Json.isExact_of_isProper v (Json.isProper_of_read? hr) h

/-- The body is read as the object of all variables, in the order of the scope. -/
theorem readsAs_of_isFloatFree {scope : Scope} (hn : (Entries.names scope).Nodup)
    (hf : isFloatFree scope = true) :
    ReadsAs scope (scope.map fun e => (e.1, memberValue e.2)) := by
  intro r
  refine ⟨variablesBody scope, rfl, ?_⟩
  refine Json.read?_write Json.pretty_isReadable ?_
  simp only [Json.isExact, Bool.and_eq_true, decide_eq_true_eq]
  refine ⟨?_, Json.membersAreExact_iff.2 ?_⟩
  · rw [Entries.names_map]
    exact hn
  · intro m hm
    obtain ⟨e, he, rfl⟩ := List.mem_map.1 hm
    exact isExact_memberValue (List.all_eq_true.1 hf e he)

theorem read?_of_document {text : String} {v : Json} (h : Selection.document text = .ok v) :
    Json.read? text = some v := by
  unfold Selection.document at h
  split at h
  · rename_i u hu
    cases h
    rw [Json.read?, hu]
    rfl
  · cases h

/-- A value that a reader gave is read back from the text by which it is bound. -/
theorem read?_bindingText {text : String} {v : Json} (h : Json.read? text = some v)
    (hf : v.isFloatFree = true) (hs : ∀ s, v ≠ .str s) : Json.read? v.bindingText = some v := by
  have hspaced := Json.read?_write_of_read? Json.spaced_isReadable h hf
  have hpretty := Json.read?_write_of_read? Json.pretty_isReadable h hf
  cases v with
  | str s => exact absurd rfl (hs s)
  | arr items => exact hpretty
  | obj members => exact hpretty
  | null => exact hspaced
  | bool b => exact hspaced
  | int n => exact hspaced
  | float x => exact hspaced

theorem areFloatFree_map_str (items : List String) :
    (Json.arr (items.map .str)).isFloatFree = true := by
  simp only [Json.isFloatFree, Json.everywhere, Bool.and_eq_true]
  refine ⟨rfl, Json.everywhereInItems_iff.2 ?_⟩
  intro v hv
  obtain ⟨item, _, rfl⟩ := List.mem_map.1 hv
  rfl

end Report

namespace Store

open Report

variable {s : Store} {name : String} {value : Bound}

theorem nodup_names_scope (s : Store) : (Entries.names s.scope).Nodup := by
  rw [names_scope]
  exact s.nodup

/-- Binding keeps the condition if the other variables and the new value meet it. -/
theorem isFloatFree_scope_bind (hs : ∀ e ∈ s.scope, e.1 ≠ name →
      (Json.read? e.2).all Json.isFloatFree = true)
    (hv : (Json.read? value.wire).all Json.isFloatFree = true) :
    isFloatFree (s.bind name value).scope = true := by
  refine List.all_eq_true.2 ?_
  intro e he
  rw [scope_bind] at he
  rcases Entries.mem_put s.nodup_names_scope he with rfl | ⟨hm, hne⟩
  · exact hv
  · exact hs e hm hne

/-- The member of a variable is what its text is read as. -/
theorem get?_members (s : Store) (name : String) :
    Entries.get? name (s.scope.map fun e => (e.1, memberValue e.2)) =
      (s.get? name).map fun value => memberValue value.wire := by
  rw [Entries.get?_map, ← map_wire_get?, Option.map_map]
  rfl

/-- A variable that is bound among others without doubles is seen in the body as what its text is
read as. -/
theorem readsAs_bind (hs : ∀ e ∈ s.scope, e.1 ≠ name →
      (Json.read? e.2).all Json.isFloatFree = true)
    (hv : (Json.read? value.wire).all Json.isFloatFree = true) :
    ∃ members, ReadsAs (s.bind name value).scope members ∧
      Entries.get? name members = some (memberValue value.wire) := by
  refine ⟨_, readsAs_of_isFloatFree (nodup_names_scope _) (isFloatFree_scope_bind hs hv), ?_⟩
  rw [get?_members, get?_bind, if_pos rfl]
  rfl

end Store

namespace Report

/-- When no variable's text is that of a value with doubles, the body without a template is read as
an object: its names are those of the variables in the order of their binding, and the member of a
variable is the value that its text is read as, or the text itself if that is not read or is null.
So a value that was read from a reply, is neither a string nor null and holds no double comes out as
it went in, and two matched values or more come out as the array of their texts. -/
theorem body_is_read_as_the_variables :
    (∀ s : Store, isFloatFree s.scope = true → ∃ members, ReadsAs s.scope members ∧
      Entries.names members = s.names ∧
      ∀ name value, s.get? name = some value →
        (∀ v, Json.read? value.wire = some v → v ≠ .null →
          Entries.get? name members = some v) ∧
        ((∀ v, Json.read? value.wire = some v → v = .null) →
          Entries.get? name members = some (.str value.wire))) ∧
    ∀ (s : Store) (name : String),
      (∀ e ∈ s.scope, e.1 ≠ name → (Json.read? e.2).all Json.isFloatFree = true) →
      (∀ text v, Selection.document text = .ok v → v.isFloatFree = true → v ≠ .null →
        (∀ t, v ≠ .str t) →
        ∃ members, ReadsAs (s.bind name (Bound.ofMatches [v])).scope members ∧
          Entries.get? name members = some v) ∧
      ∀ values : List Json, 2 ≤ values.length →
        ∃ members, ReadsAs (s.bind name (Bound.ofMatches values)).scope members ∧
          Entries.get? name members =
            some (.arr (values.map fun v => .str v.bindingText)) := by
  refine ⟨?_, ?_⟩
  · intro s hf
    refine ⟨_, readsAs_of_isFloatFree s.nodup_names_scope hf, ?_, ?_⟩
    · rw [Entries.names_map, s.names_scope]
    · intro name value hv
      rw [Store.get?_members, hv, Option.map_some]
      refine ⟨fun v hr hn => ?_, fun hnone => ?_⟩
      · rw [memberValue_of_read? hr hn]
      · rw [memberValue_of_not_read? hnone]
  · intro s name hs
    refine ⟨?_, ?_⟩
    · intro text v hread hf hnull hstr
      have hread? : Json.read? text = some v := read?_of_document hread
      have hwire : Json.read? (Bound.ofMatches [v]).wire = some v :=
        read?_bindingText hread? hf hstr
      obtain ⟨members, hm, hg⟩ := Store.readsAs_bind hs (by rw [hwire]; exact hf)
      refine ⟨members, hm, ?_⟩
      rw [hg, memberValue_of_read? hwire hnull]
    · intro values hlen
      have hbound := Bound.ofMatches_of_two_le hlen
      have hwire : Json.read? (Bound.ofMatches values).wire =
          some (.arr (values.map fun v => .str v.bindingText)) := by
        rw [hbound, Bound.wire, Bound.read?_encodeList, List.map_map]
        rfl
      have hfree := areFloatFree_map_str (values.map Json.bindingText)
      rw [List.map_map] at hfree
      obtain ⟨members, hm, hg⟩ := Store.readsAs_bind hs (by rw [hwire]; exact hfree)
      refine ⟨members, hm, ?_⟩
      rw [hg, memberValue_of_read? hwire (by simp)]

/-- The text of null stays a text, a nested value comes out with its nulls and its strings, and of
two matches each comes out as its text. -/
theorem texts_and_nested_values_come_out :
    let s := (Store.empty.bind "a" (.text "[1, \x7b\"k\": null\x7d]")).bind "b" (.text "null")
    let v := Json.obj [("k", .arr [.int 7, .null, .str "null"])]
    isFloatFree s.scope = true ∧
    Selection.document "\x7b\"k\": [7, null, \"null\"]\x7d" = .ok v ∧
    (∃ members, ReadsAs s.scope members ∧ Entries.names members = ["a", "b"] ∧
      Entries.get? "b" members = some (.str "null")) ∧
    (∃ members, ReadsAs (s.bind "b" (Bound.ofMatches [v])).scope members ∧
      Entries.get? "b" members = some v) ∧
    ∃ members, ReadsAs (s.bind "c" (Bound.ofMatches [.null, .str "[]"])).scope members ∧
      Entries.get? "c" members = some (.arr [.str "null", .str "[]"]) := by
  intro s v
  have hfree : isFloatFree s.scope = true := by decide +kernel
  have hread : Selection.document "\x7b\"k\": [7, null, \"null\"]\x7d" = .ok v := by cbv
  have hnull : Json.read? "null" = some .null := by decide +kernel
  have hall := List.all_eq_true.1 hfree
  obtain ⟨hbody, hbound⟩ := body_is_read_as_the_variables
  obtain ⟨members, hm, hnames, hmembers⟩ := hbody s hfree
  obtain ⟨_, htext⟩ := hmembers "b" (.text "null") (by decide)
  obtain ⟨hone, _⟩ := hbound s "b" fun e he _ => hall e he
  obtain ⟨_, hmany⟩ := hbound s "c" fun e he _ => hall e he
  refine ⟨hfree, hread, ⟨members, hm, hnames, htext ?_⟩, ?_, hmany [.null, .str "[]"] (by decide)⟩
  · intro w hw
    exact (Option.some.inj (hnull.symm.trans hw)).symm
  · exact hone _ v hread (by decide) (by simp [v]) (by simp [v])

end Report
end RequestChain
