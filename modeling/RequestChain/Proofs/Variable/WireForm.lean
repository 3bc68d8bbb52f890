import RequestChain.Proofs.Json.RoundTrip
import RequestChain.Proofs.Variable.Merge

namespace RequestChain

namespace Bound

theorem areExact_map_str (items : List String) : Json.areExact (items.map .str) = true := by
  induction items with
  | nil => rfl
  | cons item items ih => simpa [Json.areExact, Json.isExact] using ih

theorem read?_encodeList (items : List String) :
    Json.read? (encodeList items) = some (.arr (items.map .str)) :=
  Json.read?_write Json.spaced_isReadable (areExact_map_str items)

theorem arrayItems?_encodeList (items : List String) :
    arrayItems? (encodeList items) = some items := by
  have hs : Json.bindingText ∘ Json.str = id := rfl
  rw [arrayItems?, read?_encodeList]
  simp only [List.map_map, hs, List.map_id]

/-- A list is read back from its wire text, whatever its items are. -/
theorem decodeList_encodeList (items : List String) : decodeList (encodeList items) = items := by
  rw [decodeList, arrayItems?_encodeList, Option.getD_some]

/-- An iteration goes through the same texts, whether a value is bound or the text of it. -/
theorem elements_text_wire (v : Bound) : (Bound.text v.wire).elements = v.elements := by
  cases v with
  | text s => rfl
  | list items => exact decodeList_encodeList items

theorem isArray_encodeList (items : List String) : isArray (encodeList items) = true := by
  rw [isArray, arrayItems?_encodeList, Option.isSome_some]

/-- The wire text decides what an iteration goes through. -/
theorem elements_eq_of_wire_eq {v w : Bound} (h : v.wire = w.wire) : v.elements = w.elements := by
  rw [← elements_text_wire v, h, elements_text_wire]

/-- What a merge makes of a value depends on nothing but its wire text. -/
theorem merge_eq_of_wire_eq {existing existing' : Option Bound}
    (h : existing.map wire = existing'.map wire) (returned : Bound) (iterating : Bool) :
    merge existing returned iterating = merge existing' returned iterating := by
  cases existing with
  | none =>
    obtain rfl := Option.map_eq_none_iff.1 h.symm
    rfl
  | some v =>
    obtain ⟨w, rfl, hw⟩ := Option.map_eq_some_iff.1 h.symm
    cases iterating with
    | false => rw [merge_of_not_iterating, merge_of_not_iterating]
    | true =>
      cases returned with
      | list items => rw [merge_list, merge_list]
      | text s => rw [merge_some_text, merge_some_text, elements_eq_of_wire_eq hw.symm]

/-- A list is read back from its text, whatever characters its items hold and however many there
are, and the text is that of an array. So an iteration goes through the same texts whether it is
over a value or over the text of it, and no two lists have the same text. -/
theorem list_is_read_back_from_its_text :
    (∀ items, decodeList (encodeList items) = items ∧ isArray (encodeList items) = true) ∧
    (∀ v : Bound, (Bound.text v.wire).elements = v.elements) ∧
    Function.Injective encodeList :=
  ⟨fun items => ⟨decodeList_encodeList items, isArray_encodeList items⟩, elements_text_wire,
    Function.LeftInverse.injective decodeList_encodeList⟩

end Bound

namespace Store

variable {s t : Store}

theorem map_wire_get? (s : Store) (name : String) :
    (s.get? name).map Bound.wire = Entries.get? name s.scope :=
  (Entries.get?_map Bound.wire name s.entries).symm

theorem scope_bind (s : Store) (name : String) (value : Bound) :
    (s.bind name value).scope = Entries.put name value.wire s.scope :=
  (Entries.put_map Bound.wire name value s.entries).symm

theorem get?_wire_eq (h : s.scope = t.scope) (name : String) :
    (s.get? name).map Bound.wire = (t.get? name).map Bound.wire := by
  rw [map_wire_get?, map_wire_get?, h]

theorem scope_bind_eq {v w : Bound} (h : s.scope = t.scope) (hw : v.wire = w.wire)
    (name : String) : (s.bind name v).scope = (t.bind name w).scope := by
  rw [scope_bind, scope_bind, h, hw]

end Store
end RequestChain
