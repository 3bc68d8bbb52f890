import RequestChain.Variable.Store

namespace RequestChain.Bound

theorem merge_of_not_iterating (existing : Option Bound) (returned : Bound) :
    merge existing returned false = returned := by
  rcases existing with - | (_ | _) <;> rfl

/-- A list of several matches takes the place of what was there, also in an iteration. -/
theorem merge_list (existing : Option Bound) (items : List String) (iterating : Bool) :
    merge existing (.list items) iterating = .list items := by
  rcases existing with - | (_ | _) <;> cases iterating <;> rfl

/-- A single text that an iterating step returns comes after the elements of what is there. -/
theorem merge_some_text (v : Bound) (s : String) :
    merge (some v) (.text s) true = .list (v.elements ++ [s]) := by
  cases v with
  | list items => rfl
  | text old =>
    simp only [merge, elements, decodeList]
    cases arrayItems? old <;> rfl

/-- Two matches or more are bound as the list of their texts. -/
theorem ofMatches_of_two_le {values : List Json} (h : 2 ≤ values.length) :
    ofMatches values = .list (values.map Json.bindingText) := by
  match values with
  | [] | [_] => simp at h
  | _ :: _ :: _ => rfl

/-- What a variable holds after an iterating step has returned lists of matches for it. -/
def mergeAll (existing : Option Bound) (returned : List (List Json)) : Option Bound :=
  returned.foldl (fun value found => some (merge value (ofMatches found) true)) existing

/-- Single matches come after the elements that the variable had. -/
theorem mergeAll_some_singles (v : Bound) {values : List Json} (h : values ≠ []) :
    mergeAll (some v) (values.map fun m => [m]) =
      some (.list (v.elements ++ values.map Json.bindingText)) := by
  induction values generalizing v with
  | nil => exact absurd rfl h
  | cons first rest ih =>
    have hstep : mergeAll (some v) ((first :: rest).map fun m => [m]) =
        mergeAll (some (.list (v.elements ++ [first.bindingText]))) (rest.map fun m => [m]) := by
      rw [← merge_some_text]
      rfl
    rw [hstep]
    cases rest with
    | nil => rfl
    | cons second rest =>
      rw [ih _ (List.cons_ne_nil _ _), elements, List.append_assoc, List.map_cons,
        List.map_cons, List.map_cons, List.singleton_append]

/-- The first of several single texts stands alone until the second comes; from then on its
elements are the first items of a list. -/
theorem mergeAll_none_singles (first : Json) {rest : List Json} (h : rest ≠ []) :
    mergeAll none ((first :: rest).map fun m => [m]) =
      some (.list ((Bound.text first.bindingText).elements ++ rest.map Json.bindingText)) :=
  mergeAll_some_singles (.text first.bindingText) h

theorem mergeAll_append (existing : Option Bound) (before after : List (List Json)) :
    mergeAll existing (before ++ after) = mergeAll (mergeAll existing before) after :=
  List.foldl_append

/-- Several matches take the place of all that was there. -/
theorem mergeAll_cons_of_two_le (existing : Option Bound) {many : List Json}
    (h : 2 ≤ many.length) (rest : List (List Json)) :
    mergeAll existing (many :: rest) =
      mergeAll (some (.list (many.map Json.bindingText))) rest := by
  rw [mergeAll, List.foldl_cons, ofMatches_of_two_le h, merge_list]
  rfl

theorem singles_eq_map_flatten {returned : List (List Json)}
    (h : ∀ found ∈ returned, found.length = 1) :
    returned = returned.flatten.map fun m => [m] := by
  induction returned with
  | nil => rfl
  | cons found rest ih =>
    obtain ⟨m, rfl⟩ := List.length_eq_one_iff.1 (h found List.mem_cons_self)
    have hrest := ih fun other ho => h other (List.mem_cons_of_mem _ ho)
    rw [List.flatten_cons, List.singleton_append, List.map_cons, ← hrest]

theorem mergeAll_of_singles (v : Bound) {returned : List (List Json)} (hne : returned ≠ [])
    (h : ∀ found ∈ returned, found.length = 1) :
    mergeAll (some v) returned =
      some (.list (v.elements ++ returned.flatten.map Json.bindingText)) := by
  have hmap := singles_eq_map_flatten h
  have hflat : returned.flatten ≠ [] := by
    intro hnil
    rw [hnil] at hmap
    exact hne hmap
  rw [hmap, mergeAll_some_singles v hflat, ← hmap]

/-- Either each list holds one match, or there is a last one that holds more. -/
theorem singles_or_last_many {returned : List (List Json)}
    (h : ∀ found ∈ returned, found ≠ []) :
    (∀ found ∈ returned, found.length = 1) ∨
      ∃ before many singles, returned = before ++ many :: singles ∧ 2 ≤ many.length ∧
        ∀ found ∈ singles, found.length = 1 := by
  induction returned with
  | nil => exact .inl (by simp)
  | cons first rest ih =>
    have hfirst := List.length_pos_iff.2 (h first List.mem_cons_self)
    rcases ih fun found hf => h found (List.mem_cons_of_mem _ hf) with
      hsingles | ⟨before, many, singles, rfl, hmany, hsingles⟩
    · by_cases hone : first.length = 1
      · exact .inl (List.forall_mem_cons.2 ⟨hone, hsingles⟩)
      · exact .inr ⟨[], first, rest, rfl, by omega, hsingles⟩
    · exact .inr ⟨first :: before, many, singles, rfl, hmany, hsingles⟩

/-- An iterating step returns lists of matches for a bound variable, one list or more and none of
them empty. A single text is merged in one way into any value: it comes after the elements. So if
each list holds one match, the variable ends up with the elements it had, and after them the texts
of the matches in their order. Otherwise there is a last list of two matches or more, and the
variable ends up with the texts of that list and after them those of the single matches that were
returned later. -/
theorem last_many_and_later_singles_are_kept (v : Bound) (returned : List (List Json))
    (hsome : returned ≠ []) (hmatches : ∀ found ∈ returned, found ≠ []) :
    (∀ s, merge (some v) (.text s) true = .list (v.elements ++ [s])) ∧
    ((∀ found ∈ returned, found.length = 1) →
      mergeAll (some v) returned =
        some (.list (v.elements ++ returned.flatten.map Json.bindingText))) ∧
    (∀ before many singles, returned = before ++ many :: singles → 2 ≤ many.length →
      (∀ found ∈ singles, found.length = 1) →
        mergeAll (some v) returned =
          some (.list (many.map Json.bindingText ++ singles.flatten.map Json.bindingText))) ∧
    ((∀ found ∈ returned, found.length = 1) ∨
      ∃ before many singles, returned = before ++ many :: singles ∧ 2 ≤ many.length ∧
        ∀ found ∈ singles, found.length = 1) := by
  refine ⟨merge_some_text v, mergeAll_of_singles v hsome, ?_, singles_or_last_many hmatches⟩
  rintro before many singles rfl hmany hsingles
  rw [mergeAll_append, mergeAll_cons_of_two_le _ hmany]
  by_cases hnil : singles = []
  · subst hnil
    simp [mergeAll]
  · rw [mergeAll_of_singles _ hnil hsingles, elements]

/-- Three lists for a text that is an array, all of them with one match; and three for a text that
is none, the second of them with two matches. -/
theorem array_text_is_continued_and_other_text_is_lost :
    let singles : List (List Json) := [[.str "x"], [.null], [.str "[]"]]
    let mixed : List (List Json) := [[.str "x"], [.int 1, .int 2], [.obj []]]
    (∀ found ∈ singles, found.length = 1) ∧
    mergeAll (some (.text "[1, \"a\"]")) singles =
      some (.list ["1", "a", "x", "null", "[]"]) ∧
    mixed = [[.str "x"]] ++ [.int 1, .int 2] :: [[.obj []]] ∧
    mergeAll (some (.text "[1")) mixed = some (.list ["1", "2", "\x7b\x7d"]) := by
  intro singles mixed
  have hsingles : ∀ found ∈ singles, found.length = 1 := by decide
  have helements : (Bound.text "[1, \"a\"]").elements = ["1", "a"] := by decide +kernel
  obtain ⟨_, hall, _⟩ :=
    last_many_and_later_singles_are_kept (.text "[1, \"a\"]") singles (by decide) (by decide)
  obtain ⟨_, _, hlast, _⟩ :=
    last_many_and_later_singles_are_kept (.text "[1") mixed (by decide) (by decide)
  refine ⟨hsingles, ?_, rfl, ?_⟩
  · rw [hall hsingles, helements]
    decide +kernel
  · rw [hlast [[.str "x"]] [.int 1, .int 2] [[.obj []]] rfl (by decide) (by decide)]
    decide +kernel

end RequestChain.Bound
