import Mathlib
import RequestChain.Proofs.Path.Points
import RequestChain.Proofs.Path.Sure
import RequestChain.Proofs.Text.Blank

namespace RequestChain

namespace Text

variable {s : String}

theorem strip_dollar_append (h : strip s = s) : strip ("$" ++ s) = "$" ++ s := by
  have hlist : ("$" ++ s).toList = '$' :: s.toList := String.toList_append
  have htrimmed : IsTrimmed isBlank ('$' :: s.toList) := by
    constructor
    · intro c hc
      cases hc
      decide
    · intro c hc
      rw [List.getLast?_cons] at hc
      cases hlast : s.toList.getLast? with
      | none =>
        rw [hlast] at hc
        cases hc
        decide
      | some d =>
        rw [hlast] at hc
        cases hc
        exact (isTrimmed_of_strip h).2 d hlast
  rw [strip, hlist, trim_of_isTrimmed htrimmed, ← hlist, String.ofList_toList]

end Text

namespace Selection

variable {expression : String} {cs : List Char} {path : Path}

theorem rooted_dollar_append (h : Text.strip expression = expression) :
    rooted ("$" ++ expression) = .ok ("$" ++ expression) := by
  have hlist : ("$" ++ expression).toList = '$' :: expression.toList := String.toList_append
  simp only [rooted, Text.strip_dollar_append h, hlist]

/-- Before a bracket the sign alone is put. -/
theorem rooted_of_bracket (h : Text.strip expression = expression)
    (hlist : expression.toList = '[' :: cs) : rooted expression = .ok ("$" ++ expression) := by
  simp only [rooted, h, hlist]

/-- Before a point the sign and one more point are put, as before a name. -/
theorem rooted_of_dot (h : Text.strip expression = expression)
    (hlist : expression.toList = '.' :: cs) : rooted expression = .ok ("$." ++ expression) := by
  simp only [rooted, h, hlist]
  rfl

variable {document : Json} {rest : Path} {values : List Json}

/-- What the descent adds comes from below the root, behind what the path itself selects. -/
theorem select_descend_eq_ok_iff {text other : String} (hrooted : rooted text = .ok text)
    (hparse : Path.parse text = .ok (.root :: rest)) (hother : rooted expression = .ok other)
    (hdescend : Path.parse other = .ok (.root :: .descend :: rest))
    (hvalues : select document text = .ok values) (more : List Json) :
    select document expression = .ok more ↔
      ∃ ms, reachAll (Path.reach rest) ((Node.whole document).children.flatMap Node.descend) =
        .ok ms ∧ more = values ++ ms.map Node.value := by
  obtain ⟨ns, hns, rfl⟩ := (select_eq_ok_iff hrooted hparse).1 hvalues
  rw [Path.reach_root] at hns
  rw [select_eq_ok_iff hother hdescend, Path.reach_root]
  simp only [Path.reach_descend_eq_ok_iff, hns, Except.ok.injEq]
  constructor
  · rintro ⟨_, ⟨_, ms, rfl, hms, rfl⟩, rfl⟩
    exact ⟨ms, hms, List.map_append⟩
  · rintro ⟨ms, hms, rfl⟩
    exact ⟨ns ++ ms, ⟨ns, ms, rfl, hms, rfl⟩, List.map_append.symm⟩

/-- An expression without blanks around it that behind the sign is a path. If it starts with a
bracket, it selects what it selects behind the sign, and fails where that fails. If it starts with
two points, it is no path at all. If it starts with one, it is the path with a descent put in after
the root: it selects all that the path itself selects, and after it what the path selects below the
root, so that the two agree exactly if that is nothing. -/
theorem a_leading_point_becomes_a_descent (expression : String) (path : Path)
    (htrim : Text.strip expression = expression) (hne : expression ≠ "")
    (hparse : Path.parse ("$" ++ expression) = .ok path) :
    (∃ cs, expression.toList = '[' :: cs ∧
      ∀ document, select document expression = select document ("$" ++ expression)) ∨
    (∃ cs, expression.toList = '.' :: '.' :: cs ∧
      ∀ document, select document expression = .error (.path .unexpected)) ∨
    ∃ cs rest, expression.toList = '.' :: cs ∧ cs.head? ≠ some '.' ∧ path = .root :: rest ∧
      Path.parse ("$." ++ expression) = .ok (.root :: .descend :: rest) ∧
      ∀ document values, select document ("$" ++ expression) = .ok values →
        (Path.isSure rest = true → ∃ more, select document expression = .ok more) ∧
        (∀ more, select document expression = .ok more → values <+: more) ∧
        (select document expression = .ok values ↔
          ∀ n ∈ (Node.whole document).children.flatMap Node.descend,
            Path.reach rest n = .ok []) := by
  obtain ⟨cs, hpoint | hbracket⟩ :=
    Path.point_or_bracket (Text.isTrimmed_of_strip htrim).1 hne hparse
  · right
    -- Of three points the first two are read as a descent, and the third as no part of it.
    by_cases hcs : cs.head? = some '.'
    · left
      obtain ⟨ds, rfl⟩ := List.head?_eq_some_iff.1 hcs
      refine ⟨ds, hpoint, ?_⟩
      intro document
      simp only [select, rooted_of_dot htrim hpoint, bind, Except.bind,
        Path.parse_point_append_of_two hpoint hparse]
    · right
      obtain ⟨rest, rfl, hdescend⟩ := Path.parse_point_append hpoint hcs hparse
      refine ⟨cs, rest, hpoint, hcs, rfl, hdescend, ?_⟩
      intro document values hvalues
      have hselect := select_descend_eq_ok_iff (rooted_dollar_append htrim) hparse
        (rooted_of_dot htrim hpoint) hdescend hvalues
      refine ⟨?_, ?_, ?_⟩
      · intro hsure
        obtain ⟨ms, hms⟩ := exists_reachAll (Path.exists_reach rest hsure) _
        exact ⟨_, (hselect _).2 ⟨ms, hms, rfl⟩⟩
      · intro more hmore
        obtain ⟨ms, _, rfl⟩ := (hselect more).1 hmore
        exact List.prefix_append _ _
      · rw [hselect values, ← reachAll_eq_ok_nil_iff]
        constructor
        · rintro ⟨ms, hms, he⟩
          have hnil : ms = [] := List.map_eq_nil_iff.1 (List.self_eq_append_right.1 he)
          rwa [hnil] at hms
        · intro hnone
          exact ⟨[], hnone, (List.append_nil values).symm⟩
  · left
    refine ⟨cs, hbracket, select_congr ?_⟩
    rw [rooted_of_bracket htrim hbracket, rooted_dollar_append htrim]

theorem bare_name_behind_a_point_selects_more :
    let document : Json := .obj [("id", .int 1), ("x", .obj [("id", .int 2)])]
    Path.parse "$.id" = .ok [.root, .members ["id"]] ∧
    select document "$.id" = .ok [.int 1] ∧
    ∃ more, select document ".id" = .ok more ∧ [.int 1] <+: more := by
  intro document
  have hparse : Path.parse "$.id" = .ok [.root, .members ["id"]] := by cbv
  have hvalues : select document "$.id" = .ok [.int 1] := by cbv
  refine ⟨hparse, hvalues, ?_⟩
  obtain ⟨_, hlist, _⟩ | ⟨_, hlist, _⟩ | ⟨_, rest, _, _, hrest, _, hselect⟩ :=
    a_leading_point_becomes_a_descent ".id" [.root, .members ["id"]] (by decide) (by decide) hparse
  · cases hlist
  · cases hlist
  · cases hrest
    obtain ⟨hsure, hfirst, _⟩ := hselect document [.int 1] hvalues
    obtain ⟨more, hmore⟩ := hsure (by cbv)
    exact ⟨more, hmore, hfirst more hmore⟩

/-- The sign is left out of a path that starts with a point, and of one that starts with two. -/
theorem sign_left_out_before_a_point :
    let document : Json := .obj [("id", .int 1), ("x", .obj [("id", .int 2)])]
    Text.strip ".id" = ".id" ∧ Text.strip "..id" = "..id" ∧
    Path.parse "$.id" = .ok [.root, .members ["id"]] ∧
    select document "$.id" = .ok [.int 1] ∧ select document ".id" = .ok [.int 1, .int 2] ∧
    Path.parse "$..id" = .ok [.root, .descend, .members ["id"]] ∧
    select document "$..id" = .ok [.int 1, .int 2] ∧
    select document "..id" = .error (.path .unexpected) := by
  intro document
  exact ⟨by decide, by decide, by cbv, by cbv, by cbv, by cbv, by cbv, by cbv⟩

end Selection
end RequestChain
