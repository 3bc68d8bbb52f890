import RequestChain.Proofs.Template.Pieces

namespace RequestChain.Template

open Text

/-- No value is a part of its own name or of a name before it. -/
def ValuesApart (scope : Scope) : Prop :=
  ∀ before entry after, scope = before ++ entry :: after →
    ∀ e ∈ before ++ [entry], ¬ Occurs entry.2 e.1

variable {name value template : String} {scope : Scope}

theorem count_replaceAll_le (hv : '{' ∉ value.toList) (name template : String) :
    (replaceAll (token name) value template).toList.count '{' ≤ template.toList.count '{' := by
  rw [replaceAll, String.toList_ofList, toList_token]
  exact count_replaceFrom_le hv 0 _

/-- Replacing a token that occurs by a value without braces leaves fewer opening braces. -/
theorem count_replaceAll_lt (hv : '{' ∉ value.toList) (h : Occurs (token name) template) :
    (replaceAll (token name) value template).toList.count '{' < template.toList.count '{' := by
  rw [Occurs, toList_token] at h
  rw [replaceAll, String.toList_ofList, toList_token]
  exact count_replaceFrom_lt hv h

theorem count_substitute_le (hv : ∀ e ∈ scope, '{' ∉ e.2.toList) (template : String) :
    (substitute template scope).toList.count '{' ≤ template.toList.count '{' := by
  induction scope generalizing template with
  | nil => exact Nat.le_refl _
  | cons entry scope ih =>
    have hrest := ih fun e he => hv e (List.mem_cons_of_mem _ he)
    exact Nat.le_trans (hrest _) (count_replaceAll_le (hv entry List.mem_cons_self) _ _)

/-- Each replacement takes an opening brace away and no value brings one in. -/
theorem substitute_eq_self_iff (hv : ∀ e ∈ scope, '{' ∉ e.2.toList) :
    substitute template scope = template ↔ ∀ e ∈ scope, ¬ Occurs (token e.1) template := by
  constructor
  · intro h
    induction scope with
    | nil => simp
    | cons entry scope ih =>
      have hentry := hv entry List.mem_cons_self
      have hrest : ∀ e ∈ scope, '{' ∉ e.2.toList :=
        fun e he => hv e (List.mem_cons_of_mem _ he)
      have hnot : ¬ Occurs (token entry.1) template := by
        intro hocc
        have hle := count_substitute_le hrest (replaceAll (token entry.1) entry.2 template)
        rw [← substitute_cons, h] at hle
        exact Nat.not_lt_of_le hle (count_replaceAll_lt hentry hocc)
      rw [substitute_cons, replaceAll_of_not_occurs hnot] at h
      intro e he
      rcases List.mem_cons.1 he with rfl | he
      · exact hnot
      · exact ih hrest h e he
  · intro h
    exact substitute_of_unchanged fun e he => replaceAll_of_not_occurs (h e he) e.2

theorem valuesApart_nil : ValuesApart [] := by
  intro before entry after he
  simp at he

theorem valuesApart_cons_iff {entry : String × String} :
    ValuesApart (entry :: scope) ↔
      (∀ later ∈ entry :: scope, ¬ Occurs later.2 entry.1) ∧ ValuesApart scope := by
  constructor
  · intro h
    refine ⟨?_, ?_⟩
    · intro later hm
      obtain ⟨before, after, he⟩ := List.append_of_mem hm
      have hentry : entry ∈ before ++ [later] := by
        cases before with
        | nil => simp [(List.cons.inj he).1]
        | cons first before => simp [(List.cons.inj he).1]
      exact h before later after he entry hentry
    · intro before later after he e hm
      exact h (entry :: before) later after (congrArg (List.cons entry) he) e
        (List.mem_cons_of_mem _ hm)
  · rintro ⟨hhead, htail⟩ before later after he e hm
    cases before with
    | nil =>
      obtain ⟨rfl, rfl⟩ := List.cons.inj he
      rw [List.mem_singleton.1 hm]
      exact hhead entry List.mem_cons_self
    | cons first before =>
      obtain ⟨rfl, rfl⟩ := List.cons.inj he
      rcases List.mem_cons.1 hm with rfl | hm
      · exact hhead later (by simp)
      · exact htail before later after rfl e hm

instance : (scope : Scope) → Decidable (ValuesApart scope)
  | [] => isTrue valuesApart_nil
  | _ :: scope =>
    have : Decidable (ValuesApart scope) := instDecidableValuesApart scope
    decidable_of_iff _ valuesApart_cons_iff.symm

/-- Values apart from the names leave no token of the scope in a text. -/
theorem not_occurs_substitute (hv : ∀ e ∈ scope, IsPlain e.2) (h : ValuesApart scope)
    (template : String) : ∀ e ∈ scope, ¬ Occurs (token e.1) (substitute template scope) := by
  induction scope generalizing template with
  | nil => simp
  | cons entry scope ih =>
    have hentry := hv entry List.mem_cons_self
    have hrest : ∀ e ∈ scope, IsPlain e.2 := fun e he => hv e (List.mem_cons_of_mem _ he)
    obtain ⟨hhead, htail⟩ := valuesApart_cons_iff.1 h
    intro e he
    rw [substitute_cons]
    rcases List.mem_cons.1 he with rfl | he
    · -- its own turn leaves no token, and the later values do not bring one in
      intro hocc
      have hearlier := occurs_of_occurs_substitute (fun e he => (hrest e he).1)
        (fun e he => (hrest e he).2) (fun later hl => hhead later (List.mem_cons_of_mem _ hl)) hocc
      rw [Occurs, replaceAll, String.toList_ofList, toList_token] at hearlier
      exact not_infix_replaceFrom hentry.1 hentry.2 (hhead e List.mem_cons_self) hearlier
    · exact ih hrest htail _ e he

/-- A brace before a literal opens no token if another brace is opened right after the literal. -/
theorem not_begins_opened {s ys : List Char} (hn : IsPlain name) (hs : '}' ∉ s) :
    ¬ (token name).toList <+: '{' :: (s ++ '{' :: ys) := by
  intro h
  rw [toList_token] at h
  have hshort := (List.cons_prefix_cons.1 h).2
  have hlong : s ++ ['{'] <+: s ++ '{' :: ys := ⟨ys, by simp⟩
  rcases List.prefix_or_prefix_of_prefix hshort hlong with hp | hp
  · have hmem : '}' ∈ s ++ ['{'] := hp.subset (by simp)
    simp only [List.mem_append, List.mem_singleton, Char.reduceEq, or_false] at hmem
    exact hs hmem
  · have hmem : '{' ∈ name.toList ++ ['}'] := hp.subset (by simp)
    simp only [List.mem_append, List.mem_singleton, Char.reduceEq, or_false] at hmem
    exact hn.1 hmem

/-- A brace that opens no token stays, and what comes after it is replaced as if it were not there.
-/
theorem replaceAll_opened {s other : String} {rest : List Piece} (hn : IsPlain name)
    (hs : IsPlain s) (ho : IsPlain other) (hrest : ∀ p ∈ rest, p.IsWellFormed) :
    replaceAll (token name) value ("\x7b" ++ ofPieces (.literal s :: .token other :: rest)) =
      "\x7b" ++ ofPieces ((.literal s :: .token other :: rest).map
        (Piece.fill (Entries.get? · [(name, value)]))) := by
  have hpieces : ∀ p ∈ .literal s :: .token other :: rest, p.IsWellFormed := by
    intro p hm
    rcases List.mem_cons.1 hm with rfl | hm
    · exact hs.1
    · rcases List.mem_cons.1 hm with rfl | hm
      · exact ho
      · exact hrest p hm
  have hnot : ¬ (token name).toList <+:
      '{' :: (ofPieces (.literal s :: .token other :: rest)).toList := by
    rw [toList_ofPieces_cons, toList_ofPieces_cons, Piece.text, Piece.text, toList_token other,
      List.cons_append]
    exact not_begins_opened hn hs.2
  have hfilled := congrArg String.toList (replaceAll_ofPieces value hn hpieces)
  rw [replaceAll, String.toList_ofList] at hfilled
  rw [← String.toList_inj, replaceAll, String.toList_ofList, String.toList_append,
    String.toList_append, ← hfilled]
  exact replaceFrom_cons_of_not_begins hnot

/-- A value that is a part of its own name or of a name before it completes the token of that name
where its own token stands between two braces. -/
theorem exists_completed {before after : Scope} {e : String × String}
    (hd : (Entries.names (before ++ (name, value) :: after)).Nodup)
    (hn : ∀ e ∈ before ++ (name, value) :: after, IsPlain e.1)
    (he : e ∈ before ++ [(name, value)]) (hpart : Occurs value e.1) :
    ∃ template, substitute template (before ++ (name, value) :: after) = token e.1 := by
  obtain ⟨left, right, hname⟩ := hpart
  rw [List.append_cons] at hd hn
  have hplain := hn e (List.mem_append_left _ he)
  have hown : IsPlain name := hn (name, value) (by simp)
  rw [IsPlain, ← hname] at hplain
  have hleft : IsPlain (String.ofList left) := by
    rw [IsPlain, String.toList_ofList]
    exact ⟨fun h => hplain.1 (by simp [h]), fun h => hplain.2 (by simp [h])⟩
  have hright : ∀ p ∈ [Piece.literal (String.ofList (right ++ ['}']))], p.IsWellFormed := by
    intro p hp
    rw [List.mem_singleton.1 hp, Piece.IsWellFormed, String.toList_ofList]
    intro h
    simp only [List.mem_append, List.mem_singleton, Char.reduceEq, or_false] at h
    exact hplain.1 (by simp [h])
  rw [Entries.names, List.Nodup, List.pairwise_map] at hd
  obtain ⟨hfirst, _, hlater⟩ := List.pairwise_append.1 hd
  obtain ⟨_, _, hearlier⟩ := List.pairwise_append.1 hfirst
  let template := "\x7b" ++ ofPieces [.literal (String.ofList left), .token name,
    .literal (String.ofList (right ++ ['}']))]
  have hbefore : substitute template before = template := by
    apply substitute_of_unchanged
    intro c hc
    have hne : ¬ c.1 = name := hearlier c hc (name, value) (List.mem_singleton.2 rfl)
    have hc : IsPlain c.1 := hn c (List.mem_append_left _ (List.mem_append_left _ hc))
    rw [replaceAll_opened hc hleft hown hright]
    simp [template, Piece.fill, Entries.get?, hne]
  have hturn : replaceAll (token name) value template = token e.1 := by
    rw [replaceAll_opened hown hleft hown hright, ← String.toList_inj, toList_token, ← hname]
    simp [ofPieces, Piece.fill, Entries.get?, Piece.text]
  have hafter : substitute (token e.1) after = token e.1 := by
    apply substitute_of_unchanged
    intro c hc
    have hne : c.1 ≠ e.1 := (hlater e he c hc).symm
    exact replaceAll_of_not_occurs (not_occurs_token (hn e (List.mem_append_left _ he)) hne) c.2
  refine ⟨template, ?_⟩
  rw [substitute_append_cons, hbefore, hturn, hafter]

/-- Values without braces. Rendering a rendered text again changes nothing exactly if no token of
the scope is left in it. If no value is a part of its own name or of a name before it, that is so
for every template, with braces in whatever nesting; where the names differ and have no braces, it
is so for every template only then. And it is so for every template of literals that open no brace
and of tokens, whatever values without braces the names have. -/
theorem rendering_again_changes_nothing_iff_no_token_is_left (scope : Scope)
    (hvalues : ∀ e ∈ scope, IsPlain e.2) :
    (∀ template, render (render template [scope]) [scope] = render template [scope] ↔
      ∀ e ∈ scope, ¬ Occurs (token e.1) (render template [scope])) ∧
    (ValuesApart scope → ∀ template,
      render (render template [scope]) [scope] = render template [scope]) ∧
    ((Entries.names scope).Nodup → (∀ e ∈ scope, IsPlain e.1) →
      (∀ template, render (render template [scope]) [scope] = render template [scope]) →
        ValuesApart scope) ∧
    ((∀ e ∈ scope, IsPlain e.1) → ∀ pieces : List Piece, (∀ p ∈ pieces, p.IsWellFormed) →
      render (render (ofPieces pieces) [scope]) [scope] = render (ofPieces pieces) [scope]) := by
  have hopen : ∀ e ∈ scope, '{' ∉ e.2.toList := fun e he => (hvalues e he).1
  simp only [render_single]
  refine ⟨fun _ => substitute_eq_self_iff hopen, ?_, ?_, ?_⟩
  · intro hapart template
    exact (substitute_eq_self_iff hopen).2 (not_occurs_substitute hvalues hapart template)
  · rintro hd hn hall before ⟨name, value⟩ after rfl e he hpart
    obtain ⟨template, htoken⟩ := exists_completed hd hn he hpart
    have hmem : e ∈ before ++ (name, value) :: after := by
      rw [List.append_cons]
      exact List.mem_append_left _ he
    have hnot := (substitute_eq_self_iff hopen).1 (hall template) e hmem
    rw [htoken] at hnot
    exact hnot List.infix_rfl
  · intro hn pieces hp
    have hfilled := isWellFormed_filled (Entries.get? · scope) hp
      fun name value hget => hopen _ (Entries.mem_of_get? hget)
    rw [substitute_ofPieces hn hopen hp, substitute_ofPieces hn hopen hfilled, map_fill_map_fill]
    simp only [Option.or_self]

/-- A name that is put together from a value, which is bound before it: its own turn comes after
that, and nothing is left for a second rendering. -/
theorem completed_token_is_replaced_in_its_turn :
    let template := "/find/\x7bby_\x7blang\x7d\x7d"
    let scope : Scope := [("lang", "en"), ("by_en", "7")]
    (∀ e ∈ scope, IsPlain e.2) ∧ ValuesApart scope ∧ render template [scope] = "/find/7" ∧
    render (render template [scope]) [scope] = render template [scope] := by
  intro template scope
  have hvalues : ∀ e ∈ scope, IsPlain e.2 := by decide +kernel
  have hapart : ValuesApart scope := by decide +kernel
  obtain ⟨_, hagain, _⟩ := rendering_again_changes_nothing_iff_no_token_is_left scope hvalues
  exact ⟨hvalues, hapart, by decide +kernel, hagain hapart template⟩

/-- The same name, bound before the value that completes its token: the token is left, and a second
rendering replaces it. -/
theorem completed_token_outlasts_its_turn :
    let template := "/find/\x7bby_\x7blang\x7d\x7d"
    let scope : Scope := [("by_en", "7"), ("lang", "en")]
    (∀ e ∈ scope, IsPlain e.1 ∧ IsPlain e.2) ∧ (Entries.names scope).Nodup ∧
    render template [scope] = "/find/\x7bby_en\x7d" ∧
    render (render template [scope]) [scope] = "/find/7" ∧
    render (render template [scope]) [scope] ≠ render template [scope] := by
  decide +kernel

end RequestChain.Template
