import RequestChain.Proofs.Text.Replace
import RequestChain.Run.Basic

namespace RequestChain.Template

open Text

theorem toList_token (name : String) : (token name).toList = '{' :: (name.toList ++ ['}']) := by
  simp [token]

theorem render_single (template : String) (scope : Scope) :
    render template [scope] = substitute template scope := rfl

theorem substitute_cons (template : String) (entry : String × String) (scope : Scope) :
    substitute template (entry :: scope) =
      substitute (replaceAll (token entry.1) entry.2 template) scope := rfl

theorem substitute_of_unchanged {template : String} {scope : Scope}
    (h : ∀ e ∈ scope, replaceAll (token e.1) e.2 template = template) :
    substitute template scope = template := by
  induction scope with
  | nil => rfl
  | cons entry scope ih =>
    rw [substitute_cons, h entry List.mem_cons_self]
    exact ih fun e he => h e (List.mem_cons_of_mem _ he)

/-- The turn of a name comes when the names before it have been replaced. -/
theorem substitute_append_cons (template name value : String) (before after : Scope) :
    substitute template (before ++ (name, value) :: after) =
      substitute (replaceAll (token name) value (substitute template before)) after := by
  rw [substitute, List.foldl_append]
  rfl

/-- A piece without braces that is as long as each token stays in the text. -/
theorem infix_substitute {piece : List Char} {scope : Scope} {template : String}
    (hopen : '{' ∉ piece) (hclose : '}' ∉ piece)
    (hl : ∀ entry ∈ scope, (token entry.1).toList.length ≤ piece.length)
    (h : piece <:+: template.toList) : piece <:+: (substitute template scope).toList := by
  induction scope generalizing template with
  | nil => exact h
  | cons entry scope ih =>
    have hfirst := hl entry List.mem_cons_self
    have hrest : ∀ entry ∈ scope, (token entry.1).toList.length ≤ piece.length :=
      fun entry he => hl entry (List.mem_cons_of_mem _ he)
    rw [substitute_cons]
    apply ih hrest
    rw [replaceAll, String.toList_ofList]
    rw [toList_token] at hfirst ⊢
    exact infix_replaceFrom_of_apart hopen hclose hfirst h

/-- Values without braces that are no part of a name do not bring in its token. -/
theorem occurs_of_occurs_substitute {name template : String} {scope : Scope}
    (hopen : ∀ entry ∈ scope, '{' ∉ entry.2.toList)
    (hclose : ∀ entry ∈ scope, '}' ∉ entry.2.toList)
    (hpart : ∀ entry ∈ scope, ¬ Occurs entry.2 name)
    (h : Occurs (token name) (substitute template scope)) : Occurs (token name) template := by
  induction scope generalizing template with
  | nil => exact h
  | cons entry scope ih =>
    rw [substitute_cons] at h
    have hlater := ih (fun e he => hopen e (List.mem_cons_of_mem _ he))
      (fun e he => hclose e (List.mem_cons_of_mem _ he))
      (fun e he => hpart e (List.mem_cons_of_mem _ he)) h
    rw [Occurs, toList_token, replaceAll, String.toList_ofList] at hlater
    rw [Occurs, toList_token]
    exact infix_of_infix_replaceFrom (hopen entry List.mem_cons_self)
      (hclose entry List.mem_cons_self) (hpart entry List.mem_cons_self) hlater

theorem exists_length_token_le (scope : Scope) :
    ∃ n, ∀ entry ∈ scope, (token entry.1).toList.length ≤ n := by
  induction scope with
  | nil => exact ⟨0, by simp⟩
  | cons entry scope ih =>
    obtain ⟨n, hn⟩ := ih
    refine ⟨max (token entry.1).toList.length n, ?_⟩
    intro other ho
    rcases List.mem_cons.1 ho with rfl | ho
    · exact Nat.le_max_left _ _
    · exact Nat.le_trans (hn other ho) (Nat.le_max_right _ _)

/-- A token that is in the text when its turn comes lets a long enough value be seen. -/
theorem exists_render_ne {template name : String} {before after : Scope}
    (h : Occurs (token name) (render template [before])) :
    ∃ v w, render template [before ++ (name, v) :: after] ≠
      render template [before ++ (name, w) :: after] := by
  obtain ⟨n, hn⟩ := exists_length_token_le after
  generalize hl : (render template [before ++ (name, "") :: after]).toList.length = l
  -- as long as each later token, it stays; longer than the text for the empty value, it shows
  let piece := List.replicate (l + 1 + n) 'x'
  refine ⟨"", String.ofList piece, fun heq => ?_⟩
  have hput : piece <:+: (replaceAll (token name) (String.ofList piece)
      (substitute template before)).toList := by
    rw [replaceAll, String.toList_ofList, String.toList_ofList]
    exact infix_replaceFrom (by simp [toList_token]) h
  have hlong : ∀ entry ∈ after, (token entry.1).toList.length ≤ piece.length := by
    intro entry he
    have := hn entry he
    simp only [piece, List.length_replicate]
    omega
  have hstays := infix_substitute (by simp [piece]) (by simp [piece]) hlong hput
  rw [← substitute_append_cons, ← render_single, ← heq] at hstays
  have hle := hstays.length_le
  rw [hl] at hle
  simp only [piece, List.length_replicate] at hle
  omega

/-- Two scopes that differ in the value of one name, with the same names in the same order. The
text is the same for all its values if its token is not in the text when its turn comes, and only
then. So a variable whose token is not in the template can only be brought in by a variable before
it, whose value holds a brace or is a part of its name; those after it may hold any text. -/
theorem value_is_unseen_iff_token_is_absent_at_its_turn (template name : String)
    (before after : Scope) :
    ((∀ v w, render template [before ++ (name, v) :: after] =
        render template [before ++ (name, w) :: after]) ↔
      ¬ Occurs (token name) (render template [before])) ∧
    (¬ Occurs (token name) template →
      (∀ entry ∈ before, '{' ∉ entry.2.toList ∧ '}' ∉ entry.2.toList ∧ ¬ Occurs entry.2 name) →
        ∀ v w, render template [before ++ (name, v) :: after] =
          render template [before ++ (name, w) :: after]) := by
  have hunseen : ¬ Occurs (token name) (render template [before]) → ∀ v w,
      render template [before ++ (name, v) :: after] =
        render template [before ++ (name, w) :: after] := by
    intro h v w
    rw [render_single] at h
    rw [render_single, render_single, substitute_append_cons, substitute_append_cons,
      replaceAll_of_not_occurs h, replaceAll_of_not_occurs h]
  refine ⟨⟨?_, hunseen⟩, ?_⟩
  · intro hall h
    obtain ⟨v, w, hne⟩ := exists_render_ne h
    exact hne (hall v w)
  · intro habsent hplain
    apply hunseen
    intro h
    exact habsent (occurs_of_occurs_substitute (fun e he => (hplain e he).1)
      (fun e he => (hplain e he).2.1) (fun e he => (hplain e he).2.2) h)

/-- A value bound after the variable may be its token: the token stays in the text as it is. -/
theorem token_in_a_later_value_stays :
    let template := "/search/\x7bname\x7d?note=\x7bnote\x7d"
    let before : Scope := [("name", "Bob")]
    let after : Scope := [("note", "\x7bsecret\x7d")]
    ¬ Occurs (token "secret") template ∧
    render template [before ++ ("secret", "s3cr3t") :: after] =
      "/search/Bob?note=\x7bsecret\x7d" ∧
    ∀ v w, render template [before ++ ("secret", v) :: after] =
      render template [before ++ ("secret", w) :: after] := by
  intro template before after
  have habsent : ¬ Occurs (token "secret") template := by decide +kernel
  have hplain : ∀ entry ∈ before,
      '{' ∉ entry.2.toList ∧ '}' ∉ entry.2.toList ∧ ¬ Occurs entry.2 "secret" := by
    decide +kernel
  refine ⟨habsent, by decide +kernel, ?_⟩
  exact (value_is_unseen_iff_token_is_absent_at_its_turn template "secret" before after).2
    habsent hplain

/-- A value bound before the variable may be its token, and then it brings the variable in: two
scopes that differ in nothing but the value of `secret` give two texts, though the template does
not hold its token, and a call shows the value in its address. -/
theorem token_in_an_earlier_value_is_replaced :
    let template := "/search/\x7bname\x7d"
    let scope (value : String) : Scope := [("name", "\x7bsecret\x7d"), ("secret", value)]
    let step : Step := ⟨some "get", some template, none, none, none⟩
    let store (value : String) : Store :=
      (Store.empty.bind "name" (.text "\x7bsecret\x7d")).bind "secret" (.text value)
    ¬ Occurs (token "secret") template ∧ '{' ∉ "secret".toList ∧ '}' ∉ "secret".toList ∧
    Entries.names (scope "s3cr3t") = Entries.names (scope "other") ∧
    (∀ name, name ≠ "secret" →
      Entries.get? name (scope "s3cr3t") = Entries.get? name (scope "other")) ∧
    render template [scope "s3cr3t"] = "/search/s3cr3t" ∧
    render template [scope "other"] = "/search/other" ∧
    (store "s3cr3t").scope = scope "s3cr3t" ∧
    (step.call (store "s3cr3t") none).url = "/search/s3cr3t" := by
  intro template scope step store
  refine ⟨by decide +kernel, by decide, by decide, rfl, ?_, by decide +kernel, by decide +kernel,
    by decide +kernel, by decide +kernel⟩
  intro name hne
  have hsecret : ¬ "secret" = name := fun he => hne he.symm
  simp only [scope, Entries.get?, if_neg hsecret]

end RequestChain.Template
