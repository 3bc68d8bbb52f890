import Mathlib.Tactic.SplitIfs
import RequestChain.Path.Grammar
import RequestChain.Proofs.Json.Proper

namespace RequestChain

open Json (bind_eq_ok_iff map_eq_ok_iff)

namespace Token

variable {c : Char} {cs : List Char} {t : Token} {ts : List Token} {n : Nat}

def continuesPath : Token → Bool
  | dot | dots | leftBracket => true
  | _ => false

theorem scanFrom_dollar (cs : List Char) :
    scanFrom 0 ('$' :: cs) = (scanFrom 0 cs).map (.dollar :: ·) := by
  have h : next '$' cs = .ok (some .dollar, 1) := rfl
  rw [scanFrom, h]

theorem scanFrom_point (h : sign? ('.' :: cs) = some (t, n)) :
    scanFrom 0 ('.' :: cs) = (scanFrom (n - 1) cs).map (t :: ·) := by
  have hdirection : direction? ('.' :: cs) = none := rfl
  have hnext : next '.' cs = .ok (some t, n) := by
    unfold next
    rw [hdirection, h]
    rfl
  rw [scanFrom, hnext]

theorem scanFrom_dots (cs : List Char) :
    scanFrom 0 ('.' :: '.' :: cs) = (scanFrom 0 cs).map (.dots :: ·) := by
  have hsign : sign? ('.' :: '.' :: cs) = some (.dots, 2) := rfl
  rw [scanFrom_point hsign]
  rfl

theorem scanFrom_dot (h : cs.head? ≠ some '.') :
    scanFrom 0 ('.' :: cs) = (scanFrom 0 cs).map (.dot :: ·) := by
  have hsign : sign? ('.' :: cs) = some (.dot, 1) := by
    cases cs with
    | nil => rfl
    | cons d cs =>
      have hd : d ≠ '.' := fun he => h (congrArg some he)
      unfold sign?
      split <;> simp_all
  exact scanFrom_point hsign

/-- A text that starts with a point starts with one token of a point or of two. -/
theorem exists_points (h : scanFrom 0 ('.' :: cs) = .ok ts) :
    ∃ t rest, ts = t :: rest ∧ (t = .dot ∨ t = .dots) := by
  by_cases hcs : cs.head? = some '.'
  · obtain ⟨ds, rfl⟩ := List.head?_eq_some_iff.1 hcs
    rw [scanFrom_dots] at h
    obtain ⟨rest, -, rfl⟩ := map_eq_ok_iff.1 h
    exact ⟨.dots, rest, rfl, .inr rfl⟩
  · rw [scanFrom_dot hcs] at h
    obtain ⟨rest, -, rfl⟩ := map_eq_ok_iff.1 h
    exact ⟨.dot, rest, rfl, .inl rfl⟩

/-- A path does not go on with a name. -/
theorem continuesPath_nameAt (front cs : List Char) :
    (nameAt front cs).1.continuesPath = false := by
  unfold nameAt ofName
  simp only
  split <;> rfl

theorem continuesPath_numberAt {negative : Bool} {token : Option Token}
    (h : numberAt negative cs = .ok (token, n)) :
    ∃ t, token = some t ∧ t.continuesPath = false := by
  unfold numberAt at h
  simp only at h
  repeat' split at h
  all_goals cases h
  all_goals exact ⟨_, rfl, rfl⟩

theorem continuesPath_quotedAt {quote : Char} {make : String → Token} {token : Option Token}
    (hmake : ∀ s, (make s).continuesPath = false) (h : quotedAt quote make cs = .ok (token, n)) :
    ∃ t, token = some t ∧ t.continuesPath = false := by
  unfold quotedAt at h
  split at h
  · cases h
    exact ⟨_, rfl, hmake _⟩
  · cases h

/-- Among the signs a path goes on only with a point or an opening bracket. -/
theorem sign?_continuesPath (h : sign? (c :: cs) = some (t, n)) (ht : t.continuesPath = true) :
    c = '.' ∨ c = '[' := by
  unfold sign? at h
  split at h <;> cases h <;> simp_all [continuesPath]

/-- What a text starts with is blank, or it is no token with which a path goes on, unless it is a
point or a bracket. -/
theorem next_cases {token : Option Token} (h : next c cs = .ok (token, n)) :
    token = none ∧ Text.isBlank c = true ∨
      ∃ t, token = some t ∧ (t.continuesPath = true → c = '.' ∨ c = '[') := by
  have plain {token : Option Token} (h : ∃ t, token = some t ∧ t.continuesPath = false) :
      ∃ t, token = some t ∧ (t.continuesPath = true → c = '.' ∨ c = '[') := by
    obtain ⟨t, rfl, ht⟩ := h
    exact ⟨t, rfl, fun hc => absurd hc (by simp [ht])⟩
  unfold next at h
  simp only at h
  -- blank, name, name after `@`, number, negative number, quotes, operator, and all other signs
  split_ifs at h with hblank
  · cases h
    rcases hblank with rfl | rfl | rfl
    · exact .inl ⟨rfl, by decide⟩
    · exact .inl ⟨rfl, by decide⟩
    · exact .inl ⟨rfl, by decide⟩
  · cases h
    exact .inr (plain ⟨_, rfl, continuesPath_nameAt _ _⟩)
  · cases h
    exact .inr (plain ⟨_, rfl, continuesPath_nameAt _ _⟩)
  · exact .inr (plain (continuesPath_numberAt h))
  · exact .inr (plain (continuesPath_numberAt h))
  · exact .inr (plain (continuesPath_quotedAt (fun _ => rfl) h))
  · exact .inr (plain (continuesPath_quotedAt (fun _ => rfl) h))
  · split at h
    · cases h
      exact .inr (plain ⟨_, rfl, rfl⟩)
    · rename_i sign _ hsign
      cases h
      exact .inr ⟨_, rfl, sign?_continuesPath hsign⟩
    · cases h

theorem exists_first_token (hc : Text.isBlank c = false) (h : scanFrom 0 (c :: cs) = .ok ts) :
    ∃ t rest, ts = t :: rest ∧ (t.continuesPath = true → c = '.' ∨ c = '[') := by
  rw [scanFrom] at h
  split at h
  · cases h
  · rename_i hnext
    obtain ⟨_, hblank⟩ | ⟨_, he, _⟩ := next_cases hnext
    · simp [hc] at hblank
    · cases he
  · rename_i t n hnext
    obtain ⟨he, _⟩ | ⟨_, he, hcontinues⟩ := next_cases hnext
    · cases he
    · cases he
      obtain ⟨rest, -, rfl⟩ := map_eq_ok_iff.1 h
      exact ⟨t, rest, rfl, hcontinues⟩

end Token

namespace Path

variable {text : String} {cs : List Char} {path more : Path} {ts rest : List Token} {fuel : Nat}

/-- A path that starts at the root goes on with all the tokens after the first. -/
theorem parse_of_dollar (h : Token.scan text = .ok (.dollar :: ts)) :
    parse text = (do
      let (more, rest) ← continuedAt (6 * ts.length + 11) ts
      match rest with
      | [] => return .root :: more
      | _ => .error .unexpected) := by
  have hfuel : 6 * (Token.dollar :: ts).length + 6 = 6 * ts.length + 10 + 1 + 1 := by
    rw [List.length_cons]
    omega
  rw [parse, h]
  change ((pathAt (6 * (Token.dollar :: ts).length + 6) (.dollar :: ts)) >>= _) = _
  rw [hfuel, pathAt, operandAt]
  cases hmore : continuedAt (6 * ts.length + 11) ts with
  | error fault => simp [hmore, bind, Except.bind]
  | ok result =>
    obtain ⟨more, rest⟩ := result
    cases rest <;> simp [hmore, bind, Except.bind, pure, Except.pure]

/-- A path behind `$` is its root and whatever the tokens after the sign go on with. -/
theorem parse_eq_ok_iff_of_dollar (h : Token.scan text = .ok (.dollar :: ts)) :
    parse text = .ok path ↔
      ∃ more, continuedAt (6 * ts.length + 11) ts = .ok (more, []) ∧ path = .root :: more := by
  rw [parse_of_dollar h, bind_eq_ok_iff]
  constructor
  · rintro ⟨⟨more, rest⟩, hmore, hpath⟩
    cases rest with
    | nil =>
      cases hpath
      exact ⟨more, hmore, rfl⟩
    | cons t rest => cases hpath
  · rintro ⟨more, hmore, rfl⟩
    exact ⟨(more, []), hmore, rfl⟩

/-- If no token is left over, the first is one with which a path goes on. -/
theorem continuesPath_of_continuedAt {t : Token}
    (h : continuedAt (fuel + 1) (t :: ts) = .ok (more, [])) : t.continuesPath = true := by
  unfold continuedAt at h
  split at h
  case h_7 => cases h
  all_goals rename_i heq; cases heq; rfl

/-- After two points stands no third. -/
theorem continuedAt_dots_points {t : Token} (ht : t = .dot ∨ t = .dots) :
    continuedAt (fuel + 2) (.dots :: t :: ts) = .error .unexpected := by
  rcases ht with rfl | rfl <;> rfl

/-- With two points in the place of one the path goes on in all descendants. -/
theorem continuedAt_dots_of_dot (h : continuedAt (fuel + 2) (.dot :: ts) = .ok (more, rest)) :
    continuedAt (fuel + 2) (.dots :: ts) = .ok (.descend :: more, rest) := by
  rw [continuedAt] at h
  unfold continuedAt
  split
  case h_2 =>
    -- A condition in brackets may stand behind two points, but not behind one.
    rename_i ts heq
    cases heq
    have hnone : operandAt (fuel + 1) (.leftBracket :: .question :: ts) = .error .unexpected := rfl
    rw [hnone] at h
    cases h
  case h_3 =>
    rename_i heq
    cases heq
    obtain ⟨⟨part, ts'⟩, hpart, h⟩ := bind_eq_ok_iff.1 h
    obtain ⟨⟨more', ts''⟩, hmore, h⟩ := bind_eq_ok_iff.1 h
    cases h
    rw [hpart]
    simp [hmore, bind, Except.bind, pure, Except.pure]
  case h_7 h _ _ _ => exact absurd rfl (h _)
  all_goals rename_i heq; cases heq

theorem exists_tokens (h : parse ("$" ++ text) = .ok path) :
    ∃ ts, Token.scanFrom 0 text.toList = .ok ts ∧
      Token.scan ("$" ++ text) = .ok (.dollar :: ts) := by
  have hscan : Token.scan ("$" ++ text) =
      (Token.scanFrom 0 text.toList).map (.dollar :: ·) := by
    rw [Token.scan, String.toList_append]
    exact Token.scanFrom_dollar _
  cases hts : Token.scanFrom 0 text.toList with
  | error fault =>
    rw [parse, hscan, hts] at h
    cases h
  | ok ts =>
    rw [hts] at hscan
    exact ⟨ts, rfl, hscan⟩

/-- A path after the root starts with a point or a bracket. -/
theorem point_or_bracket (hblank : ∀ c ∈ text.toList.head?, Text.isBlank c = false)
    (hne : text ≠ "") (h : parse ("$" ++ text) = .ok path) :
    ∃ cs, text.toList = '.' :: cs ∨ text.toList = '[' :: cs := by
  obtain ⟨ts, hts, hscan⟩ := exists_tokens h
  obtain ⟨more, hmore, _⟩ := (parse_eq_ok_iff_of_dollar hscan).1 h
  cases hlist : text.toList with
  | nil => exact absurd (String.toList_eq_nil_iff.1 hlist) hne
  | cons c cs =>
    rw [hlist] at hts hblank
    obtain ⟨t, rest, rfl, hpoint⟩ := Token.exists_first_token (hblank c rfl) hts
    rcases hpoint (continuesPath_of_continuedAt hmore) with rfl | rfl
    · exact ⟨cs, .inl rfl⟩
    · exact ⟨cs, .inr rfl⟩

/-- The point that is put before another makes the two a descent. -/
theorem parse_point_append (hlist : text.toList = '.' :: cs) (hcs : cs.head? ≠ some '.')
    (h : parse ("$" ++ text) = .ok path) :
    ∃ rest, path = .root :: rest ∧ parse ("$." ++ text) = .ok (.root :: .descend :: rest) := by
  obtain ⟨ts, hts, hscan⟩ := exists_tokens h
  obtain ⟨rest, hrest, rfl⟩ := (parse_eq_ok_iff_of_dollar hscan).1 h
  rw [hlist, Token.scanFrom_dot hcs] at hts
  obtain ⟨after, hafter, rfl⟩ := map_eq_ok_iff.1 hts
  have htwo : Token.scan ("$." ++ text) = .ok (.dollar :: .dots :: after) := by
    rw [Token.scan, String.toList_append, hlist]
    change Token.scanFrom 0 ('$' :: '.' :: '.' :: cs) = _
    rw [Token.scanFrom_dollar, Token.scanFrom_dots, hafter]
    rfl
  exact ⟨rest, rfl, (parse_eq_ok_iff_of_dollar htwo).2
    ⟨.descend :: rest, continuedAt_dots_of_dot hrest, rfl⟩⟩

/-- The point that is put before two is one too many. -/
theorem parse_point_append_of_two (hlist : text.toList = '.' :: '.' :: cs)
    (h : parse ("$" ++ text) = .ok path) : parse ("$." ++ text) = .error .unexpected := by
  obtain ⟨ts, hts, hscan⟩ := exists_tokens h
  obtain ⟨rest, hrest, rfl⟩ := (parse_eq_ok_iff_of_dollar hscan).1 h
  rw [hlist, Token.scanFrom_dots] at hts
  obtain ⟨after, hafter, rfl⟩ := map_eq_ok_iff.1 hts
  have hcs : cs.head? ≠ some '.' := by
    -- With a third point the text would be no path behind the sign either.
    intro hhead
    obtain ⟨ds, rfl⟩ := List.head?_eq_some_iff.1 hhead
    obtain ⟨t, more, rfl, ht⟩ := Token.exists_points hafter
    rw [continuedAt_dots_points ht] at hrest
    cases hrest
  have hthree : Token.scan ("$." ++ text) = .ok (.dollar :: .dots :: .dot :: after) := by
    rw [Token.scan, String.toList_append, hlist]
    change Token.scanFrom 0 ('$' :: '.' :: '.' :: '.' :: cs) = _
    rw [Token.scanFrom_dollar, Token.scanFrom_dots, Token.scanFrom_dot hcs, hafter]
    rfl
  rw [parse_of_dollar hthree]
  exact congrArg (· >>= _) (continuedAt_dots_points (.inl rfl))

end Path
end RequestChain
