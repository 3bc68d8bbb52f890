import RequestChain.Json.Reader
import RequestChain.Json.Writer

namespace RequestChain.Json

/-- The four digits of a unit are read back as the unit, if something follows them. -/
theorem unit?_unitEscape {n : Nat} (h : n < 0x10000) (c : Char) (rest : List Char) :
    unit? ('u' :: Hex.digit (n / 4096 % 16) :: Hex.digit (n / 256 % 16) ::
      Hex.digit (n / 16 % 16) :: Hex.digit (n % 16) :: c :: rest) = some n := by
  simp only [unit?, Hex.value?_digit (Nat.mod_lt _ (by decide : 0 < 16)), Option.bind_eq_bind,
    Option.bind_some, Option.pure_def]
  congr 1
  omega

/-- An escape is passed over once its character is known. -/
theorem stringChars_skip (opening done cs : List Char) :
    stringChars opening done.length (done ++ cs) = stringChars opening 0 cs := by
  induction done with
  | nil => rfl
  | cons c done ih => exact ih

theorem stringChars_escaped (opening done : List Char) {cs : List Char} {x : Char}
    (h : escape (done ++ cs) = .ok (x, done.length)) :
    stringChars opening 0 ('\\' :: (done ++ cs)) =
      (stringChars opening 0 cs).map fun r => (x :: r.1, r.2) := by
  rw [stringChars, if_neg (by decide), if_pos rfl, h]
  dsimp only
  rw [stringChars_skip]
  cases stringChars opening 0 cs <;> rfl

theorem stringChars_plain {opening cs : List Char} {c : Char} (hq : c ≠ '"') (hb : c ≠ '\\')
    (hc : ¬ c.toNat < 0x20) :
    stringChars opening 0 (c :: cs) =
      (stringChars opening 0 cs).map fun r => (c :: r.1, r.2) := by
  rw [stringChars, if_neg hq, if_neg hb, if_neg hc]
  cases stringChars opening 0 cs <;> rfl

/-- A control character is written as one unit. -/
theorem escape_control {c d : Char} {cs : List Char} (h : c.toNat < 0x20) :
    escape ((unitEscape c.toNat).drop 1 ++ d :: cs) = .ok (c, 5) := by
  have hu := unit?_unitEscape (by omega : c.toNat < 0x10000) d cs
  have hs : ¬ (0xD800 ≤ c.toNat ∧ c.toNat < 0xDC00) := by omega
  have hc : unitChar c.toNat = c := by
    rw [unitChar, if_neg (by omega), Char.ofNat_toNat]
  simp only [unitEscape, List.drop_succ_cons, List.drop_zero, List.cons_append, List.nil_append,
    escape, hu, if_neg hs, hc]

/-- A character is read back from the way it is written in a string, if something follows it there.
-/
theorem stringChars_charText (opening : List Char) (c d : Char) (cs : List Char) :
    stringChars opening 0 (charText false c ++ d :: cs) =
      (stringChars opening 0 (d :: cs)).map fun r => (c :: r.1, r.2) := by
  unfold charText
  split
  · subst_vars
    exact stringChars_escaped opening ['"'] rfl
  split
  · subst_vars
    exact stringChars_escaped opening ['\\'] rfl
  split
  · subst_vars
    exact stringChars_escaped opening ['n'] rfl
  split
  · subst_vars
    exact stringChars_escaped opening ['r'] rfl
  split
  · subst_vars
    exact stringChars_escaped opening ['t'] rfl
  split
  · subst_vars
    exact stringChars_escaped opening ['b'] rfl
  split
  · subst_vars
    exact stringChars_escaped opening ['f'] rfl
  split
  · rename_i h
    have hc : c.toNat < 0x20 := by simpa using h
    rw [numericEscape, if_pos (by omega)]
    exact stringChars_escaped opening ((unitEscape c.toNat).drop 1) (escape_control hc)
  · rename_i hq hb _ _ _ _ _ h
    exact stringChars_plain hq hb (by simpa using h)

theorem stringChars_flatMap (opening cs rest : List Char) :
    stringChars opening 0 (cs.flatMap (charText false) ++ '"' :: rest) = .ok (cs, rest) := by
  induction cs with
  | nil => rfl
  | cons c cs ih =>
    cases hcs : cs.flatMap (charText false) ++ '"' :: rest with
    | nil => simp at hcs
    | cons d tail =>
      rw [List.flatMap_cons, List.append_assoc, hcs, stringChars_charText, ← hcs, ih]
      rfl

/-- A string is read back, whatever its characters are, and what follows its closing quote is left.
-/
theorem stringValue_quote (s : String) (rest : List Char) :
    stringValue (quote false s ++ rest) = .ok (s, rest) := by
  have h := stringChars_flatMap (quote false s ++ rest) s.toList rest
  have hd : (quote false s ++ rest).drop 1 = s.toList.flatMap (charText false) ++ '"' :: rest := by
    simp [quote]
  rw [stringValue, hd, h]
  simp [Bind.bind, Except.bind, Pure.pure, Except.pure]

def EndsNumber (rest : List Char) : Prop :=
  ∀ c ∈ rest.head?, c.isDigit = false ∧ c ≠ '.' ∧ c ≠ 'e' ∧ c ≠ 'E'

theorem takeWhile_digits {ds rest : List Char} (hd : ∀ c ∈ ds, c.isDigit = true)
    (hr : EndsNumber rest) : (ds ++ rest).takeWhile Char.isDigit = ds := by
  rw [List.takeWhile_append_of_pos hd]
  cases rest with
  | nil => simp
  | cons c rest => simp [(hr c rfl).1]

theorem dropWhile_digits {ds rest : List Char} (hd : ∀ c ∈ ds, c.isDigit = true)
    (hr : EndsNumber rest) : (ds ++ rest).dropWhile Char.isDigit = rest := by
  rw [List.dropWhile_append_of_pos hd]
  cases rest with
  | nil => simp
  | cons c rest => simp [(hr c rfl).1]

theorem fractionDigits_of_ends {rest : List Char} (h : EndsNumber rest) :
    fractionDigits rest = ([], rest) := by
  cases rest with
  | nil => rfl
  | cons c rest =>
    have hc := (h c rfl).2.1
    unfold fractionDigits
    split
    · rename_i he
      exact absurd (List.cons.inj he).1 hc
    · rfl

theorem exponentPart_of_ends {rest : List Char} (h : EndsNumber rest) :
    exponentPart rest = (none, rest) := by
  cases rest with
  | nil => rfl
  | cons c rest =>
    obtain ⟨_, _, he, hE⟩ := h c rfl
    simp [exponentPart, he, hE]

/-- The digits of a positive number do not start with a zero. -/
theorem toDigits_eq_cons {n : Nat} (h : 0 < n) :
    ∃ c cs, Nat.toDigits 10 n = c :: cs ∧ c ≠ '0' := by
  induction n using Nat.strongRecOn with
  | _ n ih =>
    by_cases hn : n < 10
    · have hall : ∀ k ∈ List.range 10, 0 < k → k.digitChar ≠ '0' := by decide
      exact ⟨n.digitChar, [], Nat.toDigits_of_lt_base hn, hall n (List.mem_range.2 hn) h⟩
    · obtain ⟨c, cs, he, hc⟩ := ih (n / 10) (by omega) (by omega)
      refine ⟨c, cs ++ [(n % 10).digitChar], ?_, hc⟩
      rw [Nat.toDigits_of_base_le (by decide) (by omega), he]
      rfl

theorem wholeDigits_toDigits {n : Nat} {rest : List Char} (hr : EndsNumber rest) :
    wholeDigits (Nat.toDigits 10 n ++ rest) = (Nat.toDigits 10 n, rest) := by
  have hd : ∀ c ∈ Nat.toDigits 10 n, c.isDigit = true :=
    fun c hc => Nat.isDigit_of_mem_toDigits (by decide) (by decide) hc
  rcases Nat.eq_zero_or_pos n with rfl | hn
  · rfl
  · obtain ⟨c, cs, he, hc⟩ := toDigits_eq_cons hn
    have ht := takeWhile_digits hd hr
    have hw := dropWhile_digits hd hr
    rw [he] at ht hw ⊢
    unfold wholeDigits
    split
    · rename_i h0
      exact absurd (List.cons.inj h0).1 hc
    · rw [ht, hw]

theorem toDigits_head_isDigit (n : Nat) :
    ∃ c cs, Nat.toDigits 10 n = c :: cs ∧ c.isDigit = true := by
  cases he : Nat.toDigits 10 n with
  | nil => exact absurd he Nat.toDigits_ne_nil
  | cons c cs =>
    exact ⟨c, cs, rfl, Nat.isDigit_of_mem_toDigits (by decide) (by decide)
      (he ▸ List.mem_cons_self)⟩

/-- A whole number is taken apart into its sign and its digits, without a fraction and without an
exponent. -/
theorem numberText?_intChars {n : Int} {rest : List Char} (hr : EndsNumber rest) :
    numberText? (intChars n ++ rest) =
      some (⟨decide (n < 0), Nat.toDigits 10 n.natAbs, [], none⟩, rest) := by
  have hw := wholeDigits_toDigits (n := n.natAbs) hr
  obtain ⟨c, cs, he, hc⟩ := toDigits_head_isDigit n.natAbs
  by_cases hn : n < 0
  · simp only [intChars, if_pos hn, List.cons_append, numberText?]
    rw [hw, he]
    simp [fractionDigits_of_ends hr, exponentPart_of_ends hr, hn]
  · have hm : c ≠ '-' := by
      rintro rfl
      exact absurd hc (by decide)
    rw [he] at hw
    simp only [intChars, if_neg hn, he, List.cons_append] at hw ⊢
    unfold numberText?
    split
    · rename_i hs
      split at hs
      · rename_i h0
        exact absurd (List.cons.inj h0).1 hm
      · obtain ⟨rfl, rfl⟩ := hs
        simp [hw, fractionDigits_of_ends hr, exponentPart_of_ends hr, hn]

theorem signed_natAbs (n : Int) : Whole.signed (decide (n < 0)) n.natAbs = n := by
  by_cases h : n < 0
  · simp only [Whole.signed, h, decide_true, if_true]
    omega
  · simp only [Whole.signed, h, decide_false, Bool.false_eq_true, if_false]
    omega

end RequestChain.Json
