import Mathlib.Algebra.Group.Nat.Defs
import Mathlib.Data.List.DropRight
import RequestChain.Proofs.Json.Standard

namespace RequestChain

theorem pow_length_toDigits_le {n : Nat} (hn : 0 < n) :
    10 ^ ((Nat.toDigits 10 n).length - 1) ≤ n := by
  cases hl : (Nat.toDigits 10 n).length - 1 with
  | zero => exact hn
  | succ k =>
    apply Nat.le_of_not_lt
    intro hlt
    have hle := (Nat.length_toDigits_le_iff (by decide) (Nat.succ_pos k)).2 hlt
    omega

theorem lt_pow_length_toDigits (n : Nat) : n < 10 ^ (Nat.toDigits 10 n).length := by
  have hpos : 0 < (Nat.toDigits 10 n).length := List.length_pos_iff.2 Nat.toDigits_ne_nil
  exact (Nat.length_toDigits_le_iff (by decide) hpos).1 (Nat.le_refl _)

namespace Interval

variable {i : Interval} {p : Int}

/-- In units of a power of ten that is not above it the center is at least one. -/
theorem den_le_center_inUnits (hc : 0 < i.center) (hd : 0 < i.den)
    (hp : p ≤ tenExponent i.center i.den) :
    0 < (i.inUnits p).den ∧ (i.inUnits p).den ≤ (i.inUnits p).center := by
  unfold tenExponent at hp
  unfold inUnits
  split at hp
  · rename_i hle
    have hq : 0 < i.center / i.den := Nat.div_pos hle hd
    have hpow := pow_length_toDigits_le hq
    have hdigits : 0 < (Nat.toDigits 10 (i.center / i.den)).length :=
      List.length_pos_iff.2 Nat.toDigits_ne_nil
    split
    · refine ⟨Nat.mul_pos hd (Nat.pow_pos (by decide)), ?_⟩
      have hexp : p.toNat ≤ (Nat.toDigits 10 (i.center / i.den)).length - 1 := by omega
      calc i.den * 10 ^ p.toNat
          ≤ i.den * 10 ^ ((Nat.toDigits 10 (i.center / i.den)).length - 1) :=
            Nat.mul_le_mul_left _ (Nat.pow_le_pow_right (by decide) hexp)
        _ ≤ i.den * (i.center / i.den) := Nat.mul_le_mul_left _ hpow
        _ ≤ i.center := Nat.mul_div_le _ _
    · exact ⟨hd, Nat.le_trans hle (Nat.le_mul_of_pos_right _ (Nat.pow_pos (by decide)))⟩
  · rename_i hlt
    -- the center is below one, and the quotient of the denominator by it, rounded up, is `q`
    generalize hq : (i.den + i.center - 1) / i.center = q at hp
    have hmod := Nat.div_add_mod (i.den + i.center - 1) i.center
    have hrest := Nat.mod_lt (i.den + i.center - 1) hc
    rw [hq] at hmod
    have hden : i.den ≤ i.center * q := by omega
    have hpow := lt_pow_length_toDigits (q - 1)
    have hdigits : 0 < (Nat.toDigits 10 (q - 1)).length :=
      List.length_pos_iff.2 Nat.toDigits_ne_nil
    rw [if_neg (by omega)]
    refine ⟨hd, ?_⟩
    have hexp : (Nat.toDigits 10 (q - 1)).length ≤ (-p).toNat := by omega
    have hunit : 10 ^ (Nat.toDigits 10 (q - 1)).length ≤ 10 ^ (-p).toNat :=
      Nat.pow_le_pow_right (by decide) hexp
    calc i.den ≤ i.center * q := hden
      _ ≤ i.center * 10 ^ (-p).toNat := Nat.mul_le_mul_left _ (by omega)

/-- The whole number that is chosen is one of the two around the center. -/
theorem eq_of_nearest? {c : Nat} (h : i.nearest? = some c) :
    c = i.center / i.den ∨ c = i.center / i.den + 1 := by
  unfold nearest? at h
  dsimp only at h
  repeat' split at h
  all_goals cases h
  all_goals simp

theorem ofDouble_pos {m : Nat} (hm : m ≠ 0) (e : Int) :
    0 < (ofDouble m e).center ∧ 0 < (ofDouble m e).den := by
  have hunits : 0 < (overPowerOfTwo 1 1 (2 - e)).1 ∧ 0 < (overPowerOfTwo 1 1 (2 - e)).2 := by
    unfold overPowerOfTwo
    have hpow : ∀ n, 0 < 1 * Nat.pow 2 n := fun n => by
      rw [Nat.one_mul]
      exact Nat.pow_pos (by decide)
    split
    · exact ⟨Nat.one_pos, hpow _⟩
    · exact ⟨hpow _, Nat.one_pos⟩
  have hcenter : (ofDouble m e).center = 4 * m * (overPowerOfTwo 1 1 (2 - e)).1 := rfl
  have hden : (ofDouble m e).den = (overPowerOfTwo 1 1 (2 - e)).2 := rfl
  rw [hcenter, hden]
  exact ⟨Nat.mul_pos (by omega) hunits.1, hunits.2⟩

end Interval

/-- The digits of a positive double are not all zero, or none were found. -/
theorem digits_shortest {m : Nat} (hm : m ≠ 0) (e : Int) :
    0 < (shortest m e).digits ∨ shortest m e = ⟨0, 0⟩ := by
  obtain ⟨hc, hd⟩ := Interval.ofDouble_pos hm e
  unfold shortest
  dsimp only
  generalize Interval.ofDouble m e = i at hc hd
  cases hf : (List.range 17).findSome? fun (n : Nat) =>
      (i.inUnits (tenExponent i.center i.den - n)).nearest?.map fun c =>
        (⟨c, tenExponent i.center i.den - n⟩ : Scientific) with
  | none => exact .inr rfl
  | some found =>
    obtain ⟨n, _, hn⟩ := List.exists_of_findSome?_eq_some hf
    obtain ⟨c, hnear, rfl⟩ := Option.map_eq_some_iff.1 hn
    have hp : tenExponent i.center i.den - n ≤ tenExponent i.center i.den := by omega
    obtain ⟨hd', hc'⟩ := Interval.den_le_center_inUnits hc hd hp
    have hq := Nat.div_pos hc' hd'
    left
    rcases Interval.eq_of_nearest? hnear with rfl | rfl
    · exact hq
    · exact Nat.succ_pos _

open Json.Standard

/-- More digits make no needless zero in front. -/
theorem isDigits_append {ds es : List Char} (hd : IsDigits ds)
    (he : ∀ c ∈ es, c.isDigit = true) : IsDigits (ds ++ es) := by
  refine ⟨by simp [hd.1], fun c hc => ?_⟩
  rcases List.mem_append.1 hc with hc | hc
  · exact hd.2 c hc
  · exact he c hc

theorem isDigit_of_mem_replicate {n : Nat} {c : Char} (h : c ∈ List.replicate n '0') :
    c.isDigit = true := by
  rw [List.eq_of_mem_replicate h]
  decide

theorem isDigits_zero : IsDigits ['0'] := by
  refine ⟨by simp, fun c hc => ?_⟩
  rw [List.mem_singleton.1 hc]
  rfl

theorem isDigits_toDigits (n : Nat) : IsDigits (Nat.toDigits 10 n) :=
  ⟨Nat.toDigits_ne_nil, fun _ hc => Nat.isDigit_of_mem_toDigits (by decide) (by decide) hc⟩

/-- Digits laid out around a power of ten are a number if the first one is not zero. -/
theorem isNumber_layDigits {minus ds : List Char} (hminus : minus ∈ [[], ['-']])
    (hd : IsDigits ds) (h0 : ds.head? ≠ some '0') (k : Int) :
    IsNumber (minus ++ layDigits ds k) := by
  obtain ⟨d, rest, rfl⟩ := List.exists_cons_of_ne_nil hd.1
  have hfirst : d.isDigit = true := hd.2 d List.mem_cons_self
  have hrest : ∀ c ∈ rest, c.isDigit = true := fun c hc => hd.2 c (List.mem_cons_of_mem _ hc)
  unfold layDigits
  split
  · -- zero, the point, zeros and all digits
    have hfraction : IsFraction ('.' :: (List.replicate (-k - 1).toNat '0' ++ d :: rest)) := by
      refine .inr ⟨_, rfl, by simp, fun c hc => ?_⟩
      rcases List.mem_append.1 hc with hc | hc
      · exact isDigit_of_mem_replicate hc
      · exact hd.2 c hc
    simpa using IsNumber.parts hminus (.inl rfl) hfraction (.inl rfl)
  · split
    · -- digits and zeros up to the point, and the digits that are left, or a zero
      dsimp only
      rw [List.take_succ_cons, List.drop_succ_cons]
      generalize k.toNat + 1 - (d :: rest).length = zeros
      have hwhole : IsWhole (d :: (rest.take k.toNat ++ List.replicate zeros '0')) := by
        refine .inr ⟨⟨by simp, fun c hc => ?_⟩, h0⟩
        rcases List.mem_cons.1 hc with rfl | hc
        · exact hfirst
        rcases List.mem_append.1 hc with hc | hc
        · exact hrest c (List.mem_of_mem_take hc)
        · exact isDigit_of_mem_replicate hc
      have hfraction : IsFraction
          ('.' :: if (rest.drop k.toNat).isEmpty then ['0'] else rest.drop k.toNat) := by
        refine .inr ⟨_, rfl, ?_⟩
        split
        · exact isDigits_zero
        · rename_i hne
          exact ⟨by simpa using hne, fun c hc => hrest c (List.mem_of_mem_drop hc)⟩
      simpa using IsNumber.parts hminus hwhole hfraction (.inl rfl)
    · -- the first digit, a point and the others if there are any, and the exponent
      dsimp only
      have hwhole : IsWhole [d] := .inr ⟨⟨by simp, by simpa using hfirst⟩, h0⟩
      have hfraction : IsFraction
          (if (d :: rest).length ≤ 1 then [] else '.' :: (d :: rest).drop 1) := by
        split
        · exact .inl rfl
        · rename_i hlen
          refine .inr ⟨rest, rfl, ?_, hrest⟩
          rintro rfl
          exact hlen (by simp)
      have hexp : IsDigits (if (Nat.toDigits 10 k.natAbs).length < 2 then
          '0' :: Nat.toDigits 10 k.natAbs else Nat.toDigits 10 k.natAbs) := by
        have hk := isDigits_toDigits k.natAbs
        split
        · exact isDigits_append isDigits_zero hk.2
        · exact hk
      have hexponent : ∀ sign ∈ ['-', '+'], IsExponent ('e' :: sign ::
          if (Nat.toDigits 10 k.natAbs).length < 2 then
            '0' :: Nat.toDigits 10 k.natAbs else Nat.toDigits 10 k.natAbs) := by
        intro sign hs
        refine .inr ⟨'e', [sign], _, rfl, by simp, ?_, hexp⟩
        simp only [List.mem_cons, List.not_mem_nil, or_false] at hs
        rcases hs with rfl | rfl <;> simp
      have hsign := hexponent (if k < 0 then '-' else '+') (by split <;> simp)
      simpa using IsNumber.parts hminus hwhole hfraction hsign

/-- Without the zeros at their end the digits of a positive number are digits with the same first
one. -/
theorem isDigits_rdropWhile {n : Nat} (hn : 0 < n) :
    IsDigits ((Nat.toDigits 10 n).rdropWhile (· == '0')) ∧
      ((Nat.toDigits 10 n).rdropWhile (· == '0')).head? ≠ some '0' := by
  obtain ⟨c, cs, he, hc⟩ := Json.toDigits_eq_cons hn
  have hdigits := (isDigits_toDigits n).2
  have hkept := List.rdropWhile_prefix (p := (· == '0')) (l := Nat.toDigits 10 n)
  have hne : (Nat.toDigits 10 n).rdropWhile (· == '0') ≠ [] := by
    intro hnil
    have hall := List.rdropWhile_eq_nil_iff.1 hnil c (he ▸ List.mem_cons_self)
    exact hc (by simpa using hall)
  refine ⟨⟨hne, fun d hd => hdigits d (hkept.subset hd)⟩, ?_⟩
  rw [List.head?_eq_some_head hne, hkept.head hne]
  simpa [he] using hc

/-- The text of a finite double is a number. -/
theorem isNumber_chars (words : FloatWords) (negative : Bool) (m : Nat) (e : Int) :
    IsNumber ((Double.finite negative m e).chars words) := by
  have hminus : (if negative then ['-'] else []) ∈ [[], ['-']] := by
    cases negative <;> simp
  have hzero : IsNumber ((if negative then ['-'] else []) ++ ['0', '.', '0']) := by
    have hfraction : IsFraction ['.', '0'] := .inr ⟨['0'], rfl, isDigits_zero⟩
    exact .parts hminus (.inl rfl) hfraction (.inl rfl)
  by_cases hm : m = 0
  · simpa [Double.chars, hm] using hzero
  · simp only [Double.chars, if_neg hm]
    rcases digits_shortest hm e with hpos | hnone
    · obtain ⟨hkept, hhead⟩ := isDigits_rdropWhile hpos
      exact isNumber_layDigits hminus hkept hhead _
    · rw [hnone]
      exact hzero

end RequestChain
