import Mathlib.Algebra.Group.Nat.Defs
import RequestChain.Proofs.Json.RoundTrip

namespace RequestChain.Json

mutual

def everywhere (p : Json → Bool) : Json → Bool
  | .arr items => p (.arr items) && everywhereInItems p items
  | .obj members => p (.obj members) && everywhereInMembers p members
  | .null => p .null
  | .bool b => p (.bool b)
  | .int n => p (.int n)
  | .float x => p (.float x)
  | .str s => p (.str s)

def everywhereInItems (p : Json → Bool) : List Json → Bool
  | [] => true
  | v :: vs => everywhere p v && everywhereInItems p vs

def everywhereInMembers (p : Json → Bool) : List (String × Json) → Bool
  | [] => true
  | (_, v) :: ms => everywhere p v && everywhereInMembers p ms

end

/-- The value is no whole number with more digits than are read and no object that repeats a
name. -/
def isProperHere : Json → Bool
  | .int n => (Nat.toDigits 10 n.natAbs).length ≤ digitLimit
  | .obj members => decide (Entries.names members).Nodup
  | _ => true

def isNoFloat : Json → Bool
  | .float _ => false
  | _ => true

/-- A reader can give the value, as far as names and whole numbers go. It may hold doubles. -/
def isProper (v : Json) : Bool := v.everywhere isProperHere

def isFloatFree (v : Json) : Bool := v.everywhere isNoFloat

theorem everywhereInItems_iff {p : Json → Bool} {vs : List Json} :
    everywhereInItems p vs = true ↔ ∀ v ∈ vs, v.everywhere p = true := by
  induction vs with
  | nil => simp [everywhereInItems]
  | cons v vs ih => simp [everywhereInItems, ih]

theorem everywhereInMembers_iff {p : Json → Bool} {ms : List (String × Json)} :
    everywhereInMembers p ms = true ↔ ∀ m ∈ ms, m.2.everywhere p = true := by
  induction ms with
  | nil => simp [everywhereInMembers]
  | cons m ms ih => simp [everywhereInMembers, ih]

theorem membersAreExact_iff {ms : List (String × Json)} :
    membersAreExact ms = true ↔ ∀ m ∈ ms, m.2.isExact = true := by
  induction ms with
  | nil => simp [membersAreExact]
  | cons m ms ih => simp [membersAreExact, ih]

mutual

/-- Doubles are all that keeps a proper value from being read back. -/
theorem isExact_of_isProper (v : Json) (hp : v.isProper = true) (hf : v.isFloatFree = true) :
    v.isExact = true := by
  match v with
  | .null | .bool _ | .str _ => rfl
  | .int n => exact hp
  | .float x => cases hf
  | .arr items =>
    simp only [isProper, isFloatFree, everywhere, Bool.and_eq_true] at hp hf
    exact areExact_of_areProper items hp.2 hf.2
  | .obj members =>
    simp only [isProper, isFloatFree, everywhere, Bool.and_eq_true] at hp hf
    simp only [isExact, Bool.and_eq_true]
    exact ⟨hp.1, membersAreExact_of_membersAreProper members hp.2 hf.2⟩

theorem areExact_of_areProper (vs : List Json) (hp : everywhereInItems isProperHere vs = true)
    (hf : everywhereInItems isNoFloat vs = true) : areExact vs = true := by
  match vs with
  | [] => rfl
  | v :: vs =>
    simp only [everywhereInItems, Bool.and_eq_true] at hp hf
    simp only [areExact, Bool.and_eq_true]
    exact ⟨isExact_of_isProper v hp.1 hf.1, areExact_of_areProper vs hp.2 hf.2⟩

theorem membersAreExact_of_membersAreProper (ms : List (String × Json))
    (hp : everywhereInMembers isProperHere ms = true)
    (hf : everywhereInMembers isNoFloat ms = true) : membersAreExact ms = true := by
  match ms with
  | [] => rfl
  | (_, v) :: ms =>
    simp only [everywhereInMembers, Bool.and_eq_true] at hp hf
    simp only [membersAreExact, Bool.and_eq_true]
    exact ⟨isExact_of_isProper v hp.1 hf.1, membersAreExact_of_membersAreProper ms hp.2 hf.2⟩

end

/-- Of a repeated name one value is kept. -/
theorem isProper_collect {pairs : List (String × Json)} (h : ∀ m ∈ pairs, m.2.isProper = true) :
    (Json.obj (Entries.collect pairs)).isProper = true := by
  obtain ⟨hn, hp⟩ := Entries.collect_of_forall (P := fun v : Json => v.isProper = true) h
  simp only [isProper, everywhere, Bool.and_eq_true]
  exact ⟨decide_eq_true hn, everywhereInMembers_iff.2 hp⟩

theorem bind_eq_ok_iff {ε α β : Type} {x : Except ε α} {f : α → Except ε β} {b : β} :
    (x >>= f) = .ok b ↔ ∃ a, x = .ok a ∧ f a = .ok b := by
  cases x <;> simp [Bind.bind, Except.bind]

theorem map_eq_ok_iff {α β ε : Type} {f : α → β} {x : Except ε α} {y : β} :
    x.map f = .ok y ↔ ∃ a, x = .ok a ∧ f a = y := by
  cases x <;> simp [Except.map]

/-- Digits amount to less than the power of ten with as many zeros. -/
theorem digitsValue_lt {ds : List Char} (hd : ∀ c ∈ ds, c.isDigit = true) :
    digitsValue ds < 10 ^ ds.length := by
  unfold digitsValue
  induction ds with
  | nil => simp
  | cons c ds ih =>
    obtain ⟨_, hc⟩ := Char.isDigit_iff_toNat.1 (hd c List.mem_cons_self)
    have hrest := ih fun d hm => hd d (List.mem_cons_of_mem _ hm)
    have h0 : '0'.toNat = 48 := rfl
    have h9 : '9'.toNat = 57 := rfl
    have hle : 10 * 0 + (c.toNat - '0'.toNat) ≤ 9 := by omega
    have hmul := Nat.mul_le_mul_left (10 ^ ds.length) hle
    rw [Nat.ofDigitChars_cons, Nat.ofDigitChars_eq_ofDigitChars_zero, List.length_cons,
      Nat.pow_succ]
    omega

/-- A number is not written with more digits than it is read from. -/
theorem length_toDigits_digitsValue_le {ds : List Char} (hne : ds ≠ [])
    (hd : ∀ c ∈ ds, c.isDigit = true) : (Nat.toDigits 10 (digitsValue ds)).length ≤ ds.length :=
  (Nat.length_toDigits_le_iff (by decide) (List.length_pos_iff.2 hne)).2 (digitsValue_lt hd)

theorem isDigit_of_mem_wholeDigits {cs : List Char} {c : Char} (h : c ∈ (wholeDigits cs).1) :
    c.isDigit = true := by
  unfold wholeDigits at h
  split at h
  · rw [List.mem_singleton.1 h]
    rfl
  · exact List.all_eq_true.1 List.all_takeWhile c h

theorem numberText?_whole {cs rest : List Char} {t : NumberText}
    (h : numberText? cs = some (t, rest)) : t.whole ≠ [] ∧ ∀ c ∈ t.whole, c.isDigit = true := by
  unfold numberText? at h
  split at h
  rename_i negative body _
  split at h
  · cases h
  · rename_i whole after hne hw
    cases h
    refine ⟨hne, fun c hc => ?_⟩
    have hmem : c ∈ (wholeDigits body).1 := by
      rw [hw]
      exact hc
    exact isDigit_of_mem_wholeDigits hmem

theorem natAbs_signed (negative : Bool) (n : Nat) : (Whole.signed negative n).natAbs = n := by
  cases negative <;> simp [Whole.signed]

/-- A number that is read has no more digits than are read. -/
theorem isProper_value {t : NumberText} {v : Json} (hne : t.whole ≠ [])
    (hd : ∀ c ∈ t.whole, c.isDigit = true) (h : t.value = .ok v) : v.isProper = true := by
  unfold NumberText.value at h
  split at h
  · split at h
    · cases h
    · rename_i hlimit
      cases h
      have hle := length_toDigits_digitsValue_le hne hd
      simp only [isProper, everywhere, isProperHere, natAbs_signed, decide_eq_true_eq]
      omega
  · cases h
    rfl

theorem isProper_plainValue {cs rest : List Char} {v : Json}
    (h : plainValue cs = .ok (v, rest)) : v.isProper = true := by
  unfold plainValue at h
  split at h
  · rename_i w u hw
    cases h
    have hall : ∀ e ∈ words, e.2.isProper = true := by decide
    exact hall _ (List.mem_of_find?_eq_some hw)
  · split at h
    · cases h
    · rename_i t after ht
      obtain ⟨hne, hd⟩ := numberText?_whole ht
      split at h
      · rename_i u hu
        cases h
        exact isProper_value hne hd hu
      · cases h

/-- One call of the reader gives a proper value if the calls that it makes do. -/
theorem isProper_of_reading (fuel : Nat) :
    (∀ cs v rest, valueAt fuel cs = .ok (v, rest) → v.isProper = true) ∧
    (∀ cs vs rest, itemsAt fuel cs = .ok (vs, rest) → ∀ v ∈ vs, v.isProper = true) ∧
    ∀ cs ms rest, membersAt fuel cs = .ok (ms, rest) → ∀ m ∈ ms, m.2.isProper = true := by
  induction fuel with
  | zero =>
    refine ⟨?_, ?_, ?_⟩
    · intro cs v rest h
      cases h
    · intro cs vs rest h
      cases h
    · intro cs ms rest h
      cases h
  | succ fuel ih =>
    obtain ⟨hvalue, hitems, hmembers⟩ := ih
    refine ⟨?_, ?_, ?_⟩
    · intro cs v rest h
      unfold valueAt at h
      split at h
      · obtain ⟨_, _, h⟩ := bind_eq_ok_iff.1 h
        cases h
        rfl
      · split at h
        · cases h
          rfl
        · obtain ⟨⟨vs, after⟩, hvs, h⟩ := bind_eq_ok_iff.1 h
          cases h
          exact Bool.and_eq_true_iff.2 ⟨rfl, everywhereInItems_iff.2 (hitems _ _ _ hvs)⟩
      · split at h
        · cases h
          rfl
        · obtain ⟨⟨pairs, after⟩, hpairs, h⟩ := bind_eq_ok_iff.1 h
          cases h
          exact isProper_collect (hmembers _ _ _ hpairs)
      · exact isProper_plainValue h
    · intro cs vs rest h
      unfold itemsAt at h
      obtain ⟨⟨v, after⟩, hv, h⟩ := bind_eq_ok_iff.1 h
      dsimp only at h
      split at h
      · cases h
        simpa using hvalue _ _ _ hv
      · obtain ⟨⟨ws, _⟩, hws, h⟩ := bind_eq_ok_iff.1 h
        cases h
        exact List.forall_mem_cons.2 ⟨hvalue _ _ _ hv, hitems _ _ _ hws⟩
      · cases h
    · intro cs ms rest h
      unfold membersAt at h
      obtain ⟨⟨name, inner⟩, _, h⟩ := bind_eq_ok_iff.1 h
      obtain ⟨⟨v, after⟩, hv, h⟩ := bind_eq_ok_iff.1 h
      dsimp only at h
      split at h
      · cases h
        simpa using hvalue _ _ _ hv
      · obtain ⟨⟨more, _⟩, hmore, h⟩ := bind_eq_ok_iff.1 h
        cases h
        exact List.forall_mem_cons.2 ⟨hvalue _ _ _ hv, hmembers _ _ _ hmore⟩
      · cases h

/-- A value that is read from a whole text is read at its front, and blanks are left. -/
theorem valueAt_of_read? {text : String} {v : Json} (h : read? text = some v) :
    ∃ rest, valueAt (2 * text.toList.length + 2) (skipSpace text.toList) = .ok (v, rest) ∧
      skipSpace rest = [] := by
  unfold read? read at h
  dsimp only at h
  split at h
  · rename_i u hu
    cases h
    unfold document at hu
    split at hu
    · cases hu
    · obtain ⟨⟨w, rest⟩, hw, hu⟩ := bind_eq_ok_iff.1 hu
      dsimp only at hu
      split at hu
      · rename_i hend
        cases hu
        exact ⟨rest, hw, hend⟩
      · cases hu
  · cases h

/-- What is read from a text is proper. -/
theorem isProper_of_read? {text : String} {v : Json} (h : read? text = some v) :
    v.isProper = true := by
  obtain ⟨rest, hv, _⟩ := valueAt_of_read? h
  exact (isProper_of_reading _).1 _ _ _ hv

/-- A value that was read, and holds no double, is read back from every text written of it. -/
theorem read?_write_of_read? {style : Style} (hst : style.IsReadable) {text : String} {v : Json}
    (h : read? text = some v) (hf : v.isFloatFree = true) : read? (v.write style) = some v :=
  read?_write hst (isExact_of_isProper v (isProper_of_read? h) hf)

end RequestChain.Json
