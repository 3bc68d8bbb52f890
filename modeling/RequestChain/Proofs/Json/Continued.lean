import Mathlib.Data.List.Find
import RequestChain.Proofs.Json.Proper

namespace RequestChain.Json

variable {cs rest inner tail opening : List Char}

theorem skipSpace_append_of_ne_nil (h : skipSpace cs ≠ []) (tail : List Char) :
    skipSpace (cs ++ tail) = skipSpace cs ++ tail := by
  rw [skipSpace, List.dropWhile_append, if_neg (by simpa [skipSpace] using h)]
  rfl

theorem skipSpace_append_of_nil (h : skipSpace cs = []) (tail : List Char) :
    skipSpace (cs ++ tail) = skipSpace tail := by
  rw [skipSpace, List.dropWhile_append, if_pos (by simpa [skipSpace] using h)]
  rfl

theorem skipSpace_append_of_cons {c : Char} (h : skipSpace cs = c :: rest) (tail : List Char) :
    skipSpace (cs ++ tail) = c :: (rest ++ tail) := by
  rw [skipSpace_append_of_ne_nil (by simp [h]), h, List.cons_append]

theorem unit?_append {n : Nat} (h : unit? cs = some n) (tail : List Char) :
    5 < cs.length ∧ unit? (cs ++ tail) = some n := by
  unfold unit? at h
  split at h
  · refine ⟨by simp, ?_⟩
    simpa [unit?] using h
  · cases h

theorem stringChars_eq_drop (opening : List Char) (skip : Nat) (cs : List Char) :
    stringChars opening skip cs = stringChars opening 0 (cs.drop skip) := by
  induction cs generalizing skip with
  | nil => cases skip <;> rfl
  | cons c cs ih =>
    cases skip with
    | zero => rfl
    | succ skip => exact ih skip

theorem unit?_append_of_escape {r : Char × Nat} (h : escape cs = .ok r) (tail : List Char) :
    unit? (cs ++ tail) = unit? cs := by
  unfold escape at h
  split at h
  · cases h
  · split at h
    · cases h
    · rename_i n hn
      rw [hn, (unit?_append hn tail).2]
  -- no other escape starts with a `u`
  all_goals simp_all [unit?]

theorem lowHalf?_append_of_some {n : Nat} (h : lowHalf? cs = some n) (tail : List Char) :
    lowHalf? (cs ++ tail) = some n := by
  unfold lowHalf? at h
  split at h
  · obtain ⟨hu, hn⟩ := Option.filter_eq_some_iff.1 h
    rw [List.cons_append, lowHalf?, (unit?_append hu tail).2, Option.filter_some, if_pos hn]
  · cases h

/-- A text that goes on to the end of a string holds each pair in it whole. -/
theorem lowHalf?_append {r : List Char × List Char} (h : stringChars opening 0 cs = .ok r)
    (tail : List Char) : lowHalf? (cs ++ tail) = lowHalf? cs := by
  cases cs with
  | nil => cases h
  | cons c cs =>
    by_cases hb : c = '\\'
    · subst hb
      rw [stringChars, if_neg (by decide), if_pos rfl] at h
      split at h
      · cases h
      · rename_i hescape
        rw [List.cons_append, lowHalf?, lowHalf?, unit?_append_of_escape hescape]
    · simp [lowHalf?, hb]

/-- An escape that is followed by the rest of its string reads alike before more text. At the end of
a text it would not: half of a pair could be completed there. -/
theorem escape_append {x : Char} {taken : Nat} {r : List Char × List Char}
    (h : escape cs = .ok (x, taken)) (hr : stringChars opening 0 (cs.drop taken) = .ok r)
    (tail : List Char) : escape (cs ++ tail) = .ok (x, taken) := by
  unfold escape at h
  split at h
  · cases h
  · rename_i cs
    split at h
    · cases h
    · rename_i n hn
      obtain ⟨hlen, hu⟩ := unit?_append hn tail
      have hdrop : (('u' :: cs) ++ tail).drop 5 = ('u' :: cs).drop 5 ++ tail :=
        List.drop_append_of_le_length (Nat.le_of_lt hlen)
      -- the second half is there already, or the string goes on without one
      have hlow : lowHalf? (('u' :: cs).drop 5 ++ tail) = lowHalf? (('u' :: cs).drop 5) := by
        cases hl : lowHalf? (('u' :: cs).drop 5) with
        | some low => exact lowHalf?_append_of_some hl tail
        | none =>
          rw [hl, ite_self] at h
          cases h
          exact (lowHalf?_append hr tail).trans hl
      rw [escape.eq_def]
      simp only [List.cons_append] at hu hdrop ⊢
      rw [hu, hdrop, hlow]
      exact h
  case h_11 => cases h
  all_goals exact h

/-- A string that has ended is not touched by what comes after it. -/
theorem stringChars_append {skip : Nat} {xs : List Char}
    (h : stringChars opening skip cs = .ok (xs, rest)) (opening' tail : List Char) :
    stringChars opening' skip (cs ++ tail) = .ok (xs, rest ++ tail) := by
  induction cs generalizing skip xs with
  | nil => cases skip <;> cases h
  | cons c cs ih =>
    cases skip with
    | succ skip => exact ih h
    | zero =>
      rw [List.cons_append]
      unfold stringChars at h ⊢
      split at h
      · rename_i hq
        cases h
        rw [if_pos hq]
      · rename_i hq
        rw [if_neg hq]
        split at h
        · rename_i hb
          rw [if_pos hb]
          split at h
          · cases h
          · rename_i x taken hescape
            obtain ⟨⟨ys, after⟩, hys, h⟩ := bind_eq_ok_iff.1 h
            cases h
            have hdrop := hys
            rw [stringChars_eq_drop] at hdrop
            rw [escape_append hescape hdrop]
            exact bind_eq_ok_iff.2 ⟨_, ih hys, rfl⟩
        · rename_i hb
          rw [if_neg hb]
          split at h
          · cases h
          · rename_i hc
            obtain ⟨⟨ys, after⟩, hys, h⟩ := bind_eq_ok_iff.1 h
            cases h
            rw [if_neg hc]
            exact bind_eq_ok_iff.2 ⟨_, ih hys, rfl⟩

theorem stringValue_append {s : String} (h : stringValue cs = .ok (s, rest)) (hne : cs ≠ [])
    (tail : List Char) : stringValue (cs ++ tail) = .ok (s, rest ++ tail) := by
  obtain ⟨c, cs, rfl⟩ := List.exists_cons_of_ne_nil hne
  obtain ⟨⟨xs, after⟩, hxs, h⟩ := bind_eq_ok_iff.1 h
  cases h
  exact bind_eq_ok_iff.2 ⟨_, stringChars_append hxs _ tail, rfl⟩

theorem memberName_append {name : String} (h : memberName cs = .ok (name, inner))
    (hne : inner ≠ []) (tail : List Char) :
    memberName (cs ++ tail) = .ok (name, inner ++ tail) := by
  unfold memberName at h
  split at h
  · obtain ⟨⟨s, after⟩, hs, h⟩ := bind_eq_ok_iff.1 h
    dsimp only at h
    split at h
    · rename_i hcolon
      cases h
      refine bind_eq_ok_iff.2 ⟨_, stringValue_append hs (List.cons_ne_nil _ _) tail, ?_⟩
      dsimp only
      rw [skipSpace_append_of_cons hcolon]
      exact congrArg (fun cs => Except.ok (name, cs)) (skipSpace_append_of_ne_nil hne tail)
    · cases h
  · cases h

theorem takeWhile_isDigit_append (htail : Follows tail) (cs : List Char) :
    (cs ++ tail).takeWhile Char.isDigit = cs.takeWhile Char.isDigit := by
  have hnone : ([] ++ tail).takeWhile Char.isDigit = [] :=
    takeWhile_digits (by simp) htail.endsNumber
  rw [List.nil_append] at hnone
  rw [List.takeWhile_append, hnone, List.append_nil]
  split
  · rename_i hall
    exact ((List.takeWhile_prefix _).eq_of_length hall).symm
  · rfl

theorem dropWhile_isDigit_append (htail : Follows tail) (cs : List Char) :
    (cs ++ tail).dropWhile Char.isDigit = cs.dropWhile Char.isDigit ++ tail := by
  have hall : ([] ++ tail).dropWhile Char.isDigit = tail :=
    dropWhile_digits (by simp) htail.endsNumber
  rw [List.nil_append] at hall
  rw [List.dropWhile_append, hall]
  split
  · rename_i hnone
    rw [List.isEmpty_iff.1 hnone, List.nil_append]
  · rfl

theorem sign_append (htail : Follows tail) (cs : List Char) :
    Whole.sign (cs ++ tail) = ((Whole.sign cs).1, (Whole.sign cs).2 ++ tail) := by
  cases cs with
  | nil =>
    cases tail with
    | nil => rfl
    | cons c tail =>
      have hc := htail c rfl
      unfold Whole.sign
      split <;> simp_all
  | cons c cs =>
    unfold Whole.sign
    split <;> simp_all

theorem wholeDigits_of_head?_ne (h : cs.head? ≠ some '0') :
    wholeDigits cs = (cs.takeWhile Char.isDigit, cs.dropWhile Char.isDigit) := by
  unfold wholeDigits
  split
  · exact absurd rfl h
  · rfl

theorem wholeDigits_append (htail : Follows tail) (cs : List Char) :
    wholeDigits (cs ++ tail) = ((wholeDigits cs).1, (wholeDigits cs).2 ++ tail) := by
  by_cases h : (cs ++ tail).head? = some '0'
  · cases cs with
    | nil => exact absurd (htail _ h) (by decide)
    | cons c cs =>
      obtain rfl : c = '0' := Option.some.inj h
      rfl
  · have hcs : cs.head? ≠ some '0' := by
      intro h'
      rw [List.head?_append, h'] at h
      exact h rfl
    rw [wholeDigits_of_head?_ne h, wholeDigits_of_head?_ne hcs, takeWhile_isDigit_append htail,
      dropWhile_isDigit_append htail]

theorem fractionDigits_append (htail : Follows tail) (cs : List Char) :
    fractionDigits (cs ++ tail) = ((fractionDigits cs).1, (fractionDigits cs).2 ++ tail) := by
  cases cs with
  | nil => exact fractionDigits_of_ends htail.endsNumber
  | cons c cs =>
    by_cases hc : c = '.'
    · subst hc
      rw [List.cons_append, fractionDigits, fractionDigits, takeWhile_isDigit_append htail,
        dropWhile_isDigit_append htail]
      split <;> rfl
    · simp [fractionDigits, hc]

theorem exponentPart_append (htail : Follows tail) (cs : List Char) :
    exponentPart (cs ++ tail) = ((exponentPart cs).1, (exponentPart cs).2 ++ tail) := by
  cases cs with
  | nil => exact exponentPart_of_ends htail.endsNumber
  | cons c cs =>
    rw [List.cons_append, exponentPart, exponentPart, sign_append htail]
    split
    · dsimp only
      rw [takeWhile_isDigit_append htail, dropWhile_isDigit_append htail]
      split <;> rfl
    · rfl

def unsigned? (negative : Bool) (body : List Char) : Option (NumberText × List Char) :=
  match wholeDigits body with
  | ([], _) => none
  | (whole, rest) =>
    let (fraction, rest) := fractionDigits rest
    let (exponent, rest) := exponentPart rest
    some (⟨negative, whole, fraction, exponent⟩, rest)

theorem numberText?_cons (c : Char) (cs : List Char) :
    numberText? (c :: cs) = if c = '-' then unsigned? true cs else unsigned? false (c :: cs) := by
  split
  · rename_i hc
    subst hc
    rfl
  · rename_i hc
    unfold numberText?
    split
    rename_i negative body hbody
    split at hbody
    · rename_i hminus
      exact absurd (List.cons.inj hminus).1 hc
    · cases hbody
      rfl

/-- A number does not go on in text that starts with a comma, a bracket or the end of a line. -/
theorem unsigned?_append {negative : Bool} {t : NumberText}
    (h : unsigned? negative cs = some (t, rest)) (htail : Follows tail) :
    unsigned? negative (cs ++ tail) = some (t, rest ++ tail) := by
  unfold unsigned? at h ⊢
  rw [wholeDigits_append htail]
  split at h
  · cases h
  · rename_i whole after hne hw
    rcases hfraction : fractionDigits after with ⟨fraction, point⟩
    rcases hexponent : exponentPart point with ⟨exponent, last⟩
    simp only [hfraction, hexponent] at h
    cases h
    rw [hw]
    split
    · rename_i hnil
      exact absurd (Prod.mk.inj hnil).1 hne
    · rename_i hw'
      cases hw'
      simp only [fractionDigits_append htail, hfraction, exponentPart_append htail, hexponent]

theorem numberText?_append {t : NumberText} (h : numberText? cs = some (t, rest))
    (htail : Follows tail) : numberText? (cs ++ tail) = some (t, rest ++ tail) := by
  cases cs with
  | nil => cases h
  | cons c cs =>
    rw [numberText?_cons] at h
    rw [List.cons_append, numberText?_cons]
    split at h
    · rename_i hc
      rw [if_pos hc]
      exact unsigned?_append h htail
    · rename_i hc
      rw [if_neg hc]
      exact unsigned?_append h htail

/-- No word goes on in what follows. -/
theorem isPrefixOf_append {w : List Char} (hw : ∀ c ∈ w, c ∉ [',', ']', '\x7d', '\n'])
    (htail : Follows tail) (cs : List Char) : w.isPrefixOf (cs ++ tail) = w.isPrefixOf cs := by
  rw [Bool.eq_iff_iff, List.isPrefixOf_iff_prefix, List.isPrefixOf_iff_prefix]
  refine ⟨fun h => ?_, fun h => h.trans (List.prefix_append cs tail)⟩
  rcases List.prefix_or_prefix_of_prefix h (List.prefix_append cs tail) with hshort | ⟨v, rfl⟩
  · exact hshort
  · have hv : v <+: tail := (List.prefix_append_right_inj cs).1 h
    cases v with
    | nil => simp
    | cons c v =>
      obtain ⟨after, rfl⟩ := hv
      exact absurd (htail c rfl) (hw c (by simp))

/-- Neither a number nor a word goes on in such text. -/
theorem plainValue_append {v : Json} (h : plainValue cs = .ok (v, rest)) (htail : Follows tail) :
    plainValue (cs ++ tail) = .ok (v, rest ++ tail) := by
  have hwords : ∀ w ∈ words, ∀ c ∈ w.1, c ∉ [',', ']', '\x7d', '\n'] := by
    simp [words]
  have hfind : words.find? (fun w => w.1.isPrefixOf (cs ++ tail)) =
      words.find? (fun w => w.1.isPrefixOf cs) :=
    List.find?_congr fun w hw => isPrefixOf_append (hwords w hw) htail cs
  unfold plainValue at h ⊢
  rw [hfind]
  split at h
  · rename_i w u hw
    cases h
    have hw := List.find?_some hw
    have hprefix : w <+: cs := List.isPrefixOf_iff_prefix.1 hw
    rw [List.drop_append_of_le_length hprefix.length_le]
  · split at h
    · cases h
    · rename_i t after ht
      rw [numberText?_append ht htail]
      dsimp only
      split at h
      · cases h
        rfl
      · cases h

theorem ne_nil_of_valueAt {fuel : Nat} {r : Json × List Char} (h : valueAt fuel cs = .ok r) :
    cs ≠ [] := by
  rintro rfl
  cases fuel <;> simp [valueAt, plainValue, words, numberText?, wholeDigits] at h

theorem ne_nil_of_itemsAt {fuel : Nat} {r : List Json × List Char}
    (h : itemsAt fuel cs = .ok r) : cs ≠ [] := by
  cases fuel with
  | zero => cases h
  | succ fuel =>
    unfold itemsAt at h
    obtain ⟨_, hv, _⟩ := bind_eq_ok_iff.1 h
    exact ne_nil_of_valueAt hv

theorem ne_nil_of_membersAt {fuel : Nat} {r : List (String × Json) × List Char}
    (h : membersAt fuel cs = .ok r) : cs ≠ [] := by
  rintro rfl
  cases fuel <;> cases h

theorem append_ne_cons {c : Char} (hne : cs ≠ []) (h : ∀ rest, cs = c :: rest → False)
    (tail rest : List Char) : cs ++ tail ≠ c :: rest := by
  obtain ⟨d, ds, rfl⟩ := List.exists_cons_of_ne_nil hne
  intro he
  obtain ⟨rfl, _⟩ := List.cons.inj he
  exact h ds rfl

/-- What is read with this fuel is read with as much or more where `tail` follows, and `tail` is
left. -/
structure Continues (tail : List Char) (fuel : Nat) : Prop where
  value : ∀ {more cs v rest}, fuel ≤ more → valueAt fuel cs = .ok (v, rest) →
    valueAt more (cs ++ tail) = .ok (v, rest ++ tail)
  items : ∀ {more cs vs rest}, fuel ≤ more → itemsAt fuel cs = .ok (vs, rest) →
    itemsAt more (cs ++ tail) = .ok (vs, rest ++ tail)
  members : ∀ {more cs ms rest}, fuel ≤ more → membersAt fuel cs = .ok (ms, rest) →
    membersAt more (cs ++ tail) = .ok (ms, rest ++ tail)

namespace Continues

variable {fuel more : Nat} {v : Json} {vs : List Json} {ms : List (String × Json)}

/-- A value read with one more unit of fuel reads alike before more text, if values, items and
members with the fuel before do. -/
theorem value_succ (ih : Continues tail fuel) (htail : Follows tail) (hle : fuel ≤ more)
    (h : valueAt (fuel + 1) cs = .ok (v, rest)) :
    valueAt (more + 1) (cs ++ tail) = .ok (v, rest ++ tail) := by
  unfold valueAt at h
  split at h
  · obtain ⟨⟨s, after⟩, hs, h⟩ := bind_eq_ok_iff.1 h
    cases h
    rw [List.cons_append, valueAt]
    exact bind_eq_ok_iff.2 ⟨_, stringValue_append hs (List.cons_ne_nil _ _) tail, rfl⟩
  · split at h
    · rename_i hclose
      cases h
      rw [List.cons_append, valueAt, skipSpace_append_of_cons hclose]
      rfl
    · rename_i hopen
      obtain ⟨⟨vs, after⟩, hvs, h⟩ := bind_eq_ok_iff.1 h
      cases h
      have hne := ne_nil_of_itemsAt hvs
      exact valueAt_items (skipSpace_append_of_ne_nil hne tail) (append_ne_cons hne hopen tail)
        (ih.items hle hvs)
  · split at h
    · rename_i hclose
      cases h
      rw [List.cons_append, valueAt, skipSpace_append_of_cons hclose]
      rfl
    · rename_i hopen
      obtain ⟨⟨pairs, after⟩, hpairs, h⟩ := bind_eq_ok_iff.1 h
      cases h
      have hne := ne_nil_of_membersAt hpairs
      exact valueAt_members (skipSpace_append_of_ne_nil hne tail) (append_ne_cons hne hopen tail)
        (ih.members hle hpairs)
  · rename_i hquote hbracket hbrace
    cases cs with
    | nil => cases h
    | cons c cs =>
      have hc : c ∉ ['"', '[', '\x7b'] := by
        simp only [List.mem_cons, List.not_mem_nil, or_false, not_or]
        exact ⟨fun he => hquote cs (he ▸ rfl), fun he => hbracket cs (he ▸ rfl),
          fun he => hbrace cs (he ▸ rfl)⟩
      rw [List.cons_append, valueAt_plainValue hc]
      exact plainValue_append h htail

theorem items_succ (ih : Continues tail fuel) (hle : fuel ≤ more)
    (h : itemsAt (fuel + 1) cs = .ok (vs, rest)) :
    itemsAt (more + 1) (cs ++ tail) = .ok (vs, rest ++ tail) := by
  unfold itemsAt at h
  obtain ⟨⟨v, after⟩, hv, h⟩ := bind_eq_ok_iff.1 h
  dsimp only at h
  split at h
  · rename_i hclose
    cases h
    exact itemsAt_last (ih.value hle hv) (skipSpace_append_of_cons hclose tail)
  · rename_i hcomma
    obtain ⟨⟨ws, last⟩, hws, h⟩ := bind_eq_ok_iff.1 h
    cases h
    refine itemsAt_more (ih.value hle hv) (skipSpace_append_of_cons hcomma tail) ?_
    rw [skipSpace_append_of_ne_nil (ne_nil_of_itemsAt hws)]
    exact ih.items hle hws
  · cases h

theorem members_succ (ih : Continues tail fuel) (hle : fuel ≤ more)
    (h : membersAt (fuel + 1) cs = .ok (ms, rest)) :
    membersAt (more + 1) (cs ++ tail) = .ok (ms, rest ++ tail) := by
  unfold membersAt at h
  obtain ⟨⟨name, inner⟩, hn, h⟩ := bind_eq_ok_iff.1 h
  obtain ⟨⟨v, after⟩, hv, h⟩ := bind_eq_ok_iff.1 h
  have hn := memberName_append hn (ne_nil_of_valueAt hv) tail
  dsimp only at h
  split at h
  · rename_i hclose
    cases h
    exact membersAt_last hn (ih.value hle hv) (skipSpace_append_of_cons hclose tail)
  · rename_i hcomma
    obtain ⟨⟨pairs, last⟩, hpairs, h⟩ := bind_eq_ok_iff.1 h
    cases h
    refine membersAt_more hn (ih.value hle hv) (skipSpace_append_of_cons hcomma tail) ?_
    rw [skipSpace_append_of_ne_nil (ne_nil_of_membersAt hpairs)]
    exact ih.members hle hpairs
  · cases h

end Continues

/-- Whatever the fuel, what is read as a whole is read alike before text that may follow a value. -/
theorem continues (htail : Follows tail) (fuel : Nat) : Continues tail fuel := by
  induction fuel with
  | zero =>
    refine ⟨fun _ h => ?_, fun _ h => ?_, fun _ h => ?_⟩
    · cases h
    · cases h
    · cases h
  | succ fuel ih =>
    refine ⟨fun hmore h => ?_, fun hmore h => ?_, fun hmore h => ?_⟩
    · obtain ⟨more, rfl⟩ := Nat.exists_eq_add_one.2 (Nat.zero_lt_of_lt hmore)
      exact ih.value_succ htail (Nat.le_of_succ_le_succ hmore) h
    · obtain ⟨more, rfl⟩ := Nat.exists_eq_add_one.2 (Nat.zero_lt_of_lt hmore)
      exact ih.items_succ (Nat.le_of_succ_le_succ hmore) h
    · obtain ⟨more, rfl⟩ := Nat.exists_eq_add_one.2 (Nat.zero_lt_of_lt hmore)
      exact ih.members_succ (Nat.le_of_succ_le_succ hmore) h

/-- What is read as a whole text is read in the place of a value. -/
theorem reads_of_read? {wire : String} {v : Json} (h : read? wire = some v) :
    Reads wire.toList v := by
  obtain ⟨after, hv, hend⟩ := valueAt_of_read? h
  intro fuel rest hrest hfuel
  refine ⟨after ++ rest, ?_, skipSpace_append_of_nil hend rest⟩
  rw [skipSpace_append_of_ne_nil (ne_nil_of_valueAt hv)]
  exact (continues hrest _).value hfuel hv

end RequestChain.Json
