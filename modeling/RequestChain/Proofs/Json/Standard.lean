import RequestChain.Proofs.Json.RoundTrip

namespace RequestChain.Json.Standard

def IsDigits (cs : List Char) : Prop := cs ≠ [] ∧ ∀ c ∈ cs, c.isDigit = true

def IsWhole (cs : List Char) : Prop := cs = ['0'] ∨ IsDigits cs ∧ cs.head? ≠ some '0'

def IsFraction (cs : List Char) : Prop := cs = [] ∨ ∃ ds, cs = '.' :: ds ∧ IsDigits ds

def IsExponent (cs : List Char) : Prop :=
  cs = [] ∨ ∃ e sign ds, cs = e :: (sign ++ ds) ∧ e ∈ ['e', 'E'] ∧
    sign ∈ [[], ['+'], ['-']] ∧ IsDigits ds

inductive IsNumber : List Char → Prop where
  | parts {minus whole fraction exponent : List Char} : minus ∈ [[], ['-']] → IsWhole whole →
      IsFraction fraction → IsExponent exponent →
        IsNumber (minus ++ (whole ++ (fraction ++ exponent)))

/-- What stands for one character of a string, or for half of one that takes two units. -/
inductive IsCharacter : List Char → Prop where
  | plain {c : Char} : c ≠ '"' → c ≠ '\\' → 0x20 ≤ c.toNat → IsCharacter [c]
  | escape {c : Char} : c ∈ ['"', '\\', '/', 'b', 'f', 'n', 'r', 't'] → IsCharacter ['\\', c]
  | unit {a b c d : Char} : (∀ x ∈ [a, b, c, d], (Hex.value? x).isSome = true) →
      IsCharacter ['\\', 'u', a, b, c, d]

inductive IsString : List Char → Prop where
  | quoted {pieces : List (List Char)} : (∀ piece ∈ pieces, IsCharacter piece) →
      IsString ('"' :: (pieces.flatten ++ ['"']))

def IsBlank (cs : List Char) : Prop := cs.all isSpace = true

inductive TextSort where
  | value
  | element
  | items
  | member
  | members

/-- The text is one of this sort. -/
inductive Derives : TextSort → List Char → Prop where
  | word {cs : List Char} : cs ∈ ["null".toList, "true".toList, "false".toList] →
      Derives .value cs
  | number {cs : List Char} : IsNumber cs → Derives .value cs
  | string {cs : List Char} : IsString cs → Derives .value cs
  | emptyArray {blanks : List Char} : IsBlank blanks → Derives .value ('[' :: (blanks ++ [']']))
  | array {cs : List Char} : Derives .items cs → Derives .value ('[' :: (cs ++ [']']))
  | emptyObject {blanks : List Char} : IsBlank blanks →
      Derives .value ('\x7b' :: (blanks ++ ['\x7d']))
  | object {cs : List Char} : Derives .members cs → Derives .value ('\x7b' :: (cs ++ ['\x7d']))
  | element {before cs after : List Char} : IsBlank before → Derives .value cs → IsBlank after →
      Derives .element (before ++ (cs ++ after))
  | lastItem {cs : List Char} : Derives .element cs → Derives .items cs
  | item {cs rest : List Char} : Derives .element cs → Derives .items rest →
      Derives .items (cs ++ ',' :: rest)
  | member {before name after cs : List Char} : IsBlank before → IsString name → IsBlank after →
      Derives .element cs → Derives .member (before ++ (name ++ (after ++ ':' :: cs)))
  | lastMember {cs : List Char} : Derives .member cs → Derives .members cs
  | memberThen {cs rest : List Char} : Derives .member cs → Derives .members rest →
      Derives .members (cs ++ ',' :: rest)

def IsText (cs : List Char) : Prop := Derives .element cs

/-- Where a scan of a text stands: outside of strings, in a string, or after a backslash in one. -/
inductive Scan where
  | outside
  | inside
  | escaped

/-- The rest of the text has a capital N or I outside of strings. -/
def bareCapital : Scan → List Char → Bool
  | _, [] => false
  | .outside, c :: cs =>
    if c = '"' then bareCapital .inside cs
    else (c == 'N' || c == 'I') || bareCapital .outside cs
  | .inside, c :: cs =>
    if c = '"' then bareCapital .outside cs
    else if c = '\\' then bareCapital .escaped cs
    else bareCapital .inside cs
  | .escaped, _ :: cs => bareCapital .inside cs

/-- Whatever follows the characters: `b` says whether they have a capital N or I outside of strings,
and if they have none, the scan goes on after them as it would without them. -/
def Shows (cs : List Char) (b : Bool) : Prop :=
  ∀ rest, bareCapital .outside (cs ++ rest) = (b || bareCapital .outside rest)

theorem shows_nil : Shows [] false := by
  intro rest
  rfl

/-- Two texts one after another show a capital exactly if one of them does. -/
theorem Shows.append {cs ds : List Char} {b b' : Bool} (h : Shows cs b) (h' : Shows ds b') :
    Shows (cs ++ ds) (b || b') := by
  intro rest
  rw [List.append_assoc, h, h', Bool.or_assoc]

def isOrdinary (c : Char) : Bool := c != '"' && c != 'N' && c != 'I'

theorem Shows.cons {c : Char} {cs : List Char} {b : Bool} (hc : isOrdinary c = true)
    (h : Shows cs b) : Shows (c :: cs) b := by
  intro rest
  simp only [isOrdinary, Bool.and_eq_true, bne_iff_ne] at hc
  obtain ⟨⟨hq, hn⟩, hi⟩ := hc
  rw [List.cons_append, bareCapital, if_neg hq, h]
  simp [hn, hi]

theorem shows_of_ordinary {cs : List Char} (h : cs.all isOrdinary = true) : Shows cs false := by
  induction cs with
  | nil => exact shows_nil
  | cons c cs ih =>
    rw [List.all_cons, Bool.and_eq_true] at h
    exact (ih h.2).cons h.1

/-- A test that no quote and none of the two capitals pass is passed by ordinary characters only. -/
theorem shows_of_forall {cs : List Char} {test : Char → Bool} (h : ∀ c ∈ cs, test c = true)
    (ht : ['"', 'N', 'I'].all (fun c => !test c) = true) : Shows cs false := by
  refine shows_of_ordinary (List.all_eq_true.2 fun c hc => ?_)
  have htest := h c hc
  simp only [List.all_cons, List.all_nil, Bool.and_true, Bool.and_eq_true, Bool.not_eq_true'] at ht
  obtain ⟨hq, hn, hi⟩ := ht
  simp only [isOrdinary, Bool.and_eq_true, bne_iff_ne]
  refine ⟨⟨?_, ?_⟩, ?_⟩
  · rintro rfl
    rw [hq] at htest
    cases htest
  · rintro rfl
    rw [hn] at htest
    cases htest
  · rintro rfl
    rw [hi] at htest
    cases htest

theorem shows_digits {cs : List Char} (h : ∀ c ∈ cs, c.isDigit = true) : Shows cs false :=
  shows_of_forall h (by decide)

theorem shows_blank {cs : List Char} (h : IsBlank cs) : Shows cs false :=
  shows_of_forall (List.all_eq_true.1 h) (by decide)

theorem IsNumber.shows {cs : List Char} (h : IsNumber cs) : Shows cs false := by
  cases h with
  | @parts minus whole fraction exponent hminus hwhole hfraction hexponent =>
    have h₁ : Shows minus false := by
      simp only [List.mem_cons, List.not_mem_nil, or_false] at hminus
      rcases hminus with rfl | rfl
      · exact shows_nil
      · exact shows_of_ordinary rfl
    have h₂ : Shows whole false := by
      rcases hwhole with rfl | ⟨⟨_, hd⟩, _⟩
      · exact shows_of_ordinary rfl
      · exact shows_digits hd
    have h₃ : Shows fraction false := by
      rcases hfraction with rfl | ⟨ds, rfl, _, hd⟩
      · exact shows_nil
      · exact (shows_digits hd).cons rfl
    have h₄ : Shows exponent false := by
      rcases hexponent with rfl | ⟨e, sign, ds, rfl, he, hsign, _, hd⟩
      · exact shows_nil
      · have hmark : isOrdinary e = true := by
          simp only [List.mem_cons, List.not_mem_nil, or_false] at he
          rcases he with rfl | rfl <;> rfl
        have hordinary : sign.all isOrdinary = true := by
          simp only [List.mem_cons, List.not_mem_nil, or_false] at hsign
          rcases hsign with rfl | rfl | rfl <;> rfl
        exact ((shows_of_ordinary hordinary).append (shows_digits hd)).cons hmark
    exact h₁.append (h₂.append (h₃.append h₄))

/-- No character within a string, escaped or not, ends the string or shows a capital. -/
theorem bareCapital_inside {piece : List Char} (h : IsCharacter piece) (rest : List Char) :
    bareCapital .inside (piece ++ rest) = bareCapital .inside rest := by
  cases h with
  | plain hq hb _ => simp [bareCapital, hq, hb]
  | escape _ => simp [bareCapital]
  | @unit a b c d hx =>
    -- hexadecimal digits are neither quotes nor backslashes
    have hplain : ∀ x ∈ [a, b, c, d], x ≠ '"' ∧ x ≠ '\\' := by
      intro x hm
      constructor
      · rintro rfl
        cases hx _ hm
      · rintro rfl
        cases hx _ hm
    simp only [List.mem_cons, List.not_mem_nil, or_false, forall_eq_or_imp, forall_eq] at hplain
    obtain ⟨⟨ha, ha'⟩, ⟨hb, hb'⟩, ⟨hc, hc'⟩, hd, hd'⟩ := hplain
    simp [bareCapital, ha, ha', hb, hb', hc, hc', hd, hd']

/-- In a string the two capitals do not count. -/
theorem IsString.shows {cs : List Char} (h : IsString cs) : Shows cs false := by
  cases h with
  | @quoted pieces hp =>
    intro rest
    have hinside : bareCapital .inside (pieces.flatten ++ ('"' :: rest)) =
        bareCapital .outside rest := by
      induction pieces with
      | nil => simp [bareCapital]
      | cons piece pieces ih =>
        rw [List.flatten_cons, List.append_assoc, bareCapital_inside (hp _ List.mem_cons_self)]
        exact ih fun p hm => hp p (List.mem_cons_of_mem _ hm)
    rw [List.cons_append, bareCapital, if_pos rfl, List.append_assoc]
    exact hinside

/-- Every text of the grammar closes its strings and has no capital N or I outside of them. -/
theorem Derives.shows {sort : TextSort} {cs : List Char} (h : Derives sort cs) :
    Shows cs false := by
  induction h with
  | word hm =>
    simp only [List.mem_cons, List.not_mem_nil, or_false] at hm
    rcases hm with rfl | rfl | rfl <;> exact shows_of_ordinary rfl
  | number hn => exact hn.shows
  | string hs => exact hs.shows
  | emptyArray hb => exact ((shows_blank hb).append (shows_of_ordinary rfl)).cons rfl
  | array _ ih => exact (ih.append (shows_of_ordinary rfl)).cons rfl
  | emptyObject hb =>
    exact ((shows_blank hb).append (shows_of_ordinary rfl)).cons rfl
  | object _ ih => exact (ih.append (shows_of_ordinary rfl)).cons rfl
  | element hb _ ha ih => exact (shows_blank hb).append (ih.append (shows_blank ha))
  | lastItem _ ih => exact ih
  | item _ _ ih ih' => exact ih.append (ih'.cons rfl)
  | member hb hs ha _ ih =>
    exact (shows_blank hb).append (hs.shows.append ((shows_blank ha).append (ih.cons rfl)))
  | lastMember _ ih => exact ih
  | memberThen _ _ ih ih' => exact ih.append (ih'.cons rfl)

end RequestChain.Json.Standard
