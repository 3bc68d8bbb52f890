import RequestChain.Proofs.Json.Proper
import RequestChain.Proofs.Text.Replace

namespace RequestChain.Json

open Text

def IsPrintable (c : Char) : Prop := c ≠ '"' ∧ c ≠ '\\' ∧ 0x20 ≤ c.toNat

instance (c : Char) : Decidable (IsPrintable c) :=
  inferInstanceAs (Decidable (c ≠ '"' ∧ c ≠ '\\' ∧ 0x20 ≤ c.toNat))

theorem charText_of_isPrintable {c : Char} (h : IsPrintable c) : charText false c = [c] := by
  obtain ⟨hquote, hbackslash, hlow⟩ := h
  have hne : ∀ d : Char, d.toNat < 0x20 → c ≠ d := by
    rintro d hd rfl
    exact Nat.not_lt.2 hlow hd
  have hcontrol : ∀ d ∈ ['\n', '\r', '\t', '\x08', '\x0c'], c ≠ d := by simp [hne]
  simp only [List.mem_cons, List.not_mem_nil, or_false, forall_eq_or_imp, forall_eq] at hcontrol
  simp [charText, hquote, hbackslash, hcontrol, Nat.not_lt.2 hlow]

theorem quote_of_isPrintable {s : String} (h : ∀ c ∈ s.toList, IsPrintable c) :
    quote false s = '"' :: (s.toList ++ ['"']) := by
  have hself : s.toList.flatMap (charText false) = s.toList.flatMap fun c => [c] := by
    rw [List.flatMap_def, List.flatMap_def,
      List.map_congr_left fun c hc => charText_of_isPrintable (h c hc)]
  rw [quote, hself, List.flatMap_singleton', List.cons_append]

theorem not_mem_numericEscape {n : Nat} (h : n < 0x20) : '{' ∉ numericEscape n := by
  have hall : ∀ n ∈ List.range 0x20, '{' ∉ numericEscape n := by decide
  exact hall n (List.mem_range.2 h)

/-- No character but the brace itself is written with a brace. -/
theorem not_mem_charText {c : Char} (h : c ≠ '{') : '{' ∉ charText false c := by
  unfold charText
  split
  · decide
  split
  · decide
  split
  · decide
  split
  · decide
  split
  · decide
  split
  · decide
  split
  · decide
  split
  · rename_i hc
    exact not_mem_numericEscape (by simpa using hc)
  · simpa using h.symm

theorem not_mem_quote {s : String} (h : '{' ∉ s.toList) : '{' ∉ quote false s := by
  have hinner : '{' ∉ s.toList.flatMap (charText false) := by
    intro hm
    obtain ⟨c, hc, hm⟩ := List.mem_flatMap.1 hm
    exact not_mem_charText (fun he => h (he ▸ hc)) hm
  simpa [quote] using hinner

theorem not_mem_intChars (n : Int) : '{' ∉ intChars n := by
  have hdigits : '{' ∉ Nat.toDigits 10 n.natAbs := by
    intro hm
    exact absurd (Nat.isDigit_of_mem_toDigits (by decide) (by decide) hm) (by decide)
  unfold intChars
  split
  · simpa using hdigits
  · exact hdigits

/-- A text to be replaced that opens a brace. It is longer than an empty object and holds nothing
that stands between the values. -/
structure IsSought (old : List Char) : Prop where
  brace : '{' ∈ old
  long : 2 < old.length
  outside : ∀ c ∈ [' ', '\n', ',', ':'], c ∉ old

variable {old new : List Char} {text text' : String → List Char} {p : Json → Bool}

namespace IsSought

theorem ne_nil (hold : IsSought old) : old ≠ [] := List.ne_nil_of_mem hold.brace

/-- A text that is sought is longer than an empty object, so nothing as short as that changes. -/
theorem replaceFrom_short (hold : IsSought old) (xs : List Char) (h : xs.length ≤ 2) :
    replaceFrom old new 0 xs = xs :=
  replaceFrom_of_length_lt (Nat.lt_of_le_of_lt h hold.long)

/-- Replacing goes on apart on the two sides of a line's start. -/
theorem replaceFrom_lead (hold : IsSought old) (depth : Nat) (xs ys : List Char) :
    replaceFrom old new 0 (xs ++ (Style.pretty.lead depth ++ ys)) =
      replaceFrom old new 0 xs ++ (Style.pretty.lead depth ++ replaceFrom old new 0 ys) := by
  refine replaceFrom_gap hold.ne_nil (by simp [Style.lead, Style.pretty]) ?_ xs ys
  intro c hc
  simp only [Style.lead, Style.pretty, List.mem_cons, List.mem_replicate] at hc
  rcases hc with rfl | ⟨_, rfl⟩
  · exact hold.outside _ (by decide)
  · exact hold.outside _ (by decide)

/-- So it does on the two sides of what separates two items. -/
theorem replaceFrom_between (hold : IsSought old) (depth : Nat) (xs ys : List Char) :
    replaceFrom old new 0 (xs ++ (Style.pretty.between depth ++ ys)) =
      replaceFrom old new 0 xs ++ (Style.pretty.between depth ++ replaceFrom old new 0 ys) := by
  have hcomma : ∀ c ∈ [','], c ∉ old := by
    intro c hc
    rw [List.mem_singleton.1 hc]
    exact hold.outside _ (by decide)
  have hlead : replaceFrom old new 0 (Style.pretty.lead depth ++ ys) =
      Style.pretty.lead depth ++ replaceFrom old new 0 ys := hold.replaceFrom_lead depth [] ys
  have hbetween : Style.pretty.between depth = [','] ++ Style.pretty.lead depth := rfl
  rw [hbetween, List.append_assoc, replaceFrom_gap hold.ne_nil (by simp) hcomma, hlead]
  simp

/-- So it does on the two sides of a colon. -/
theorem replaceFrom_colon (hold : IsSought old) (xs ys : List Char) :
    replaceFrom old new 0 (xs ++ (Style.pretty.colon.toList ++ ys)) =
      replaceFrom old new 0 xs ++ (Style.pretty.colon.toList ++ replaceFrom old new 0 ys) := by
  refine replaceFrom_gap hold.ne_nil (by decide) ?_ xs ys
  have hcolon : ∀ c ∈ Style.pretty.colon.toList, c ∈ [' ', '\n', ',', ':'] := by
    simp [Style.pretty]
  exact fun c hc => hold.outside c (hcolon c hc)

theorem replaceFrom_quote (hold : IsSought old) {name : String} (h : '{' ∉ name.toList) :
    replaceFrom old new 0 (quote Style.pretty.ascii name) = quote Style.pretty.ascii name :=
  replaceFrom_of_not_mem hold.brace (not_mem_quote h)

end IsSought

mutual

/-- Replacing in the text of a value is replacing in the texts of its strings. -/
theorem replaceFrom_charsWith (hold : IsSought old)
    (hstr : ∀ s, p (.str s) = true → replaceFrom old new 0 (text s) = text' s)
    (hobj : ∀ ms, p (.obj ms) = true → ∀ m ∈ ms, '{' ∉ m.1.toList)
    (v : Json) (depth : Nat) (hf : v.isFloatFree = true) (hv : v.everywhere p = true) :
    replaceFrom old new 0 (charsWith text .pretty depth v) =
      charsWith text' .pretty depth v := by
  match v with
  | .null => exact replaceFrom_of_not_mem hold.brace (by simp [charsWith, chars])
  | .bool true => exact replaceFrom_of_not_mem hold.brace (by simp [charsWith, chars])
  | .bool false => exact replaceFrom_of_not_mem hold.brace (by simp [charsWith, chars])
  | .int n => exact replaceFrom_of_not_mem hold.brace (not_mem_intChars n)
  | .float x => cases hf
  | .str s => exact hstr s hv
  | .arr [] => exact hold.replaceFrom_short _ (Nat.le_refl 2)
  | .arr (w :: ws) =>
    simp only [isFloatFree, everywhere, everywhereInItems, Bool.and_eq_true] at hf hv
    have hw := replaceFrom_charsWith hold hstr hobj w (depth + 1) hf.2.1 hv.2.1
    have hws := replaceFrom_itemsWith hold hstr hobj ws (depth + 1) depth hf.2.2 hv.2.2
      (charsWith text .pretty (depth + 1) w)
    have hopen : ∀ cs : List Char, '[' :: cs = ['['] ++ cs := fun _ => rfl
    simp only [charsWith, List.cons_append, List.append_assoc]
    rw [hopen, hold.replaceFrom_lead, hws, hw, hold.replaceFrom_short ['['] (by decide)]
    simp
  | .obj [] => exact hold.replaceFrom_short _ (Nat.le_refl 2)
  | .obj ((name, w) :: ms) =>
    simp only [isFloatFree, everywhere, everywhereInMembers, Bool.and_eq_true] at hf hv
    have hnames := List.forall_mem_cons.1 (hobj _ hv.1)
    have hw := replaceFrom_charsWith hold hstr hobj w (depth + 1) hf.2.1 hv.2.1
    have hms := replaceFrom_membersWith hold hstr hobj ms (depth + 1) depth hf.2.2 hnames.2 hv.2.2
      (charsWith text .pretty (depth + 1) w)
    have hopen : ∀ cs : List Char, '{' :: cs = ['{'] ++ cs := fun _ => rfl
    simp only [charsWith, List.cons_append, List.append_assoc]
    rw [hopen, hold.replaceFrom_lead, hold.replaceFrom_colon, hold.replaceFrom_quote hnames.1, hms,
      hw, hold.replaceFrom_short ['{'] (by decide)]
    simp

/-- The same in further items, after any text. -/
theorem replaceFrom_itemsWith (hold : IsSought old)
    (hstr : ∀ s, p (.str s) = true → replaceFrom old new 0 (text s) = text' s)
    (hobj : ∀ ms, p (.obj ms) = true → ∀ m ∈ ms, '{' ∉ m.1.toList)
    (vs : List Json) (depth outer : Nat) (hf : everywhereInItems isNoFloat vs = true)
    (hvs : everywhereInItems p vs = true) (xs : List Char) :
    replaceFrom old new 0 (xs ++ (itemsWith text .pretty depth vs ++
        (Style.pretty.lead outer ++ [']']))) =
      replaceFrom old new 0 xs ++ (itemsWith text' .pretty depth vs ++
        (Style.pretty.lead outer ++ [']'])) := by
  match vs with
  | [] =>
    rw [itemsWith, itemsWith, List.nil_append, hold.replaceFrom_lead,
      hold.replaceFrom_short [']'] (by decide)]
  | w :: ws =>
    simp only [everywhereInItems, Bool.and_eq_true] at hf hvs
    have hw := replaceFrom_charsWith hold hstr hobj w depth hf.1 hvs.1
    have hws := replaceFrom_itemsWith hold hstr hobj ws depth outer hf.2 hvs.2
      (charsWith text .pretty depth w)
    simp only [itemsWith, List.append_assoc]
    rw [hold.replaceFrom_between, hws, hw]

/-- The same in further members, after any text. -/
theorem replaceFrom_membersWith (hold : IsSought old)
    (hstr : ∀ s, p (.str s) = true → replaceFrom old new 0 (text s) = text' s)
    (hobj : ∀ ms, p (.obj ms) = true → ∀ m ∈ ms, '{' ∉ m.1.toList)
    (ms : List (String × Json)) (depth outer : Nat) (hf : everywhereInMembers isNoFloat ms = true)
    (hnames : ∀ m ∈ ms, '{' ∉ m.1.toList) (hms : everywhereInMembers p ms = true)
    (xs : List Char) :
    replaceFrom old new 0 (xs ++ (membersWith text .pretty depth ms ++
        (Style.pretty.lead outer ++ ['}']))) =
      replaceFrom old new 0 xs ++ (membersWith text' .pretty depth ms ++
        (Style.pretty.lead outer ++ ['}'])) := by
  match ms with
  | [] =>
    rw [membersWith, membersWith, List.nil_append, hold.replaceFrom_lead,
      hold.replaceFrom_short ['}'] (by decide)]
  | (name, w) :: ms =>
    simp only [everywhereInMembers, Bool.and_eq_true] at hf hms
    have hnames := List.forall_mem_cons.1 hnames
    have hw := replaceFrom_charsWith hold hstr hobj w depth hf.1 hms.1
    have hrest := replaceFrom_membersWith hold hstr hobj ms depth outer hf.2 hnames.2 hms.2
      (charsWith text .pretty depth w)
    simp only [membersWith, List.append_assoc]
    rw [hold.replaceFrom_between, hold.replaceFrom_colon, hold.replaceFrom_quote hnames.1, hrest,
      hw]

end

end RequestChain.Json
