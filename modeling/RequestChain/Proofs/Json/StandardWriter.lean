import RequestChain.Json.Finite
import RequestChain.Proofs.Number.Shortest

namespace RequestChain.Json

open Standard

theorem membersAreFinite_iff {members : List (String × Json)} :
    membersAreFinite members = true ↔ ∀ m ∈ members, m.2.isFinite = true := by
  induction members with
  | nil => simp [membersAreFinite]
  | cons m ms ih =>
    obtain ⟨name, v⟩ := m
    simp [membersAreFinite, ih]

theorem isNumber_intChars (n : Int) : IsNumber (intChars n) := by
  have hwhole : IsWhole (Nat.toDigits 10 n.natAbs) := by
    rcases Nat.eq_zero_or_pos n.natAbs with h0 | hpos
    · rw [h0]
      exact .inl rfl
    · obtain ⟨c, cs, he, hc⟩ := toDigits_eq_cons hpos
      exact .inr ⟨isDigits_toDigits _, by simpa [he] using hc⟩
  have hnumber : ∀ minus ∈ [[], ['-']], IsNumber (minus ++ Nat.toDigits 10 n.natAbs) := by
    intro minus hm
    simpa using IsNumber.parts hm hwhole (.inl rfl) (.inl rfl)
  unfold intChars
  split
  · exact hnumber ['-'] (by simp)
  · exact hnumber [] (by simp)

/-- A control character is written as one unit. -/
theorem isCharacter_numericEscape {n : Nat} (h : n < 0x20) : IsCharacter (numericEscape n) := by
  rw [numericEscape, if_pos (by omega)]
  refine .unit fun x hx => ?_
  have hdigit : ∀ k, (Hex.value? (Hex.digit (k % 16))).isSome = true := by
    intro k
    rw [Hex.value?_digit (Nat.mod_lt _ (by decide))]
    rfl
  simp only [List.mem_cons, List.not_mem_nil, or_false] at hx
  rcases hx with rfl | rfl | rfl | rfl
  · exact hdigit _
  · exact hdigit _
  · exact hdigit _
  · exact hdigit _

/-- Each character is written as standard JSON allows. -/
theorem isCharacter_charText (c : Char) : IsCharacter (charText false c) := by
  have hescape : ∀ x ∈ ['"', '\\', '/', 'b', 'f', 'n', 'r', 't'], IsCharacter ['\\', x] :=
    fun x hx => .escape hx
  unfold charText
  split
  · exact hescape '"' (by decide)
  split
  · exact hescape '\\' (by decide)
  split
  · exact hescape 'n' (by decide)
  split
  · exact hescape 'r' (by decide)
  split
  · exact hescape 't' (by decide)
  split
  · exact hescape 'b' (by decide)
  split
  · exact hescape 'f' (by decide)
  split
  · rename_i h
    exact isCharacter_numericEscape (by simpa using h)
  · rename_i hq hb _ _ _ _ _ h
    exact .plain hq hb (Nat.le_of_not_lt (by simpa using h))

theorem isString_quote (s : String) : IsString (quote false s) := by
  have hpieces : quote false s = '"' :: ((s.toList.map (charText false)).flatten ++ ['"']) := by
    rw [quote, List.flatMap_def]
    rfl
  rw [hpieces]
  refine .quoted fun piece hp => ?_
  obtain ⟨c, _, rfl⟩ := List.mem_map.1 hp
  exact isCharacter_charText c

theorem isBlank_nil : IsBlank [] := rfl

theorem isBlank_append {cs ds : List Char} (h : IsBlank cs) (h' : IsBlank ds) :
    IsBlank (cs ++ ds) := by
  rw [IsBlank, List.all_append, Bool.and_eq_true]
  exact ⟨h, h'⟩

variable {style : Style}

mutual

/-- The text of a value without NaN and the infinities is a value of the grammar. -/
theorem derives_chars (hst : style.IsReadable) (v : Json) (depth : Nat)
    (hv : v.isFinite = true) : Derives .value (chars style depth v) := by
  match v with
  | .null => exact .word (by simp [chars])
  | .bool true => exact .word (by simp [chars])
  | .bool false => exact .word (by simp [chars])
  | .int n => exact .number (isNumber_intChars n)
  | .float (.finite negative m e) => exact .number (isNumber_chars floatWords negative m e)
  | .float .nan => simp [isFinite] at hv
  | .float (.infinite _) => simp [isFinite] at hv
  | .str s =>
    rw [chars, hst.ascii]
    exact .string (isString_quote s)
  | .arr [] => exact .emptyArray isBlank_nil
  | .arr (w :: ws) =>
    simp only [isFinite, areFinite, Bool.and_eq_true] at hv
    have hw := derives_chars hst w (depth + 1) hv.1
    have hitems := derives_itemsChars hst ws (depth + 1) hv.2 (all_isSpace_lead style (depth + 1))
      hw (all_isSpace_lead style depth)
    simpa [chars] using Derives.array hitems
  | .obj [] => exact .emptyObject isBlank_nil
  | .obj ((name, w) :: ms) =>
    simp only [isFinite, membersAreFinite, Bool.and_eq_true] at hv
    have hw := derives_chars hst w (depth + 1) hv.1
    have hmembers := derives_membersChars hst ms (depth + 1) hv.2 name
      (all_isSpace_lead style (depth + 1)) hw (all_isSpace_lead style depth)
    simpa [chars] using Derives.object hmembers

/-- An item and its further items are items of the grammar. -/
theorem derives_itemsChars (hst : style.IsReadable) (vs : List Json) (depth : Nat)
    (hvs : areFinite vs = true) {before cs after : List Char} (hb : IsBlank before)
    (hcs : Derives .value cs) (ha : IsBlank after) :
    Derives .items (before ++ (cs ++ (itemsChars style depth vs ++ after))) := by
  match vs with
  | [] => exact .lastItem (.element hb hcs ha)
  | w :: ws =>
    simp only [areFinite, Bool.and_eq_true] at hvs
    have hw := derives_chars hst w depth hvs.1
    have hrest := derives_itemsChars hst ws depth hvs.2
      (isBlank_append hst.gap (all_isSpace_lead style depth)) hw ha
    have hfirst := Derives.element hb hcs isBlank_nil
    simpa [itemsChars, Style.between] using Derives.item hfirst hrest

/-- A member and its further members are members of the grammar. -/
theorem derives_membersChars (hst : style.IsReadable) (ms : List (String × Json)) (depth : Nat)
    (hms : membersAreFinite ms = true) (name : String) {before cs after : List Char}
    (hb : IsBlank before) (hcs : Derives .value cs) (ha : IsBlank after) :
    Derives .members (before ++ (quote style.ascii name ++ (style.colon.toList ++
      (cs ++ (membersChars style depth ms ++ after))))) := by
  obtain ⟨blanks, hcolon, hblanks⟩ := hst.colon
  rw [hst.ascii, hcolon]
  match ms with
  | [] =>
    have helement := Derives.element hblanks hcs ha
    have hmember := Derives.member hb (isString_quote name) isBlank_nil helement
    simpa [membersChars] using Derives.lastMember hmember
  | (other, w) :: ms =>
    simp only [membersAreFinite, Bool.and_eq_true] at hms
    have hw := derives_chars hst w depth hms.1
    have hrest := derives_membersChars hst ms depth hms.2 other
      (isBlank_append hst.gap (all_isSpace_lead style depth)) hw ha
    rw [hst.ascii, hcolon] at hrest
    have helement := Derives.element hblanks hcs isBlank_nil
    have hmember := Derives.member hb (isString_quote name) isBlank_nil helement
    simpa [membersChars, Style.between, hst.ascii, hcolon] using Derives.memberThen hmember hrest

end

theorem Standard.shows_between (hst : style.IsReadable) (depth : Nat) :
    Shows (style.between depth) false := by
  have hblank : IsBlank (style.gap.toList ++ style.lead depth) :=
    isBlank_append hst.gap (all_isSpace_lead style depth)
  exact (shows_blank hblank).cons rfl

theorem Standard.shows_quote (hst : style.IsReadable) (s : String) :
    Shows (quote style.ascii s) false := by
  rw [hst.ascii]
  exact (isString_quote s).shows

theorem Standard.shows_colon (hst : style.IsReadable) : Shows style.colon.toList false := by
  obtain ⟨blanks, hcolon, hblanks⟩ := hst.colon
  rw [hcolon]
  exact (shows_blank hblanks).cons rfl

/-- A word that starts with one of the two capitals shows it. -/
theorem Standard.shows_word {c : Char} (hc : c = 'N' ∨ c = 'I') (cs : List Char) :
    Shows (c :: cs) true := by
  intro rest
  have hq : c ≠ '"' := by rcases hc with rfl | rfl <;> decide
  have hseen : (c == 'N' || c == 'I') = true := by rcases hc with rfl | rfl <;> rfl
  rw [List.cons_append, bareCapital, if_neg hq, hseen]
  rfl

mutual

/-- Outside of its strings the text of a value has a capital N or I exactly if it holds NaN or an
infinity. -/
theorem shows_chars (hst : style.IsReadable) (v : Json) (depth : Nat) :
    Shows (chars style depth v) (!v.isFinite) := by
  match v with
  | .null => exact (derives_chars hst .null depth rfl).shows
  | .bool b => exact (derives_chars hst (.bool b) depth rfl).shows
  | .int n => exact (isNumber_intChars n).shows
  | .float (.finite negative m e) => exact (isNumber_chars floatWords negative m e).shows
  | .float .nan => exact shows_word (.inl rfl) _
  | .float (.infinite false) => exact shows_word (.inr rfl) _
  | .float (.infinite true) => exact (shows_word (.inr rfl) _).cons rfl
  | .str s => exact shows_quote hst s
  | .arr [] => exact (derives_chars hst (.arr []) depth rfl).shows
  | .arr (w :: ws) =>
    have hlead := shows_blank (all_isSpace_lead style (depth + 1))
    have hend := shows_blank (all_isSpace_lead style depth)
    have hw := shows_chars hst w (depth + 1)
    have hws := shows_itemsChars hst ws (depth + 1)
    have hclose : Shows [']'] false := shows_of_ordinary rfl
    have hopen : isOrdinary '[' = true := rfl
    have hall := (hlead.append (hw.append (hws.append (hend.append hclose)))).cons hopen
    simpa [chars, isFinite, areFinite] using hall
  | .obj [] => exact (derives_chars hst (.obj []) depth rfl).shows
  | .obj ((name, w) :: ms) =>
    have hlead := shows_blank (all_isSpace_lead style (depth + 1))
    have hend := shows_blank (all_isSpace_lead style depth)
    have hname := (shows_quote hst name).append (shows_colon hst)
    have hw := shows_chars hst w (depth + 1)
    have hms := shows_membersChars hst ms (depth + 1)
    have hclose : Shows ['\x7d'] false := shows_of_ordinary rfl
    have hopen : isOrdinary '\x7b' = true := rfl
    have hinner := hname.append (hw.append (hms.append (hend.append hclose)))
    have hall := (hlead.append hinner).cons hopen
    simpa [chars, isFinite, membersAreFinite] using hall

theorem shows_itemsChars (hst : style.IsReadable) (vs : List Json) (depth : Nat) :
    Shows (itemsChars style depth vs) (!areFinite vs) := by
  match vs with
  | [] => exact shows_nil
  | w :: ws =>
    have hw := shows_chars hst w depth
    have hws := shows_itemsChars hst ws depth
    simpa [itemsChars, areFinite] using ((shows_between hst depth).append hw).append hws

theorem shows_membersChars (hst : style.IsReadable) (ms : List (String × Json)) (depth : Nat) :
    Shows (membersChars style depth ms) (!membersAreFinite ms) := by
  match ms with
  | [] => exact shows_nil
  | (name, w) :: ms =>
    have hname := (shows_between hst depth).append (shows_quote hst name)
    have hw := shows_chars hst w depth
    have hms := shows_membersChars hst ms depth
    simpa [membersChars, membersAreFinite] using
      ((hname.append (shows_colon hst)).append hw).append hms

end

/-- The text of a value is standard JSON exactly if the value holds neither NaN nor an infinity. -/
theorem isText_write_iff (hst : style.IsReadable) {v : Json} {after : List Char}
    (ha : IsBlank after) :
    IsText ((v.write style).toList ++ after) ↔ v.isFinite = true := by
  rw [write, String.toList_ofList]
  constructor
  · intro h
    have hnone := h.shows []
    have hseen := ((shows_chars hst v 0).append (shows_blank ha)) []
    rw [hseen] at hnone
    simpa [bareCapital] using hnone
  · intro hv
    exact .element isBlank_nil (derives_chars hst v 0 hv) ha

end RequestChain.Json
