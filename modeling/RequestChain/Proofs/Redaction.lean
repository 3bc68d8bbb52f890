import RequestChain.Proofs.Json.Levels
import RequestChain.Run.Event

namespace RequestChain

namespace Json

/-- The values differ in nothing but what stands under sensitive names. -/
inductive AgreesInOpen : Json → Json → Prop where
  | null : AgreesInOpen .null .null
  | bool (b : Bool) : AgreesInOpen (.bool b) (.bool b)
  | int (n : Int) : AgreesInOpen (.int n) (.int n)
  | float (x : Double) : AgreesInOpen (.float x) (.float x)
  | str (s : String) : AgreesInOpen (.str s) (.str s)
  | arr {xs ys : List Json} (length : xs.length = ys.length)
      (each : ∀ (i : Nat) v w, xs[i]? = some v → ys[i]? = some w → AgreesInOpen v w) :
      AgreesInOpen (.arr xs) (.arr ys)
  | obj {ms ns : List (String × Json)} (names : ms.map Prod.fst = ns.map Prod.fst)
      (each : ∀ (i : Nat) m n, ms[i]? = some m → ns[i]? = some n → isSensitive m.1 = false →
        AgreesInOpen m.2 n.2) :
      AgreesInOpen (.obj ms) (.obj ns)

def IsMarked (v : Json) : Prop :=
  ∀ u ∈ v.nodes, ∀ m ∈ u.members, isSensitive m.1 = true → m.2 = .str "[REDACTED]"

def shown (m : String × Json) : Json :=
  if isSensitive m.1 then .str "[REDACTED]" else m.2.redact

theorem shown_of_sensitive {m : String × Json} (h : isSensitive m.1 = true) :
    shown m = .str "[REDACTED]" := if_pos h

theorem shown_of_open {m : String × Json} (h : isSensitive m.1 = false) :
    shown m = m.2.redact := if_neg (by simp [h])

theorem redactItems_eq_map (items : List Json) : redactItems items = items.map redact := by
  induction items with
  | nil => rfl
  | cons v vs ih => rw [redactItems, ih, List.map_cons]

theorem redactMembers_eq_map (members : List (String × Json)) :
    redactMembers members = members.map fun m => (m.1, shown m) := by
  induction members with
  | nil => rfl
  | cons m ms ih => rw [redactMembers, ih, List.map_cons, shown]

/-- What stands under sensitive names has no influence on the redacted value. -/
theorem AgreesInOpen.redact_eq {x y : Json} (h : AgreesInOpen x y) : x.redact = y.redact := by
  induction h with
  | null => rfl
  | bool b => rfl
  | int n => rfl
  | float x => rfl
  | str s => rfl
  | arr hlength _ ih =>
    rw [redact, redact, redactItems_eq_map, redactItems_eq_map, map_eq_map_iff.2 ⟨hlength, ih⟩]
  | @obj ms ns hnames _ ih =>
    obtain ⟨hlength, hname⟩ := map_eq_map_iff.1 hnames
    rw [redact, redact, redactMembers_eq_map, redactMembers_eq_map]
    congr 1
    refine map_eq_map_iff.2 ⟨hlength, ?_⟩
    intro i m n hm hn
    have he := hname i m n hm hn
    cases hs : isSensitive m.1 with
    | true => rw [shown_of_sensitive hs, shown_of_sensitive (he ▸ hs), he]
    | false => rw [shown_of_open hs, shown_of_open (he ▸ hs), he, ih i m n hm hn hs]

/-- Nothing else is lost: values that are redacted to one differ only there. -/
theorem agreesInOpen_of_redact_eq {x y : Json} (h : x.redact = y.redact) : AgreesInOpen x y := by
  induction x using byContents generalizing y with
  | step x ih =>
    cases x with
    | null =>
      cases y <;> simp only [redact, reduceCtorEq] at h
      exact .null
    | bool b =>
      cases y <;> simp only [redact, reduceCtorEq, Json.bool.injEq] at h
      exact h ▸ .bool b
    | int n =>
      cases y <;> simp only [redact, reduceCtorEq, Json.int.injEq] at h
      exact h ▸ .int n
    | float d =>
      cases y <;> simp only [redact, reduceCtorEq, Json.float.injEq] at h
      exact h ▸ .float d
    | str s =>
      cases y <;> simp only [redact, reduceCtorEq, Json.str.injEq] at h
      exact h ▸ .str s
    | arr xs =>
      cases y <;> simp only [redact, reduceCtorEq, Json.arr.injEq] at h
      rename_i ys
      rw [redactItems_eq_map, redactItems_eq_map] at h
      obtain ⟨hlength, heach⟩ := map_eq_map_iff.1 h
      refine .arr hlength ?_
      intro i v w hv hw
      exact ih v (List.mem_of_getElem? hv) (heach i v w hv hw)
    | obj ms =>
      cases y <;> simp only [redact, reduceCtorEq, Json.obj.injEq] at h
      rename_i ns
      rw [redactMembers_eq_map, redactMembers_eq_map] at h
      obtain ⟨hlength, heach⟩ := map_eq_map_iff.1 h
      refine .obj (map_eq_map_iff.2 ⟨hlength, ?_⟩) ?_
      · intro i m n hm hn
        exact (Prod.mk.inj (heach i m n hm hn)).1
      · intro i m n hm hn hs
        obtain ⟨he, hshown⟩ := Prod.mk.inj (heach i m n hm hn)
        rw [shown_of_open hs, shown_of_open (he ▸ hs)] at hshown
        exact ih m.2 (List.mem_map_of_mem (List.mem_of_getElem? hm)) hshown

theorem isMarked_iff {v : Json} :
    v.IsMarked ↔ (∀ m ∈ v.members, isSensitive m.1 = true → m.2 = .str "[REDACTED]") ∧
      ∀ u ∈ v.contents, u.IsMarked := by
  rw [IsMarked, nodes_eq, List.forall_mem_cons]
  simp only [List.mem_flatMap, forall_exists_index, and_imp, IsMarked]
  exact and_congr_right fun _ => ⟨fun h u hu w hw => h w u hu hw, fun h w u hu hw => h u hu w hw⟩

theorem members_redact (x : Json) : x.redact.members = x.members.map fun m => (m.1, shown m) := by
  cases x <;> simp only [redact, members, redactMembers_eq_map, List.map_nil]

theorem isMarked_redact (x : Json) : x.redact.IsMarked := by
  induction x using byContents with
  | step x ih =>
    refine isMarked_iff.2 ⟨?_, ?_⟩
    · intro m hm hs
      rw [members_redact] at hm
      obtain ⟨n, _, rfl⟩ := List.mem_map.1 hm
      exact shown_of_sensitive hs
    · cases x with
      | null | bool | int | float | str => simp [redact, contents]
      | arr items =>
        rw [redact, redactItems_eq_map, contents, List.forall_mem_map]
        exact ih
      | obj members =>
        rw [redact, redactMembers_eq_map, contents, List.map_map, List.forall_mem_map]
        intro m hm
        change (shown m).IsMarked
        cases hs : isSensitive m.1 with
        | true =>
          rw [shown_of_sensitive hs]
          exact isMarked_iff.2 ⟨by simp [Json.members], by simp [contents]⟩
        | false =>
          rw [shown_of_open hs]
          exact ih m.2 (List.mem_map_of_mem hm)

/-- Where each sensitive name holds the mark, there is nothing left to hide. -/
theorem redact_of_isMarked {v : Json} (h : v.IsMarked) : v.redact = v := by
  induction v using byContents with
  | step v ih =>
    obtain ⟨hmark, hcontents⟩ := isMarked_iff.1 h
    cases v with
    | null | bool | int | float | str => rfl
    | arr items =>
      have hitems : items.map redact = items :=
        (List.map_congr_left fun u hu => ih u hu (hcontents u hu)).trans (List.map_id items)
      rw [redact, redactItems_eq_map, hitems]
    | obj members =>
      have hmember : ∀ m ∈ members, (m.1, shown m) = m := by
        intro m hm
        have hin : m.2 ∈ (Json.obj members).contents := List.mem_map_of_mem hm
        cases hs : isSensitive m.1 with
        | true => rw [shown_of_sensitive hs, ← hmark m hm hs]
        | false => rw [shown_of_open hs, ih m.2 hin (hcontents m.2 hin)]
      rw [redact, redactMembers_eq_map]
      exact congrArg Json.obj ((List.map_congr_left hmember).trans (List.map_id members))

theorem redact_redact (x : Json) : x.redact.redact = x.redact :=
  redact_of_isMarked (isMarked_redact x)

/-- A name is sensitive if it is one of the sensitive names but for the case of its letters. The
redacted value is the one value that differs from `x` in nothing but what stands under sensitive
names and that holds the mark under each of them, at every depth: arrays keep their lengths, objects
their names in their order, and all else is as it is in `x`. Redacting it again changes nothing. Two
values are redacted to one exactly if they differ in nothing but what stands under sensitive names;
so the log tells of calls with such values as of one call. -/
theorem redaction_hides_what_is_sensitive_and_nothing_else (x : Json) :
    (∀ w, w = x.redact ↔ x.AgreesInOpen w ∧ w.IsMarked) ∧
    x.redact.redact = x.redact ∧
    (∀ y, x.redact = y.redact ↔ x.AgreesInOpen y) ∧
    ∀ (call : Call) y, call.body = x → x.AgreesInOpen y →
      Event.logEntry? (.calling { call with body := y }) = Event.logEntry? (.calling call) := by
  refine ⟨?_, redact_redact x, ?_, ?_⟩
  · intro w
    constructor
    · rintro rfl
      exact ⟨agreesInOpen_of_redact_eq (redact_redact x).symm, isMarked_redact x⟩
    · rintro ⟨hagrees, hmarked⟩
      rw [hagrees.redact_eq, redact_of_isMarked hmarked]
  · intro y
    exact ⟨agreesInOpen_of_redact_eq, AgreesInOpen.redact_eq⟩
  · rintro call y rfl hagrees
    simp only [Event.logEntry?, logged, hagrees.redact_eq]

/-- Secrets of different shapes within an array, under names in capitals; the Kelvin sign is a
`k`. -/
theorem secrets_of_different_shapes_are_logged_alike :
    let value (secret : Json) : Json :=
      .obj [("user", .str "Bob"), ("list", .arr [.obj [("API_\u212aey", secret)], .null])]
    let masked : Json := value (.str "[REDACTED]")
    let call (body : Json) : Call := ⟨"POST", "/login", body, none⟩
    let secret : Json := .obj [("Token", .int 1), ("user", .arr [])]
    (value secret).redact = masked ∧ masked.IsMarked ∧
    (value secret).AgreesInOpen (value (.bool false)) ∧
    Event.logEntry? (.calling (call (value (.bool false)))) =
      Event.logEntry? (.calling (call (value secret))) := by
  intro value masked call secret
  have hsecret : (value secret).redact = masked := by decide +kernel
  have hother : (value (.bool false)).redact = masked := by decide +kernel
  obtain ⟨hunique, _, hagree, hlog⟩ :=
    redaction_hides_what_is_sensitive_and_nothing_else (value secret)
  have hopen := (hagree (value (.bool false))).1 (hsecret.trans hother.symm)
  exact ⟨hsecret, ((hunique masked).1 hsecret.symm).2, hopen,
    hlog (call (value secret)) _ rfl hopen⟩

end Json
end RequestChain
