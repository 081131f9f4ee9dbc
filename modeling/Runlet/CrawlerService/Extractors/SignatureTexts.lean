import Runlet.Library.LowerCase
import Runlet.Library.Words
import Runlet.CrawlerService.Extractors.StateSignatures

/-!
# The texts of a signature

A signature joins texts with colons: the route, and one text for each entry that is written.  No
text of an entry ends with a blank, so that stripping a signature takes away the blanks before the
route and nothing else (`toList_strip_buildStateSignature`).
-/

namespace Runlet
namespace StateProbe

/-! ## Values -/

/-- The characters of numbers. -/
def isNumeric (c : Char) : Bool :=
  c.isDigit || decide (c ∈ ['.', 'e', '+', '-'])

theorem isSpace_of_isNumeric {c : Char} (h : isNumeric c = true) : Text.isSpace c = false := by
  rcases Bool.or_eq_true_iff.mp h with h | h
  · exact Text.isSpace_of_isDigit h
  · simp only [List.mem_cons, List.not_mem_nil, or_false, decide_eq_true_eq] at h
    rcases h with rfl | rfl | rfl | rfl <;> decide

theorem isNumeric_of_mem_toDigits {n : ℕ} {c : Char} (h : c ∈ Nat.toDigits 10 n) :
    isNumeric c = true :=
  Bool.or_eq_true_iff.mpr (.inl (Nat.isDigit_of_mem_toDigits (by decide) (by decide) h))

theorem isNumeric_of_mem_pointed {whole : ℕ} {digits : List Char}
    (h : ∀ c ∈ digits, isNumeric c = true) : ∀ c ∈ pointed whole digits, isNumeric c = true := by
  intro c hc
  have htake : ∀ c ∈ digits.take whole, isNumeric c = true := fun c hc =>
    h c (List.mem_of_mem_take hc)
  unfold pointed at hc
  dsimp only at hc
  split_ifs at hc
  · exact htake c hc
  · rcases List.mem_append.mp hc with hc | hc
    · exact htake c hc
    · rcases List.mem_cons.mp hc with rfl | hc
      · decide
      · have hinitial := List.rdropWhile_prefix (· == '0') (digits.drop whole)
        exact h c (List.mem_of_mem_drop (hinitial.subset hc))

theorem isNumeric_of_mem_exponent {power : Int} :
    ∀ c ∈ exponent power, isNumeric c = true := by
  intro c hc
  unfold exponent at hc
  dsimp only at hc
  rcases List.mem_append.mp hc with hc | hc
  · split_ifs at hc
    · rcases List.mem_cons.mp hc with rfl | hc
      · decide
      · rw [List.mem_singleton.mp hc]
        decide
    · rcases List.mem_cons.mp hc with rfl | hc
      · decide
      · rw [List.mem_singleton.mp hc]
        decide
  · split_ifs at hc
    · rcases List.mem_cons.mp hc with rfl | hc
      · decide
      · exact isNumeric_of_mem_toDigits hc
    · exact isNumeric_of_mem_toDigits hc

theorem isNumeric_of_mem_sixDigits (q : Rat) : ∀ c ∈ (sixDigits q).1, isNumeric c = true := by
  have hrounded : ∀ (digits : ℕ) (power : Int),
      ∀ c ∈ (if digits = 10 ^ 6 then ("100000".toList, power + 1)
        else (Nat.toDigits 10 digits, power)).1, isNumeric c = true := by
    intro digits power
    split_ifs
    · exact Text.forall_mem_toList (by decide)
    · exact fun c hc => isNumeric_of_mem_toDigits hc
  exact hrounded _ (leadingPower q)

/-- The digits of a number, with a point and a power of ten. -/
theorem isNumeric_of_mem_magnitude {digits : List Char} (h : ∀ c ∈ digits, isNumeric c = true)
    (power : Int) : ∀ c ∈ (if power < -4 || 6 ≤ power then pointed 1 digits ++ exponent power
      else if 0 ≤ power then pointed (power.toNat + 1) digits
      else pointed 1 (List.replicate power.natAbs '0' ++ digits)), isNumeric c = true := by
  intro c hc
  split_ifs at hc
  · rcases List.mem_append.mp hc with hc | hc
    · exact isNumeric_of_mem_pointed h c hc
    · exact isNumeric_of_mem_exponent c hc
  · exact isNumeric_of_mem_pointed h c hc
  · refine isNumeric_of_mem_pointed (fun c hc => ?_) c hc
    rcases List.mem_append.mp hc with hc | hc
    · rw [List.eq_of_mem_replicate hc]
      decide
    · exact h c hc

theorem isNumeric_of_mem_formatGeneral (q : Rat) :
    ∀ c ∈ (formatGeneral q).toList, isNumeric c = true := by
  have hmagnitude := isNumeric_of_mem_magnitude (isNumeric_of_mem_sixDigits q) (sixDigits q).2
  unfold formatGeneral
  dsimp only
  rw [String.toList_ofList]
  intro c hc
  by_cases hq : q < 0
  · rw [if_pos hq] at hc
    rcases List.mem_cons.mp hc with rfl | hc
    · decide
    · exact hmagnitude c hc
  · rw [if_neg hq] at hc
    exact hmagnitude c hc

theorem isNumeric_of_mem_toString (n : Int) : ∀ c ∈ (toString n).toList, isNumeric c = true := by
  rw [Int.toString_eq_repr, Int.repr_eq_if]
  intro c hc
  by_cases hn : 0 ≤ n
  · rw [if_pos hn, Nat.toList_repr] at hc
    exact isNumeric_of_mem_toDigits hc
  · rw [if_neg hn, String.toList_append, Nat.toList_repr] at hc
    rcases List.mem_append.mp hc with hc | hc
    · have hminus : ∀ c ∈ "-".toList, isNumeric c = true := Text.forall_mem_toList (by decide)
      exact hminus c hc
    · exact isNumeric_of_mem_toDigits hc

/-- The numbers have digits. -/
theorem pointed_ne_nil {whole : ℕ} {digits : List Char} (hwhole : whole ≠ 0) (h : digits ≠ []) :
    pointed whole digits ≠ [] := by
  have htake : digits.take whole ≠ [] := fun hnil =>
    (List.take_eq_nil_iff.mp hnil).elim hwhole h
  unfold pointed
  dsimp only
  split_ifs
  · exact htake
  · exact List.append_ne_nil_of_left_ne_nil htake _

theorem sixDigits_ne_nil (q : Rat) : (sixDigits q).1 ≠ [] := by
  have hrounded : ∀ (digits : ℕ) (power : Int),
      (if digits = 10 ^ 6 then ("100000".toList, power + 1)
        else (Nat.toDigits 10 digits, power)).1 ≠ [] := by
    intro digits power
    split_ifs
    · exact (by decide : "100000".toList ≠ [])
    · exact Nat.toDigits_ne_nil
  exact hrounded _ (leadingPower q)

theorem formatGeneral_ne_empty (q : Rat) : formatGeneral q ≠ "" := by
  have hdigits := sixDigits_ne_nil q
  have hmagnitude : (if (sixDigits q).2 < -4 || 6 ≤ (sixDigits q).2 then
      pointed 1 (sixDigits q).1 ++ exponent (sixDigits q).2
    else if 0 ≤ (sixDigits q).2 then pointed ((sixDigits q).2.toNat + 1) (sixDigits q).1
    else pointed 1 (List.replicate (sixDigits q).2.natAbs '0' ++ (sixDigits q).1)) ≠ [] := by
    split_ifs
    · exact List.append_ne_nil_of_left_ne_nil (pointed_ne_nil (by decide) hdigits) _
    · exact pointed_ne_nil (Nat.succ_ne_zero _) hdigits
    · exact pointed_ne_nil (by decide) (List.append_ne_nil_of_right_ne_nil _ hdigits)
  intro hempty
  have hnil := congrArg String.toList hempty
  unfold formatGeneral at hnil
  dsimp only at hnil
  rw [String.toList_ofList] at hnil
  by_cases hq : q < 0
  · rw [if_pos hq] at hnil
    exact List.cons_ne_nil _ _ hnil
  · rw [if_neg hq] at hnil
    exact hmagnitude hnil

theorem toString_ne_empty (n : Int) : toString n ≠ "" := by
  rw [Int.toString_eq_repr, Int.repr_eq_if]
  intro hempty
  have hnil := congrArg String.toList hempty
  by_cases hn : 0 ≤ n
  · rw [if_pos hn, Nat.toList_repr] at hnil
    exact Nat.toDigits_ne_nil hnil
  · rw [if_neg hn, String.toList_append, Nat.toList_repr] at hnil
    exact List.append_ne_nil_of_right_ne_nil _ Nat.toDigits_ne_nil hnil

theorem ne_empty_of_normalizeSignatureValue {v : Json} {value : String}
    (h : normalizeSignatureValue v = some value) : value ≠ "" := by
  cases v with
  | bool b =>
    rw [← Option.some.inj h]
    cases b <;> decide
  | int n =>
    rw [← Option.some.inj h]
    exact toString_ne_empty n
  | float text q =>
    rw [← Option.some.inj h]
    split_ifs
    · exact toString_ne_empty q.num
    · exact formatGeneral_ne_empty q
  | str s =>
    simp only [normalizeSignatureValue] at h
    split_ifs at h with hempty
    rw [← Option.some.inj h]
    exact hempty
  | _ => exact nomatch h

/-- A value has no blanks at its ends. -/
theorem strip_of_normalizeSignatureValue {v : Json} {value : String}
    (h : normalizeSignatureValue v = some value) : Text.strip value = value := by
  have hnumeric : ∀ s : String, (∀ c ∈ s.toList, isNumeric c = true) → Text.strip s = s :=
    fun s hs => Text.strip_of_isWord fun c hc => isSpace_of_isNumeric (hs c hc)
  cases v with
  | bool b =>
    rw [← Option.some.inj h]
    cases b <;> decide
  | int n =>
    rw [← Option.some.inj h]
    exact hnumeric _ (isNumeric_of_mem_toString n)
  | float text q =>
    rw [← Option.some.inj h]
    split_ifs
    · exact hnumeric _ (isNumeric_of_mem_toString q.num)
    · exact hnumeric _ (isNumeric_of_mem_formatGeneral q)
  | str s =>
    simp only [normalizeSignatureValue] at h
    split_ifs at h
    rw [← Option.some.inj h]
    refine Text.strip_replaceChar (fun _ => by decide) ?_
    exact Text.strip_lower (Text.strip_strip s)
  | null => cases h
  | arr l => cases h
  | obj l => cases h

/-! ## Texts -/

/-- What the context adds to a signature. -/
def suffixes (stateContext : List (String × Json)) : List String :=
  labelledKeys.filterMap (labelledSuffix stateContext) ++
    (sortedKeys stateContext).filterMap (extraField stateContext)

/-- The texts after the route. -/
def writtenTexts (stateContext : List (String × Json)) : List String :=
  if (suffixes stateContext).isEmpty then ["default"] else suffixes stateContext

theorem buildStateSignature_eq (routePath : String) (stateContext : List (String × Json)) :
    buildStateSignature routePath stateContext =
      Text.joinWith ":" (routeSegment routePath :: writtenTexts stateContext) :=
  rfl

theorem writtenTexts_ne_nil (stateContext : List (String × Json)) :
    writtenTexts stateContext ≠ [] := by
  unfold writtenTexts
  split_ifs with h
  · exact List.cons_ne_nil _ _
  · exact fun hnil => h (List.isEmpty_iff.mpr hnil)

theorem extraField_eq_some_iff {stateContext : List (String × Json)} {key text : String} :
    extraField stateContext key = some text ↔ key ∉ labelledKeys.map (·.1) ∧ extraKey key ≠ "" ∧
      ∃ value, contextValue stateContext key = some value ∧ extraKey key ++ "=" ++ value = text := by
  unfold extraField
  by_cases hkey : key ∈ labelledKeys.map (·.1)
  · rw [if_pos hkey]
    exact iff_of_false (fun h => nomatch h) fun h => h.1 hkey
  · rw [if_neg hkey, Option.bind_eq_some_iff]
    by_cases hname : extraKey key = ""
    · simp only [if_pos hname]
      exact iff_of_false (fun ⟨_, _, h⟩ => nomatch h) fun h => h.2.1 hname
    · simp only [if_neg hname, Option.some.injEq]
      exact ⟨fun h => ⟨hkey, hname, h⟩, fun h => h.2.2⟩

/-- A text whose last character is no blank. -/
def EndsPlain (l : List Char) : Prop :=
  ∃ c, l.getLast? = some c ∧ Text.isSpace c = false

theorem EndsPlain.append (l : List Char) {r : List Char} (h : EndsPlain r) : EndsPlain (l ++ r) := by
  obtain ⟨c, hc, hplain⟩ := h
  exact ⟨c, by rw [List.getLast?_append, hc, Option.some_or], hplain⟩

/-- A label and a value. -/
theorem EndsPlain.append_value {label value : String} (hlabel : EndsPlain label.toList)
    (hvalue : Text.strip value = value) : EndsPlain (label ++ value).toList := by
  have hlast := Text.getLast?_stripList Text.isSpace value.toList
  have hlist : Text.stripList Text.isSpace value.toList = value.toList := by
    rw [← String.toList_ofList (l := Text.stripList _ _)]
    exact congrArg String.toList hvalue
  rw [hlist] at hlast
  rw [String.toList_append]
  cases hc : value.toList.getLast? with
  | none =>
    rw [List.getLast?_eq_none_iff.mp hc, List.append_nil]
    exact hlabel
  | some c => exact EndsPlain.append _ ⟨c, hc, hlast c hc⟩

theorem strip_of_contextValue {stateContext : List (String × Json)} {key value : String}
    (h : contextValue stateContext key = some value) : Text.strip value = value := by
  obtain ⟨v, -, hv⟩ := Option.bind_eq_some_iff.mp h
  exact strip_of_normalizeSignatureValue hv

theorem ne_empty_of_contextValue {stateContext : List (String × Json)} {key value : String}
    (h : contextValue stateContext key = some value) : value ≠ "" := by
  obtain ⟨v, -, hv⟩ := Option.bind_eq_some_iff.mp h
  exact ne_empty_of_normalizeSignatureValue hv

theorem endsPlain_equals (s : String) : EndsPlain (s ++ "=").toList := by
  rw [String.toList_append]
  exact EndsPlain.append _ ⟨'=', rfl, by decide⟩

theorem endsPlain_of_mem_suffixes {stateContext : List (String × Json)} {text : String}
    (h : text ∈ suffixes stateContext) : EndsPlain text.toList := by
  rcases List.mem_append.mp h with h | h
  · obtain ⟨entry, hentry, htext⟩ := List.mem_filterMap.mp h
    obtain ⟨value, hvalue, rfl⟩ := Option.map_eq_some_iff.mp htext
    split_ifs
    · exact ⟨'t', by decide, by decide⟩
    · refine EndsPlain.append_value ?_ (strip_of_contextValue hvalue)
      have hlabels : ∀ entry ∈ labelledKeys, entry.2.toList.getLast? = some '=' := by decide
      exact ⟨'=', hlabels entry hentry, by decide⟩
  · obtain ⟨key, -, htext⟩ := List.mem_filterMap.mp h
    obtain ⟨-, -, value, hvalue, rfl⟩ := extraField_eq_some_iff.mp htext
    exact (endsPlain_equals _).append_value (strip_of_contextValue hvalue)

theorem endsPlain_of_mem_writtenTexts {stateContext : List (String × Json)} {text : String}
    (h : text ∈ writtenTexts stateContext) : EndsPlain text.toList := by
  unfold writtenTexts at h
  split_ifs at h
  · rw [List.mem_singleton.mp h]
    exact ⟨'t', by decide, by decide⟩
  · exact endsPlain_of_mem_suffixes h

theorem endsPlain_intercalate (sep : List Char) {L : List (List Char)} (hne : L ≠ [])
    (h : ∀ l ∈ L, EndsPlain l) : EndsPlain (sep.intercalate L) := by
  induction L with
  | nil => exact absurd rfl hne
  | cons l L ih =>
    cases L with
    | nil =>
      rw [List.intercalate_singleton]
      exact h l List.mem_cons_self
    | cons next L =>
      rw [List.intercalate_cons_cons]
      exact EndsPlain.append _ (ih (List.cons_ne_nil _ _) fun l hl => h l (List.mem_cons_of_mem _ hl))

/-! ## Stripping a signature -/

/-- The route of a signature, without the blanks before it. -/
def routeText (routePath : String) : List Char :=
  (routeSegment routePath).toList.dropWhile Text.isSpace

theorem stripList_append_cons {l r : List Char} {c : Char} (hc : Text.isSpace c = false)
    (hr : EndsPlain (c :: r)) :
    Text.stripList Text.isSpace (l ++ c :: r) = l.dropWhile Text.isSpace ++ c :: r := by
  have hdrop : (l ++ c :: r).dropWhile Text.isSpace = l.dropWhile Text.isSpace ++ c :: r := by
    rw [List.dropWhile_append, List.dropWhile_cons_of_neg (by rw [hc]; exact Bool.false_ne_true)]
    split_ifs with hempty
    · rw [List.isEmpty_iff.mp hempty, List.nil_append]
    · rfl
  rw [Text.stripList, hdrop, List.rdropWhile_eq_self_iff]
  intro hne
  obtain ⟨d, hd, hplain⟩ := EndsPlain.append (l.dropWhile Text.isSpace) hr
  rw [List.getLast?_eq_getLast_of_ne_nil hne] at hd
  rw [Option.some.inj hd, hplain]
  exact Bool.false_ne_true

/-- Only the blanks before the route are stripped. -/
theorem toList_strip_buildStateSignature (routePath : String)
    (stateContext : List (String × Json)) :
    (Text.strip (buildStateSignature routePath stateContext)).toList =
      [':'].intercalate
        (routeText routePath :: (writtenTexts stateContext).map String.toList) := by
  have hne : (writtenTexts stateContext).map String.toList ≠ [] :=
    fun hnil => writtenTexts_ne_nil stateContext (List.map_eq_nil_iff.mp hnil)
  have hends : ∀ l ∈ (writtenTexts stateContext).map String.toList, EndsPlain l := by
    intro l hl
    obtain ⟨text, htext, rfl⟩ := List.mem_map.mp hl
    exact endsPlain_of_mem_writtenTexts htext
  have hplain := endsPlain_intercalate [':'] hne hends
  have hcons : ∀ head : List Char, ∀ L : List (List Char), L ≠ [] →
      [':'].intercalate (head :: L) = head ++ ':' :: [':'].intercalate L := by
    intro head L hL
    cases L with
    | nil => exact absurd rfl hL
    | cons next L =>
      rw [List.intercalate_cons_cons, List.append_assoc, List.singleton_append]
  rw [Text.strip, String.toList_ofList, buildStateSignature_eq, Text.toList_joinWith, List.map_cons,
    show ":".toList = [':'] from by decide, hcons _ _ hne, hcons _ _ hne, routeText]
  exact stripList_append_cons (by decide) (EndsPlain.append [':'] hplain)

/-- A signature has a colon. -/
theorem mem_colon_signature (routePath : String) (stateContext : List (String × Json)) :
    ':' ∈ (Text.strip (buildStateSignature routePath stateContext)).toList := by
  rw [toList_strip_buildStateSignature]
  obtain ⟨text, texts, hwritten⟩ := List.exists_cons_of_ne_nil (writtenTexts_ne_nil stateContext)
  rw [hwritten, List.map_cons, List.intercalate_cons_cons]
  exact List.mem_append_left _ (List.mem_append_right _ (List.mem_singleton_self _))

theorem buildStateSignature_ne_empty (routePath : String) (stateContext : List (String × Json)) :
    buildStateSignature routePath stateContext ≠ "" := by
  intro hempty
  have hmem := mem_colon_signature routePath stateContext
  rw [hempty] at hmem
  exact absurd hmem (by decide)

end StateProbe
end Runlet
