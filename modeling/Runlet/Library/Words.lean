import Runlet.Library.Text

/-!
# Words and numerals

`splitWords` is `s.split()` and `parseInt` is `int(s)`, for a Python `str`: an optional sign and
decimal digits, which may be grouped by single underscores, between white space.

`parseDigits` reads digits alone.  On a word the two readers differ only in the sign and the
underscores: `parseInt_of_parseDigits` and `exists_magnitude_of_parseInt`.
-/

namespace Text

/-- `s.split()`. -/
def splitWords (s : String) : List String :=
  ((s.toList.splitOnP isSpace).filter fun word => word ≠ []).map String.ofList

/-- `s[n:]`. -/
def dropChars (n : ℕ) (s : String) : String :=
  String.ofList (s.toList.drop n)

/-- Text without white space in it. -/
def IsWord (s : String) : Prop :=
  ∀ c ∈ s.toList, isSpace c = false

theorem mem_of_mem_splitOnP {α : Type*} {p : α → Bool} {l piece : List α}
    (h : piece ∈ l.splitOnP p) : ∀ a ∈ piece, a ∈ l ∧ p a = false := by
  induction l generalizing piece with
  | nil => simp_all [List.splitOnP_nil]
  | cons x l ih =>
    intro a ha
    rw [List.splitOnP_cons_eq_if_modifyHead] at h
    split at h
    · rcases List.mem_cons.mp h with rfl | h
      · exact absurd ha List.not_mem_nil
      · exact ⟨List.mem_cons_of_mem _ (ih h a ha).1, (ih h a ha).2⟩
    · rename_i hx
      cases hsplit : l.splitOnP p with
      | nil => exact absurd hsplit (List.splitOnP_ne_nil p l)
      | cons first rest =>
        rw [hsplit, List.modifyHead_cons] at h
        rcases List.mem_cons.mp h with rfl | h
        · rcases List.mem_cons.mp ha with rfl | ha
          · exact ⟨List.mem_cons_self, by simpa using hx⟩
          · have hfirst : first ∈ l.splitOnP p := hsplit ▸ List.mem_cons_self
            exact ⟨List.mem_cons_of_mem _ (ih hfirst a ha).1, (ih hfirst a ha).2⟩
        · have hrest : piece ∈ l.splitOnP p := hsplit ▸ List.mem_cons_of_mem _ h
          exact ⟨List.mem_cons_of_mem _ (ih hrest a ha).1, (ih hrest a ha).2⟩

theorem isWord_of_mem_splitWords {s word : String} (h : word ∈ splitWords s) : IsWord word := by
  obtain ⟨piece, hpiece, rfl⟩ := List.mem_map.mp h
  intro c hc
  rw [String.toList_ofList] at hc
  exact (mem_of_mem_splitOnP (List.mem_of_mem_filter hpiece) c hc).2

theorem strip_of_isWord {s : String} (h : IsWord s) : strip s = s := by
  have hdrop : s.toList.dropWhile isSpace = s.toList :=
    List.dropWhile_eq_self_iff.mpr fun hlen => by simpa using h _ (List.getElem_mem hlen)
  have hrdrop : s.toList.rdropWhile isSpace = s.toList :=
    List.rdropWhile_eq_self_iff.mpr fun hne => by simpa using h _ (List.getLast_mem hne)
  rw [strip, stripList, hdrop, hrdrop, String.ofList_toList]

theorem IsWord.dropChars {s : String} (h : IsWord s) (n : ℕ) : IsWord (dropChars n s) := by
  intro c hc
  rw [Text.dropChars, String.toList_ofList] at hc
  exact h c (List.mem_of_mem_drop hc)

/-! ## Numerals -/

/-- The value of a list of decimal digits. -/
def digitsValue (digits : List Char) : ℕ :=
  digits.foldl (fun n c => 10 * n + (c.toNat - 48)) 0

/-- One digit or more, read as a number. -/
def parseDigits (cs : List Char) : Option ℕ :=
  if cs ≠ [] ∧ cs.all Char.isDigit then some (digitsValue cs) else none

/-- Groups of digits, separated by single underscores. -/
def parseMagnitude (cs : List Char) : Option ℕ :=
  if (cs.splitOn '_').all fun group => (parseDigits group).isSome then
    parseDigits (cs.filter fun c => c ≠ '_')
  else none

/-- `int(s)`; `none` stands for its `ValueError`. -/
def parseInt (s : String) : Option ℤ :=
  match (strip s).toList with
  | '-' :: cs => (parseMagnitude cs).map fun n : ℕ => -(n : ℤ)
  | '+' :: cs => (parseMagnitude cs).map fun n : ℕ => (n : ℤ)
  | cs => (parseMagnitude cs).map fun n : ℕ => (n : ℤ)

theorem parseDigits_eq_some_iff {cs : List Char} {n : ℕ} :
    parseDigits cs = some n ↔ (cs ≠ [] ∧ ∀ c ∈ cs, c.isDigit) ∧ digitsValue cs = n := by
  unfold parseDigits
  split
  · rename_i h
    rw [List.all_eq_true] at h
    simp [h.1]
    exact fun _ => h.2
  · rename_i h
    rw [List.all_eq_true] at h
    constructor
    · exact fun hnone => absurd hnone (by simp)
    · exact fun hsome => absurd hsome.1 h

theorem parseMagnitude_of_parseDigits {cs : List Char} {n : ℕ} (h : parseDigits cs = some n) :
    parseMagnitude cs = some n := by
  have hdigits := (parseDigits_eq_some_iff.mp h).1.2
  have hno : '_' ∉ cs := fun hmem => absurd (hdigits _ hmem) (by decide)
  have hfilter : (cs.filter fun c => c ≠ '_') = cs := by
    refine List.filter_eq_self.mpr fun c hc => ?_
    simpa using fun heq : c = '_' => hno (heq ▸ hc)
  rw [parseMagnitude, List.splitOn_eq_singleton hno, hfilter, h]
  simp [h]

/-- A magnitude without underscores is a list of digits. -/
theorem parseDigits_of_parseMagnitude {cs : List Char} {n : ℕ} (h : parseMagnitude cs = some n)
    (hno : '_' ∉ cs) : parseDigits cs = some n := by
  have hfilter : (cs.filter fun c => c ≠ '_') = cs := by
    refine List.filter_eq_self.mpr fun c hc => ?_
    simpa using fun heq : c = '_' => hno (heq ▸ hc)
  unfold parseMagnitude at h
  split at h
  · rwa [hfilter] at h
  · exact absurd h (by simp)

/-- The characters of a magnitude, one of which is a digit. -/
theorem mem_of_parseMagnitude {cs : List Char} {n : ℕ} (h : parseMagnitude cs = some n) :
    (∀ c ∈ cs, c.isDigit ∨ c = '_') ∧ ∃ c ∈ cs, c.isDigit := by
  unfold parseMagnitude at h
  split at h
  · obtain ⟨⟨hne, hdigits⟩, -⟩ := parseDigits_eq_some_iff.mp h
    obtain ⟨c, hc⟩ := List.exists_mem_of_ne_nil _ hne
    refine ⟨fun d hd => ?_, c, List.mem_of_mem_filter hc, hdigits c hc⟩
    by_cases heq : d = '_'
    · exact Or.inr heq
    · exact Or.inl (hdigits d (List.mem_filter.mpr ⟨hd, by simpa using heq⟩))
  · exact absurd h (by simp)

theorem toNat_of_isDigit {c : Char} (h : c.isDigit = true) : 48 ≤ c.toNat ∧ c.toNat ≤ 57 := by
  simpa [Char.isDigit, UInt32.le_iff_toNat_le] using h

theorem isSpace_of_isDigit {c : Char} (h : c.isDigit = true) : isSpace c = false := by
  obtain ⟨hlow, hhigh⟩ := toNat_of_isDigit h
  simp [isSpace]
  omega

theorem parseInt_of_parseDigits {s : String} {n : ℕ} (h : parseDigits s.toList = some n) :
    parseInt s = some (n : ℤ) := by
  have hdigits := (parseDigits_eq_some_iff.mp h).1.2
  have hword : IsWord s := fun c hc => isSpace_of_isDigit (hdigits c hc)
  have hmagnitude := parseMagnitude_of_parseDigits h
  rw [parseInt, strip_of_isWord hword]
  split
  · rename_i cs hcs
    exact absurd (hdigits '-' (hcs ▸ List.mem_cons_self)) (by decide)
  · rename_i cs hcs
    exact absurd (hdigits '+' (hcs ▸ List.mem_cons_self)) (by decide)
  · rw [hmagnitude]
    rfl

/-- What `int` accepts of a word: a sign or none, and a magnitude. -/
theorem exists_magnitude_of_parseInt {s : String} {k : ℤ} (hword : IsWord s)
    (h : parseInt s = some k) :
    ∃ sign cs n, s.toList = sign ++ cs ∧ (sign = [] ∨ sign = ['-'] ∨ sign = ['+']) ∧
      parseMagnitude cs = some n ∧ (sign = [] → k = n) := by
  rw [parseInt, strip_of_isWord hword] at h
  split at h
  · rename_i cs hcs
    obtain ⟨n, hn, -⟩ := Option.map_eq_some_iff.mp h
    exact ⟨['-'], cs, n, hcs, Or.inr (Or.inl rfl), hn, fun h => by simp at h⟩
  · rename_i cs hcs
    obtain ⟨n, hn, -⟩ := Option.map_eq_some_iff.mp h
    exact ⟨['+'], cs, n, hcs, Or.inr (Or.inr rfl), hn, fun h => by simp at h⟩
  · obtain ⟨n, hn, rfl⟩ := Option.map_eq_some_iff.mp h
    exact ⟨[], s.toList, n, rfl, Or.inl rfl, hn, fun _ => rfl⟩

/-- No other character stands in a word that `int` accepts. -/
theorem notMem_of_parseInt {s : String} {k : ℤ} (hword : IsWord s) (h : parseInt s = some k)
    {c : Char} (hc : c.isDigit = false ∧ c ≠ '_' ∧ c ≠ '-' ∧ c ≠ '+') : c ∉ s.toList := by
  obtain ⟨sign, cs, n, hs, hsign, hmagnitude, -⟩ := exists_magnitude_of_parseInt hword h
  intro hmem
  rw [hs, List.mem_append] at hmem
  rcases hmem with hmem | hmem
  · rcases hsign with rfl | rfl | rfl
    · exact absurd hmem List.not_mem_nil
    · exact hc.2.2.1 (List.mem_singleton.mp hmem)
    · exact hc.2.2.2 (List.mem_singleton.mp hmem)
  · rcases (mem_of_parseMagnitude hmagnitude).1 c hmem with hdigit | heq
    · rw [hdigit] at hc
      exact Bool.noConfusion hc.1
    · exact hc.2.1 heq

end Text
