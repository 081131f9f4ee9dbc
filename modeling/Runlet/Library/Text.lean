import Mathlib.Data.List.DropRight
import Mathlib.Data.List.Lex
import Mathlib.Data.String.Basic
import Runlet.Library.Unicode

/-!
# Text operations

The string methods the modelled program uses, on `String` through its list of characters:
`strip`, `stripChar`, `rstripChar`, `lower`, `splitChar`, `before`, `joinWith`, `replaceChar`,
`containsText` and `startsWith`.  They are the methods of a Python `str`; white space is the
Unicode white space of `str.isspace`, and lower case is the one of all alphabets, with the sigma that
ends a word.

`strip_strip` is the fact used everywhere: text that was stripped once is not changed by being
stripped again.
-/

namespace Text

/-- White space in the sense of `str.isspace`. -/
def isSpace (c : Char) : Bool :=
  let n := c.toNat
  (9 ≤ n && n ≤ 13) || (28 ≤ n && n ≤ 32) || n == 0x85 || n == 0xA0 || n == 0x1680 ||
    (0x2000 ≤ n && n ≤ 0x200A) || n == 0x2028 || n == 0x2029 || n == 0x202F || n == 0x205F ||
    n == 0x3000

/-- Remove the characters that satisfy `p` from both ends. -/
def stripList (p : Char → Bool) (l : List Char) : List Char :=
  (l.dropWhile p).rdropWhile p

/-- `s.strip()`. -/
def strip (s : String) : String :=
  String.ofList (stripList isSpace s.toList)

/-- `s.strip(c)`. -/
def stripChar (c : Char) (s : String) : String :=
  String.ofList (stripList (· == c) s.toList)

/-- The lower case of a character, where its neighbours do not matter.  A capital I with a dot is
the one letter that becomes two characters. -/
def lowerChar (c : Char) : List Char :=
  if c.toNat < 128 then
    [if 65 ≤ c.toNat && c.toNat ≤ 90 then Char.ofNat (c.toNat + 32) else c]
  else if c.toNat = 0x130 then ['i', Char.ofNat 0x307]
  else
    match Unicode.lowerCode? c.toNat with
    | some n => [Char.ofNat n]
    | none => [c]

/-- Whether the nearest character that is not passed over has a case. -/
def nearestCased (l : List Char) : Bool :=
  match l.find? fun c => !Unicode.inRanges Unicode.caseIgnorableRanges c.toNat with
  | some c => Unicode.inRanges Unicode.casedRanges c.toNat
  | none => false

/-- The lower case of a capital sigma: the final one behind a letter and not in front of one.  The
characters `before` it are read from the nearest one on. -/
def lowerSigma (before after : List Char) : Char :=
  if nearestCased before && !nearestCased after then 'ς' else 'σ'

def lowerAt (before : List Char) (c : Char) (after : List Char) : List Char :=
  if c = 'Σ' then [lowerSigma before after] else lowerChar c

def lowerAfter : List Char → List Char → List Char
  | _, [] => []
  | before, c :: after => lowerAt before c after ++ lowerAfter (c :: before) after

/-- `s.lower()`. -/
def lower (s : String) : String :=
  String.ofList (lowerAfter [] s.toList)

/-- `s.split(c)` for a single character. -/
def splitChar (c : Char) (s : String) : List String :=
  (s.toList.splitOn c).map String.ofList

/-- `sep.join(parts)`. -/
def joinWith (sep : String) (parts : List String) : String :=
  String.ofList (sep.toList.intercalate (parts.map String.toList))

/-- `s.replace(a, b)` for single characters. -/
def replaceChar (a b : Char) (s : String) : String :=
  String.ofList (s.toList.map fun c => if c = a then b else c)

/-- `s.split(c, 1)[0]` for a single character. -/
def before (c : Char) (s : String) : String :=
  String.ofList (s.toList.takeWhile (· != c))

/-- `s.rstrip(c)`. -/
def rstripChar (c : Char) (s : String) : String :=
  String.ofList (s.toList.rdropWhile (· == c))

/-- `s.startswith(head)`. -/
def startsWith (head s : String) : Bool :=
  head.toList.isPrefixOf s.toList

/-- `needle in s`. -/
def containsText (needle s : String) : Bool :=
  s.toList.tails.any fun tail => needle.toList.isPrefixOf tail

/-- A property of the characters of a fixed text is computed character by character. -/
theorem forall_mem_toList {p : Char → Prop} [DecidablePred p] {s : String}
    (h : (s.toList.all fun c => decide (p c)) = true) : ∀ c ∈ s.toList, p c :=
  fun c hc => of_decide_eq_true (List.all_eq_true.mp h c hc)

/-! ## Stripping twice -/

theorem dropWhile_rdropWhile_of_head {p : Char → Bool} {l : List Char}
    (h : ∀ c ∈ l.head?, p c = false) : (l.rdropWhile p).dropWhile p = l.rdropWhile p := by
  cases hl : l.rdropWhile p with
  | nil => rfl
  | cons c r =>
    have hinitial : l.rdropWhile p <+: l := List.rdropWhile_prefix p l
    rw [hl] at hinitial
    obtain ⟨r', hr'⟩ := hinitial
    have hc : p c = false := by
      refine h c ?_
      rw [← hr', List.cons_append, List.head?_cons]
      rfl
    rw [List.dropWhile_cons_of_neg (by rw [hc]; exact Bool.false_ne_true)]

theorem head?_dropWhile_not {p : Char → Bool} (l : List Char) :
    ∀ c ∈ (l.dropWhile p).head?, p c = false := by
  intro c hc
  have h := List.head?_dropWhile_not p l
  rw [Option.mem_def.mp hc] at h
  simpa using h

theorem stripList_stripList (p : Char → Bool) (l : List Char) :
    stripList p (stripList p l) = stripList p l := by
  unfold stripList
  rw [dropWhile_rdropWhile_of_head (head?_dropWhile_not l), List.rdropWhile_idempotent]

/-- **Stripped text is stripped.** -/
@[simp] theorem strip_strip (s : String) : strip (strip s) = strip s := by
  simp only [strip, String.toList_ofList, stripList_stripList]

@[simp] theorem strip_empty : strip "" = "" := by decide

/-! ## Joining -/

/-- Pieces joined by one separator and read by `f` are the same pieces joined by another and read by
`g`, when the two readings agree on the pieces and take the one separator to the other. -/
theorem map_intercalate_congr {α β : Type*} {f g : α → β} {sep sep' : List α} {l : List (List α)}
    (hsep : sep.map f = sep'.map g) (h : ∀ piece ∈ l, ∀ c ∈ piece, f c = g c) :
    (sep.intercalate l).map f = (sep'.intercalate l).map g := by
  induction l with
  | nil => rfl
  | cons piece l ih =>
    have hpiece : piece.map f = piece.map g := List.map_congr_left (h piece List.mem_cons_self)
    have hrest := ih fun q hq => h q (List.mem_cons_of_mem _ hq)
    cases l with
    | nil =>
      rw [List.intercalate_singleton, List.intercalate_singleton]
      exact hpiece
    | cons q l =>
      rw [List.intercalate_cons_cons, List.intercalate_cons_cons]
      simp only [List.map_append, hsep, hpiece, hrest]

theorem toList_joinWith (sep : String) (parts : List String) :
    (joinWith sep parts).toList = sep.toList.intercalate (parts.map String.toList) :=
  String.toList_ofList

theorem toList_replaceChar (a b : Char) (s : String) :
    (replaceChar a b s).toList = s.toList.map fun c => if c = a then b else c :=
  String.toList_ofList

theorem replaceChar_of_notMem {a b : Char} {s : String} (h : a ∉ s.toList) :
    replaceChar a b s = s := by
  rw [← String.toList_inj, toList_replaceChar]
  refine (List.map_congr_left fun c hc => if_neg ?_).trans (List.map_id _)
  rintro rfl
  exact h hc

theorem replaceChar_ne_empty {a b : Char} {s : String} (h : s ≠ "") : replaceChar a b s ≠ "" := by
  rw [ne_eq, ← String.toList_inj] at h ⊢
  rwa [toList_replaceChar, String.toList_empty, List.map_eq_nil_iff]

/-! ## Text that starts with a slash -/

theorem startsWith_slash_iff {s : String} :
    startsWith "/" s = true ↔ ∃ t, s.toList = '/' :: t := by
  rw [startsWith, show "/".toList = ['/'] from by decide]
  cases s.toList with
  | nil => simp
  | cons c l =>
    rw [List.isPrefixOf_cons_cons, List.isPrefixOf_nil_left, Bool.and_true, beq_iff_eq]
    constructor
    · rintro rfl
      exact ⟨l, rfl⟩
    · rintro ⟨t, h⟩
      exact (List.cons.inj h).1.symm

/-- What is left of a text that starts with a slash starts with it, when anything is left. -/
theorem rdropWhile_slash (p : Char → Bool) (t : List Char) :
    List.rdropWhile p ('/' :: t) = [] ∨ ∃ u, List.rdropWhile p ('/' :: t) = '/' :: u := by
  have hinitial := List.rdropWhile_prefix p ('/' :: t)
  cases h : List.rdropWhile p ('/' :: t) with
  | nil => exact Or.inl rfl
  | cons c u =>
    rw [h] at hinitial
    exact Or.inr ⟨u, by rw [(List.cons_prefix_cons.mp hinitial).1]⟩

/-- Blanks are stripped, and the slash stays. -/
theorem startsWith_slash_strip {s : String} (h : startsWith "/" s = true) :
    startsWith "/" (strip s) = true := by
  obtain ⟨t, ht⟩ := startsWith_slash_iff.mp h
  rw [startsWith_slash_iff, strip, String.toList_ofList, stripList, ht,
    List.dropWhile_cons_of_neg (by decide)]
  rcases rdropWhile_slash isSpace t with hnil | hslash
  · have hall := List.rdropWhile_eq_nil_iff.mp hnil '/' List.mem_cons_self
    exact absurd hall (by decide)
  · exact hslash

theorem startsWith_slash_rstripChar {s : String} (h : startsWith "/" s = true) :
    rstripChar '/' s = "" ∨ startsWith "/" (rstripChar '/' s) = true := by
  obtain ⟨t, ht⟩ := startsWith_slash_iff.mp h
  rw [startsWith_slash_iff, rstripChar, String.toList_ofList, ht]
  exact (rdropWhile_slash _ t).imp_left fun hnil => by rw [hnil]

theorem ne_empty_of_startsWith_slash {s : String} (h : startsWith "/" s = true) : s ≠ "" := by
  rintro rfl
  exact absurd h (by decide)

/-! ## Cutting text -/

theorem toList_before (c : Char) (s : String) :
    (before c s).toList = s.toList.takeWhile (· != c) :=
  String.toList_ofList

theorem notMem_before (c : Char) (s : String) : c ∉ (before c s).toList := by
  intro h
  rw [toList_before] at h
  exact absurd (List.mem_takeWhile_imp h) (by simp)

theorem mem_of_mem_before {c d : Char} {s : String} (h : d ∈ (before c s).toList) :
    d ∈ s.toList := by
  rw [toList_before] at h
  exact (List.takeWhile_sublist _).subset h

/-- Text without the separator is not cut. -/
theorem before_of_notMem {c : Char} {s : String} (h : c ∉ s.toList) : before c s = s := by
  have hall : ∀ d ∈ s.toList, (d != c) = true := by
    intro d hd
    rw [bne_iff_ne]
    rintro rfl
    exact h hd
  rw [before, List.takeWhile_eq_self_iff.mpr hall, String.ofList_toList]

theorem startsWith_slash_before {c : Char} (hc : c ≠ '/') {s : String} :
    startsWith "/" (before c s) = true ↔ startsWith "/" s = true := by
  rw [startsWith_slash_iff, startsWith_slash_iff, toList_before]
  cases s.toList with
  | nil => simp
  | cons d l =>
    by_cases hd : d = c
    · subst hd
      simp [hc]
    · simp [hd]

/-- The trailing characters that are removed. -/
theorem exists_rstripChar (c : Char) (s : String) :
    ∃ tail : List Char, (∀ d ∈ tail, d = c) ∧ s.toList = (rstripChar c s).toList ++ tail := by
  refine ⟨s.toList.rtakeWhile (· == c), fun d hd => ?_, ?_⟩
  · exact beq_iff_eq.mp (List.mem_rtakeWhile_imp (p := (· == c)) hd)
  · rw [rstripChar, String.toList_ofList, List.rdropWhile_append_rtakeWhile]

theorem rstripChar_rstripChar (c : Char) (s : String) :
    rstripChar c (rstripChar c s) = rstripChar c s := by
  simp only [rstripChar, String.toList_ofList, List.rdropWhile_idempotent]

/-- A prefix that reaches the end again is everything. -/
theorem rdropWhile_eq_self_of_twice {p q : Char → Bool} {l : List Char}
    (h : (l.rdropWhile p).rdropWhile q = l) : l.rdropWhile p = l := by
  have houter := List.rdropWhile_prefix p l
  have hinner := List.rdropWhile_prefix q (l.rdropWhile p)
  have hlength := hinner.length_le
  rw [h] at hlength
  exact houter.eq_of_length_le hlength

end Text
