import Runlet.Library.Pieces

/-!
# Lower case

`lower` reads the characters one after the other; what it writes for one of them is never empty, has
a lower case of its own no more (`lowerChar_of_mem_lowerAt`) and is a blank exactly when the character
was one (`isSpace_of_mem_lowerAt`).  So lower case twice is lower case once (`lower_lower`), and a
stripped text stays stripped (`strip_lower`).
-/

namespace Text

open Unicode

/-! ## One character -/

/-- The codes of the blanks. -/
def spaceRanges : List (ℕ × ℕ) :=
  [(9, 13), (28, 32), (0x85, 0x85), (0xA0, 0xA0), (0x1680, 0x1680), (0x2000, 0x200A),
    (0x2028, 0x2028), (0x2029, 0x2029), (0x202F, 0x202F), (0x205F, 0x205F), (0x3000, 0x3000)]

theorem isSpace_iff {c : Char} :
    isSpace c = true ↔ ∃ range ∈ spaceRanges, range.1 ≤ c.toNat ∧ c.toNat ≤ range.2 := by
  simp only [isSpace, spaceRanges, Bool.or_eq_true, Bool.and_eq_true, decide_eq_true_eq,
    beq_iff_eq, List.exists_mem_cons_iff, List.not_mem_nil, false_and, exists_false, or_false,
    or_assoc, ← le_antisymm_iff, eq_comm (a := c.toNat)]

/-- The codes of a range lie outside a run of the table, and outside its image. -/
def avoids (run : CaseRun) (range : ℕ × ℕ) : Bool :=
  (Nat.blt range.2 run.first || Nat.blt run.last range.1) &&
    (Nat.blt range.2 run.image || Nat.blt (run.lower run.last) range.1)

/-- A run of the table leads to characters. -/
def isValid (run : CaseRun) : Bool :=
  Nat.blt (run.lower run.last) 0xD800 ||
    Nat.ble 0xE000 run.image && Nat.blt (run.lower run.last) 0x110000

/-- The first run of the table: the ASCII capitals. -/
def asciiRun : CaseRun :=
  ⟨65, 90, 1, 97⟩

/-- The letters that are written otherwise than by the table. -/
def plainCodes : List ℕ :=
  [0x69, 0x307, 0x3C2, 0x3C3]

/-- What is asked of a run: only the first one holds ASCII letters, and neither the letters written
otherwise nor the blanks nor the capital I with a dot are among its letters. -/
def isSound (run : CaseRun) : Bool :=
  isValid run && (Nat.blt 127 run.first || decide (run = asciiRun)) &&
    (plainCodes.all fun n => !run.covers n) && ((0x130, 0x130) :: spaceRanges).all (avoids run)

theorem lowerRuns_sound : lowerRuns.all isSound = true := by
  decide +kernel

theorem sound_of_mem {run : CaseRun} (h : run ∈ lowerRuns) :
    ((isValid run = true ∧ (127 < run.first ∨ run = asciiRun)) ∧
      ∀ n ∈ plainCodes, run.covers n = false) ∧
        ∀ range ∈ (0x130, 0x130) :: spaceRanges, avoids run range = true := by
  have hsound := List.all_eq_true.mp lowerRuns_sound run h
  simpa only [isSound, Bool.and_eq_true, Bool.or_eq_true, Nat.blt_eq, decide_eq_true_eq,
    List.all_eq_true, Bool.not_eq_true'] using hsound

theorem avoids_of_mem {run : CaseRun} (h : run ∈ lowerRuns) {range : ℕ × ℕ}
    (hrange : range ∈ (0x130, 0x130) :: spaceRanges) :
    (range.2 < run.first ∨ run.last < range.1) ∧
      (range.2 < run.image ∨ run.lower run.last < range.1) := by
  have havoids := (sound_of_mem h).2 range hrange
  simpa only [avoids, Bool.and_eq_true, Bool.or_eq_true, Nat.blt_eq] using havoids

variable {n m : ℕ}

theorem lowerCode?_of_space {range : ℕ × ℕ} (hrange : range ∈ spaceRanges)
    (hn : range.1 ≤ n ∧ n ≤ range.2) : lowerCode? n = none := by
  rw [lowerCode?_eq_none_iff]
  intro run hrun hcovers
  obtain ⟨hfirst, hlast, -⟩ := CaseRun.covers_iff.mp hcovers
  have houtside := (avoids_of_mem hrun (List.mem_cons_of_mem _ hrange)).1
  omega

theorem exists_run_image (h : lowerCode? n = some m) :
    ∃ run ∈ lowerRuns, run.image ≤ m ∧ m ≤ run.lower run.last := by
  obtain ⟨run, hrun, hcovers, rfl⟩ := exists_run h
  obtain ⟨-, hlast, -⟩ := CaseRun.covers_iff.mp hcovers
  refine ⟨run, hrun, Nat.le_add_right _ _, ?_⟩
  exact Nat.add_le_add_left (Nat.sub_le_sub_right hlast _) _

/-- What the table leads to lies in none of the ranges. -/
theorem notMem_of_lowerCode? (h : lowerCode? n = some m) {range : ℕ × ℕ}
    (hrange : range ∈ (0x130, 0x130) :: spaceRanges) : ¬ (range.1 ≤ m ∧ m ≤ range.2) := by
  obtain ⟨run, hrun, hfirst, hlast⟩ := exists_run_image h
  have himage := (avoids_of_mem hrun hrange).2
  omega

theorem toNat_ofNat_of_lowerCode? (h : lowerCode? n = some m) : (Char.ofNat m).toNat = m := by
  obtain ⟨run, hrun, hfirst, hlast⟩ := exists_run_image h
  have hvalid := (sound_of_mem hrun).1.1.1
  rw [isValid, Bool.or_eq_true, Bool.and_eq_true, Nat.blt_eq, Nat.blt_eq, Nat.ble_eq] at hvalid
  have hm : m.isValidChar := by
    rcases hvalid with hvalid | ⟨hvalid, hvalid'⟩
    · exact Or.inl (by omega)
    · exact Or.inr ⟨by omega, by omega⟩
  rw [Char.ofNat, dif_pos hm]
  rfl

/-- Below 128 the table holds the ASCII capitals. -/
theorem lowerCode?_ascii (h : n < 128) :
    lowerCode? n = if 65 ≤ n && n ≤ 90 then some (n + 32) else none := by
  rw [lowerCode?]
  cases hfind : lowerRuns.find? fun run => run.covers n with
  | none =>
    have hcovers := List.find?_eq_none.mp hfind asciiRun List.mem_cons_self
    rw [if_neg, Option.map_none]
    rw [Bool.and_eq_true, decide_eq_true_eq, decide_eq_true_eq]
    rintro ⟨hfirst, hlast⟩
    exact hcovers (CaseRun.covers_iff.mpr ⟨hfirst, hlast, Nat.mod_one _⟩)
  | some run =>
    have hrun := List.find?_some hfind
    obtain ⟨hfirst, hlast, -⟩ := CaseRun.covers_iff.mp hrun
    rcases (sound_of_mem (List.mem_of_find?_eq_some hfind)).1.1.2 with hbeyond | rfl
    · omega
    · rw [if_pos (by simpa using ⟨hfirst, hlast⟩), Option.map_some, Option.some_inj]
      change 65 ≤ n at hfirst
      change 97 + (n - 65) = n + 32
      omega

/-- What a character becomes, read in the table. -/
theorem lowerChar_cases (c : Char) :
    lowerChar c = [c] ∧ lowerCode? c.toNat = none ∨
      lowerChar c = ['i', Char.ofNat 0x307] ∧ c.toNat = 0x130 ∨
        ∃ n, lowerChar c = [Char.ofNat n] ∧ lowerCode? c.toNat = some n := by
  unfold lowerChar
  split_ifs with hascii hupper hdot
  · have hcode := lowerCode?_ascii hascii
    rw [if_pos hupper] at hcode
    exact Or.inr (Or.inr ⟨_, rfl, hcode⟩)
  · have hcode := lowerCode?_ascii hascii
    rw [if_neg hupper] at hcode
    exact Or.inl ⟨rfl, hcode⟩
  · exact Or.inr (Or.inl ⟨rfl, hdot⟩)
  · cases hcode : lowerCode? c.toNat with
    | none => exact Or.inl ⟨rfl, rfl⟩
    | some n => exact Or.inr (Or.inr ⟨n, rfl, rfl⟩)

theorem lowerChar_eq_self {c : Char} (h : lowerCode? c.toNat = none) (hdot : c.toNat ≠ 0x130) :
    lowerChar c = [c] := by
  rcases lowerChar_cases c with ⟨hself, -⟩ | ⟨-, hdot'⟩ | ⟨n, -, hcode⟩
  · exact hself
  · exact absurd hdot' hdot
  · rw [h] at hcode
    cases hcode

theorem lowerChar_ne_nil (c : Char) : lowerChar c ≠ [] := by
  rcases lowerChar_cases c with ⟨h, -⟩ | ⟨h, -⟩ | ⟨n, h, -⟩ <;> rw [h] <;> exact List.cons_ne_nil _ _

theorem lowerCode?_plain (h : n ∈ plainCodes) : lowerCode? n = none := by
  rw [lowerCode?_eq_none_iff]
  intro run hrun hcovers
  rw [(sound_of_mem hrun).1.2 n h] at hcovers
  exact Bool.false_ne_true hcovers

/-- The characters that are written otherwise than by the table. -/
theorem lowerChar_plain {d : Char} (h : d ∈ ['i', Char.ofNat 0x307, 'ς', 'σ']) :
    lowerChar d = [d] := by
  have hcode : d.toNat ∈ plainCodes := List.mem_map_of_mem h
  refine lowerChar_eq_self (lowerCode?_plain hcode) fun hdot => ?_
  rw [hdot] at hcode
  exact absurd hcode (by decide)

/-- **A lower-case character has no other lower case.** -/
theorem lowerChar_of_mem {c d : Char} (h : d ∈ lowerChar c) : lowerChar d = [d] := by
  rcases lowerChar_cases c with ⟨hself, -⟩ | ⟨hdot, -⟩ | ⟨n, hn, hcode⟩
  · rw [hself, List.mem_singleton] at h
    rw [h, hself]
  · rw [hdot] at h
    exact lowerChar_plain (List.mem_append_left ['ς', 'σ'] h)
  · rw [hn, List.mem_singleton] at h
    have htoNat : d.toNat = n := h ▸ toNat_ofNat_of_lowerCode? hcode
    have hdot : n ≠ 0x130 := fun hdot =>
      notMem_of_lowerCode? hcode List.mem_cons_self ⟨hdot.ge, hdot.le⟩
    exact lowerChar_eq_self (by rw [htoNat]; exact lowerCode?_of_lowerCode? hcode) (htoNat ▸ hdot)

theorem isSpace_plain : ∀ d ∈ ['i', Char.ofNat 0x307, 'ς', 'σ', 'Σ'], isSpace d = false := by
  simp only [List.forall_mem_cons]
  exact ⟨rfl, rfl, rfl, rfl, rfl, List.forall_mem_nil _⟩

/-- A blank becomes itself, and nothing else becomes one. -/
theorem isSpace_of_mem_lowerChar {c d : Char} (h : d ∈ lowerChar c) : isSpace d = isSpace c := by
  rcases lowerChar_cases c with ⟨hself, -⟩ | ⟨hdot, hc⟩ | ⟨n, hn, hcode⟩
  · rw [hself, List.mem_singleton] at h
    rw [h]
  · rw [hdot] at h
    have hspace : isSpace c = false := by
      rw [← Bool.not_eq_true, isSpace_iff, hc]
      decide
    rw [hspace]
    exact isSpace_plain d (List.mem_append_left ['ς', 'σ', 'Σ'] h)
  · rw [hn, List.mem_singleton] at h
    have htoNat : d.toNat = n := h ▸ toNat_ofNat_of_lowerCode? hcode
    have hd : isSpace d = false := by
      rw [← Bool.not_eq_true, isSpace_iff, htoNat]
      rintro ⟨range, hrange, hmem⟩
      exact notMem_of_lowerCode? hcode (List.mem_cons_of_mem _ hrange) hmem
    have hc : isSpace c = false := by
      rw [← Bool.not_eq_true, isSpace_iff]
      rintro ⟨range, hrange, hmem⟩
      rw [lowerCode?_of_space hrange hmem] at hcode
      cases hcode
    rw [hd, hc]

/-! ## A character among others -/

variable {before after : List Char} {c d : Char}

theorem lowerSigma_mem (before after : List Char) : lowerSigma before after ∈ ['ς', 'σ'] := by
  unfold lowerSigma
  split_ifs <;> simp

/-- What is written for a character: one of the two small sigmas, or what the character becomes
anywhere. -/
theorem lowerAt_cases (before : List Char) (c : Char) (after : List Char) :
    (c = 'Σ' ∧ ∃ d ∈ ['ς', 'σ'], lowerAt before c after = [d]) ∨
      c ≠ 'Σ' ∧ lowerAt before c after = lowerChar c := by
  unfold lowerAt
  split_ifs with hsigma
  · exact Or.inl ⟨hsigma, _, lowerSigma_mem before after, rfl⟩
  · exact Or.inr ⟨hsigma, rfl⟩

theorem lowerAt_ne_nil (before : List Char) (c : Char) (after : List Char) :
    lowerAt before c after ≠ [] := by
  rcases lowerAt_cases before c after with ⟨-, d, -, h⟩ | ⟨-, h⟩
  · rw [h]
    exact List.cons_ne_nil _ _
  · rw [h]
    exact lowerChar_ne_nil c

theorem lowerChar_of_mem_lowerAt (h : d ∈ lowerAt before c after) : lowerChar d = [d] := by
  rcases lowerAt_cases before c after with ⟨-, e, he, hat⟩ | ⟨-, hat⟩
  · rw [hat, List.mem_singleton] at h
    rw [h]
    exact lowerChar_plain (List.mem_append_right ['i', Char.ofNat 0x307] he)
  · rw [hat] at h
    exact lowerChar_of_mem h

theorem isSpace_of_mem_lowerAt (h : d ∈ lowerAt before c after) : isSpace d = isSpace c := by
  rcases lowerAt_cases before c after with ⟨hsigma, e, he, hat⟩ | ⟨-, hat⟩
  · rw [hat, List.mem_singleton] at h
    rw [h, hsigma, isSpace_plain 'Σ' (by simp)]
    exact isSpace_plain e
      (List.mem_append_right ['i', Char.ofNat 0x307] (List.mem_append_left ['Σ'] he))
  · rw [hat] at h
    exact isSpace_of_mem_lowerChar h

/-- A character without another lower case is written as it is. -/
theorem lowerAt_eq_self (h : lowerChar c = [c]) : lowerAt before c after = [c] := by
  rcases lowerAt_cases before c after with ⟨rfl, -⟩ | ⟨-, hat⟩
  · exact absurd h (by decide +kernel)
  · rw [hat, h]

/-! ## A text -/

theorem exists_of_mem_lowerAfter {l : List Char} (h : d ∈ lowerAfter before l) :
    ∃ before' c after', d ∈ lowerAt before' c after' := by
  induction l generalizing before with
  | nil => exact absurd h List.not_mem_nil
  | cons c l ih =>
    rcases List.mem_append.mp h with h | h
    · exact ⟨_, _, _, h⟩
    · exact ih h

theorem lowerAfter_eq_self {l : List Char} (h : ∀ c ∈ l, lowerChar c = [c]) :
    lowerAfter before l = l := by
  induction l generalizing before with
  | nil => rfl
  | cons c l ih =>
    rw [lowerAfter, lowerAt_eq_self (h c List.mem_cons_self),
      ih fun c hc => h c (List.mem_cons_of_mem _ hc)]
    rfl

theorem mem_lowerAfter {l : List Char} (h : lowerChar c = [c]) (hc : c ∈ l) :
    c ∈ lowerAfter before l := by
  induction l generalizing before with
  | nil => exact absurd hc List.not_mem_nil
  | cons first l ih =>
    rw [lowerAfter, List.mem_append]
    rcases List.mem_cons.mp hc with rfl | hc
    · exact Or.inl (by rw [lowerAt_eq_self h]; exact List.mem_cons_self)
    · exact Or.inr (ih hc)

theorem isSpace_of_mem_head?_lowerAfter {l : List Char} (h : ∀ c ∈ l.head?, isSpace c = false) :
    ∀ d ∈ (lowerAfter before l).head?, isSpace d = false := by
  cases l with
  | nil => exact fun d hd => absurd hd (by simp [lowerAfter])
  | cons c l =>
    intro d hd
    rw [lowerAfter, List.head?_append_of_ne_nil _ (lowerAt_ne_nil before c l)] at hd
    rw [isSpace_of_mem_lowerAt (List.mem_of_mem_head? hd)]
    exact h c rfl

theorem isSpace_of_mem_getLast?_lowerAfter {l : List Char}
    (h : ∀ c ∈ l.getLast?, isSpace c = false) :
    ∀ d ∈ (lowerAfter before l).getLast?, isSpace d = false := by
  induction l generalizing before with
  | nil => exact fun d hd => absurd hd (by simp [lowerAfter])
  | cons c l ih =>
    intro d hd
    rw [lowerAfter] at hd
    cases l with
    | nil =>
      rw [lowerAfter, List.append_nil] at hd
      rw [isSpace_of_mem_lowerAt (List.mem_of_mem_getLast? hd)]
      exact h c rfl
    | cons next l =>
      rw [List.getLast?_cons_cons] at h
      have hne : lowerAfter (c :: before) (next :: l) ≠ [] :=
        List.append_ne_nil_of_left_ne_nil (lowerAt_ne_nil _ _ _) _
      rw [List.getLast?_append_of_ne_nil _ hne] at hd
      exact ih h d hd

theorem lowerChar_of_mem_lower {s : String} (h : c ∈ (lower s).toList) : lowerChar c = [c] := by
  rw [lower, String.toList_ofList] at h
  obtain ⟨_, _, _, hmem⟩ := exists_of_mem_lowerAfter h
  exact lowerChar_of_mem_lowerAt hmem

theorem lower_eq_self {s : String} (h : ∀ c ∈ s.toList, lowerChar c = [c]) : lower s = s := by
  rw [lower, lowerAfter_eq_self h, String.ofList_toList]

/-- **Lower case twice is lower case once.** -/
@[simp] theorem lower_lower (s : String) : lower (lower s) = lower s :=
  lower_eq_self fun _ => lowerChar_of_mem_lower

/-- What has no other lower case stays in the text. -/
theorem mem_lower {s : String} (h : lowerChar c = [c]) (hc : c ∈ s.toList) :
    c ∈ (lower s).toList := by
  rw [lower, String.toList_ofList]
  exact mem_lowerAfter h hc

theorem lower_ne_empty {s : String} (h : s ≠ "") : lower s ≠ "" := by
  rw [ne_eq, ← String.toList_inj] at h ⊢
  rw [lower, String.toList_ofList]
  cases hlist : s.toList with
  | nil => exact absurd hlist h
  | cons c l => exact List.append_ne_nil_of_left_ne_nil (lowerAt_ne_nil _ _ _) _

/-- **A stripped text in lower case is stripped.** -/
theorem strip_lower {s : String} (h : strip s = s) : strip (lower s) = lower s := by
  rw [strip_eq_self_iff, stripList_eq_self_iff] at h ⊢
  rw [lower, String.toList_ofList]
  exact ⟨isSpace_of_mem_head?_lowerAfter h.1, isSpace_of_mem_getLast?_lowerAfter h.2⟩

end Text
