import Runlet.Library.Words

/-!
# The pieces of a path

`pieces c l` are the parts of a text between the separators `c` that are not empty.  Separators at
the ends do not count (`pieces_stripList`), and a separator inside cuts the text in two
(`pieces_append_cons`); so the last piece is what follows the last separator that is followed by
anything else (`getLast?_pieces_append`).

Stripping cuts a text in three parts (`exists_stripList`), the middle one of which has none of the
stripped characters at its ends.
-/

namespace Text

/-! ## Stripping -/

section Strip

variable (p : Char → Bool) (l : List Char)

/-- What stripping takes away at both ends. -/
theorem exists_stripList : ∃ lead trail : List Char, l = lead ++ stripList p l ++ trail ∧
    (∀ c ∈ lead, p c = true) ∧ ∀ c ∈ trail, p c = true :=
  ⟨l.takeWhile p, (l.dropWhile p).rtakeWhile p, by
    rw [stripList, List.append_assoc, List.rdropWhile_append_rtakeWhile,
      List.takeWhile_append_dropWhile], fun _ => List.mem_takeWhile_imp,
    fun _ => List.mem_rtakeWhile_imp⟩

theorem head?_stripList : ∀ c ∈ (stripList p l).head?, p c = false := by
  intro c hc
  obtain ⟨rest, hrest⟩ := List.rdropWhile_prefix p (l.dropWhile p)
  refine head?_dropWhile_not l c ?_
  have hcons : stripList p l = c :: (stripList p l).tail :=
    (List.cons_head?_tail hc).symm
  rw [← hrest, show (l.dropWhile p).rdropWhile p = stripList p l from rfl, hcons]
  rfl

theorem getLast?_stripList : ∀ c ∈ (stripList p l).getLast?, p c = false := by
  intro c hc
  obtain ⟨hne, hlast⟩ := List.mem_getLast?_eq_getLast hc
  have hnot := List.rdropWhile_last_not p (l.dropWhile p) hne
  rw [hlast]
  exact Bool.eq_false_of_not_eq_true hnot

/-- A text is left alone when neither end of it would be stripped. -/
theorem stripList_eq_self_iff : stripList p l = l ↔
    (∀ c ∈ l.head?, p c = false) ∧ ∀ c ∈ l.getLast?, p c = false := by
  constructor
  · intro h
    have hhead := head?_stripList p l
    have hlast := getLast?_stripList p l
    rw [h] at hhead hlast
    exact ⟨hhead, hlast⟩
  · rintro ⟨hhead, hlast⟩
    have hdrop : l.dropWhile p = l := by
      cases l with
      | nil => rfl
      | cons c rest =>
        exact List.dropWhile_cons_of_neg (by rw [hhead c rfl]; exact Bool.false_ne_true)
    rw [stripList, hdrop, List.rdropWhile_eq_self_iff]
    intro hne
    rw [hlast _ (List.getLast?_eq_getLast_of_ne_nil hne)]
    exact Bool.false_ne_true

/-- What makes none of the stripped characters keeps a stripped text stripped. -/
theorem stripList_map {f : Char → Char} (hf : ∀ c, p c = false → p (f c) = false)
    (h : stripList p l = l) : stripList p (l.map f) = l.map f := by
  obtain ⟨hhead, hlast⟩ := (stripList_eq_self_iff p l).mp h
  refine (stripList_eq_self_iff p _).mpr ⟨fun c hc => ?_, fun c hc => ?_⟩
  · rw [List.head?_map] at hc
    obtain ⟨d, hd, rfl⟩ := Option.map_eq_some_iff.mp hc
    exact hf d (hhead d hd)
  · rw [List.getLast?_map] at hc
    obtain ⟨d, hd, rfl⟩ := Option.map_eq_some_iff.mp hc
    exact hf d (hlast d hd)

end Strip

theorem strip_eq_self_iff {s : String} : strip s = s ↔ stripList isSpace s.toList = s.toList := by
  rw [← String.toList_inj, strip, String.toList_ofList]

/-- Writing one character for another keeps a stripped text stripped. -/
theorem strip_replaceChar {a b : Char} (h : isSpace a = false → isSpace b = false) {s : String}
    (hs : strip s = s) : strip (replaceChar a b s) = replaceChar a b s := by
  rw [strip_eq_self_iff] at hs ⊢
  rw [toList_replaceChar]
  refine stripList_map _ _ (fun c hc => ?_) hs
  split_ifs with hca
  · exact h (hca ▸ hc)
  · exact hc

/-! ## Joined texts -/

section Intercalate

variable {α : Type*} {sep : List α} {L : List (List α)}

theorem mem_intercalate {a : α} (h : a ∈ sep.intercalate L) :
    a ∈ sep ∨ ∃ piece ∈ L, a ∈ piece := by
  induction L with
  | nil => exact absurd h List.not_mem_nil
  | cons piece L ih =>
    cases L with
    | nil =>
      rw [List.intercalate_singleton] at h
      exact Or.inr ⟨piece, List.mem_cons_self, h⟩
    | cons next L =>
      rw [List.intercalate_cons_cons, List.mem_append, List.mem_append] at h
      rcases h with (h | h) | h
      · exact Or.inr ⟨piece, List.mem_cons_self, h⟩
      · exact Or.inl h
      · exact (ih h).imp_right fun ⟨other, hother, ha⟩ =>
          ⟨other, List.mem_cons_of_mem _ hother, ha⟩

theorem sublist_intercalate (sep : List α) {piece : List α} (h : piece ∈ L) :
    piece.Sublist (sep.intercalate L) := by
  induction L with
  | nil => exact absurd h List.not_mem_nil
  | cons first L ih =>
    cases L with
    | nil =>
      rw [List.intercalate_singleton, List.mem_singleton.mp h]
    | cons next L =>
      rw [List.intercalate_cons_cons]
      rcases List.mem_cons.mp h with rfl | h
      · exact (List.sublist_append_left _ _).trans (List.sublist_append_left _ _)
      · exact (ih h).trans (List.sublist_append_right _ _)

/-- A joined text is cut as its parts are. -/
theorem splitOn_intercalate {c : Char} {L : List (List Char)} (h : L ≠ []) :
    ([c].intercalate L).splitOn c = L.flatMap fun part => part.splitOn c := by
  induction L with
  | nil => exact absurd rfl h
  | cons part L ih =>
    cases L with
    | nil => rw [List.intercalate_singleton, List.flatMap_singleton]
    | cons next L =>
      rw [List.intercalate_cons_cons, List.append_assoc, List.singleton_append,
        List.splitOn_append_cons_self, ih (List.cons_ne_nil _ _)]
      rfl

end Intercalate

/-! ## Cutting -/

/-- A separator that is written as another one cuts a text in the same places. -/
theorem splitOn_map_replace {a b : Char} {l : List Char} (h : b ∉ l) :
    (l.map fun c => if c = a then b else c).splitOn b = l.splitOn a := by
  rw [List.splitOn_eq_splitOnP, List.splitOn_eq_splitOnP]
  induction l with
  | nil => rfl
  | cons c l ih =>
    obtain ⟨hc, hl⟩ := not_or.mp (mt List.mem_cons.mpr h)
    rw [List.map_cons, List.splitOnP_cons_eq_if_modifyHead, List.splitOnP_cons_eq_if_modifyHead,
      ih hl]
    by_cases hca : c = a
    · rw [if_pos hca, if_pos (beq_self_eq_true b), if_pos (beq_iff_eq.mpr hca)]
    · rw [if_neg hca, if_neg fun heq => hc (beq_iff_eq.mp heq).symm,
        if_neg fun heq => hca (beq_iff_eq.mp heq)]

/-- A text is cut in one way before the first of a character. -/
theorem append_cons_inj_of_notMem {c : Char} {l l' r r' : List Char} (hl : c ∉ l) (hl' : c ∉ l')
    (h : l ++ c :: r = l' ++ c :: r') : l = l' ∧ r = r' := by
  have hcut : ∀ {l r : List Char}, c ∉ l → (l ++ c :: r).takeWhile (· != c) = l := by
    intro l r hl
    have hbefore : ∀ d ∈ l, (d != c) = true := fun d hd =>
      bne_iff_ne.mpr (ne_of_mem_of_not_mem hd hl)
    rw [List.takeWhile_append_of_pos hbefore, List.takeWhile_cons_of_neg (by simp),
      List.append_nil]
  have hinitial : l = l' := by rw [← hcut hl, h, hcut hl']
  subst hinitial
  exact ⟨rfl, (List.cons.inj (List.append_cancel_left h)).2⟩

/-! ## Pieces -/

/-- The parts between separators that are not empty. -/
def pieces (c : Char) (l : List Char) : List (List Char) :=
  (l.splitOn c).filter fun piece => piece ≠ []

variable {c : Char} {l r : List Char}

theorem pieces_nil : pieces c [] = [] := by
  rw [pieces, List.splitOn_nil]
  rfl

theorem pieces_append_cons (c : Char) (l r : List Char) :
    pieces c (l ++ c :: r) = pieces c l ++ pieces c r := by
  rw [pieces, List.splitOn_append_cons_self, List.filter_append, pieces, pieces]

theorem pieces_of_notMem (h : c ∉ l) (hne : l ≠ []) : pieces c l = [l] := by
  rw [pieces, List.splitOn_eq_singleton h, List.filter_cons_of_pos (by simpa using hne),
    List.filter_nil]

theorem ne_nil_of_mem_pieces {piece : List Char} (h : piece ∈ pieces c l) : piece ≠ [] := by
  simpa using (List.mem_filter.mp h).2

theorem notMem_of_mem_pieces {piece : List Char} (h : piece ∈ pieces c l) : c ∉ piece := by
  intro hmem
  rw [pieces, List.splitOn_eq_splitOnP] at h
  simpa using (mem_of_mem_splitOnP (List.mem_of_mem_filter h) c hmem).2

/-- Only separators have no pieces. -/
theorem eq_of_pieces_eq_nil (h : pieces c l = []) : ∀ a ∈ l, a = c := by
  intro a ha
  rw [← @List.intercalate_splitOn _ l _ _ c] at ha
  rcases mem_intercalate ha with ha | ⟨piece, hpiece, ha⟩
  · exact List.mem_singleton.mp ha
  · have hmem : piece ∈ pieces c l :=
      List.mem_filter.mpr ⟨hpiece, by simpa using List.ne_nil_of_mem ha⟩
    rw [h] at hmem
    exact absurd hmem List.not_mem_nil

/-- Separators before a text do not count. -/
theorem pieces_append_of_lead (hlead : ∀ a ∈ l, a = c) : pieces c (l ++ r) = pieces c r := by
  induction l with
  | nil => rfl
  | cons a l ih =>
    obtain ⟨rfl, hrest⟩ := List.forall_mem_cons.mp hlead
    have hcut := pieces_append_cons a [] (l ++ r)
    rw [pieces_nil, List.nil_append, List.nil_append] at hcut
    rw [List.cons_append, hcut, ih hrest]

/-- Separators after a text do not count. -/
theorem pieces_append_of_trail (htrail : ∀ a ∈ r, a = c) : pieces c (l ++ r) = pieces c l := by
  cases r with
  | nil => rw [List.append_nil]
  | cons a r =>
    obtain ⟨rfl, hrest⟩ := List.forall_mem_cons.mp htrail
    have hnone : pieces a (r ++ []) = pieces a [] := pieces_append_of_lead hrest
    rw [pieces_append_cons, ← List.append_nil r, hnone, pieces_nil, List.append_nil]

/-- A piece is a part of the text. -/
theorem sublist_of_mem_pieces {piece : List Char} (h : piece ∈ pieces c l) : piece.Sublist l := by
  have hsub := sublist_intercalate [c] (List.mem_of_mem_filter h)
  rwa [List.intercalate_splitOn] at hsub

theorem pieces_stripList (c : Char) (l : List Char) :
    pieces c (stripList (· == c) l) = pieces c l := by
  obtain ⟨lead, trail, hl, hlead, htrail⟩ := exists_stripList (· == c) l
  have hlead' : ∀ a ∈ lead, a = c := fun a ha => beq_iff_eq.mp (hlead a ha)
  have htrail' : ∀ a ∈ trail, a = c := fun a ha => beq_iff_eq.mp (htrail a ha)
  conv_rhs => rw [hl, pieces_append_of_trail htrail', pieces_append_of_lead hlead']

/-- The last piece is what follows the last separator. -/
theorem getLast?_pieces_append (hne : r ≠ []) (h : c ∉ r)
    (hl : l = [] ∨ l.getLast? = some c) : (pieces c (l ++ r)).getLast? = some r := by
  rcases hl with rfl | hl
  · rw [List.nil_append, pieces_of_notMem h hne]
    rfl
  · obtain ⟨before, rfl⟩ := List.getLast?_eq_some_iff.mp hl
    rw [List.append_assoc, List.singleton_append, pieces_append_cons, pieces_of_notMem h hne,
      List.getLast?_concat]

end Text
