import Runlet.Library.Digits
import Runlet.Library.StableSort
import Mathlib.Tactic.Linarith
import Mathlib.Tactic.NormNum

/-!
# Locator bundles

`asset_compiler/locator_bundles.py`: drop the locators that are known to break, rank the others by
strategy and by how well they have held up, and number them.  The four patterns that recognise a
fragile selector are written as matchers on its characters.  Scores are rationals, shown by the
literal they were read with.

The priorities of two strategies differ by ten at least, and everything else in a score adds up to
two and a half at most, so a bundle is ranked by strategy first (`buildLocatorBundle_ranked`).
-/

namespace Runlet

/-- A floating-point number with its literal. -/
structure PyFloat where
  literal : String
  value : Rat
  deriving DecidableEq

/-- A ranked locator. -/
structure LocatorCandidate where
  strategyType : String
  selector : String
  contextConstraints : List (String × Json)
  stabilityScore : PyFloat
  specificityScore : PyFloat
  observedSuccessCount : Int
  fallbackRank : Int

structure LocatorBundle where
  candidates : List LocatorCandidate

namespace LocatorBundles

/-- `_clean_text` of a JSON field: absent and `null` are empty. -/
def cleanText : Option Json → String
  | none => ""
  | some .null => ""
  | some v => Text.strip v.text

/-- `_clean_float` with the default `0.0`. -/
def cleanFloat : Option Json → PyFloat
  | some (.int n) => ⟨toString n ++ ".0", n⟩
  | some (.float literal q) => ⟨literal, q⟩
  | _ => ⟨"0.0", 0⟩

/-- `_clean_int`. -/
def cleanInt : Option Json → Int
  | some (.bool b) => if b then 1 else 0
  | some (.int n) => n
  | _ => 0

/-! ## Fragile selectors -/

def isLetter (c : Char) : Bool :=
  (65 ≤ c.toNat && c.toNat ≤ 90) || (97 ≤ c.toNat && c.toNat ≤ 122)

def isAsciiDigit (c : Char) : Bool :=
  48 ≤ c.toNat && c.toNat ≤ 57

/-- `[A-Za-z_-]`. -/
def isNameChar (c : Char) : Bool :=
  isLetter c || c == '_' || c == '-'

/-- `[A-Za-z0-9_-]`. -/
def isClassChar (c : Char) : Bool :=
  isNameChar c || isAsciiDigit c

/-- `[0-9a-f]`. -/
def isHexChar (c : Char) : Bool :=
  isAsciiDigit c || (97 ≤ c.toNat && c.toNat ≤ 102)

/-- What is left after reading some characters that satisfy `p`. -/
def suffixesWhile (p : Char → Bool) : List Char → List (List Char)
  | [] => [[]]
  | c :: l => (c :: l) :: if p c then suffixesWhile p l else []

/-- A search for `head`, then `[A-Za-z_-]*`, then at least `n` characters of a class. -/
def searchRun (head : Char) (n : Nat) (p : Char → Bool) (l : List Char) : Bool :=
  l.tails.any fun tail =>
    match tail with
    | [] => false
    | c :: rest =>
      c == head && (suffixesWhile isNameChar rest).any fun s => n ≤ (s.takeWhile p).length

/-- `_DYNAMIC_ID_RE.search`. -/
def dynamicId (l : List Char) : Bool :=
  searchRun '#' 4 Digits.isDecimal l

/-- `_HASH_CLASS_RE.search`. -/
def hashClass (l : List Char) : Bool :=
  searchRun '.' 6 isHexChar l

/-- `name:nth-child(digits)`. -/
def nthChildTail (l : List Char) : Bool :=
  let rest := l.dropWhile isClassChar
  let inner := (rest.drop ":nth-child(".length).dropWhile Digits.isDecimal
  l.takeWhile isClassChar != [] && ":nth-child(".toList.isPrefixOf rest &&
    (rest.drop ":nth-child(".length).takeWhile Digits.isDecimal != [] && inner == [')']

/-- `name` followed by blanks. -/
def nthChildParent (l : List Char) : Bool :=
  l.takeWhile isClassChar != [] && (l.dropWhile isClassChar).all Text.isSpace

/-- The segments of a chain after the first one, which may start with blanks. -/
def nthChildRest : List (List Char) → Bool
  | [] => false
  | [last] => nthChildTail (last.dropWhile Text.isSpace)
  | s :: rest => nthChildParent (s.dropWhile Text.isSpace) && nthChildRest rest

/-- `_PURE_NTH_CHILD_RE.fullmatch`. -/
def pureNthChild (l : List Char) : Bool :=
  match l.splitOn '>' with
  | [] => false
  | [only] => nthChildTail only
  | s :: rest => nthChildParent s && nthChildRest rest

/-- `_is_overlong_class_chain`. -/
def overlongClassChain (l : List Char) : Bool :=
  6 ≤ (l.tails.filter fun tail =>
    match tail with
    | '.' :: c :: _ => isClassChar c
    | _ => false).length

/-- `_is_forbidden_locator`. -/
def isForbiddenLocator (candidate : Json) : Bool :=
  let selector := cleanText (candidate.get? "selector")
  selector = "" || dynamicId selector.toList || pureNthChild (Text.lower selector).toList ||
    overlongClassChain selector.toList || hashClass selector.toList

/-! ## Ranking -/

/-- `STRATEGY_PRIORITY.get(…, 0)`. -/
def strategyPriority (strategyType : String) : Rat :=
  match strategyType with
  | "semantic" => 100
  | "label" => 90
  | "testid" => 80
  | "text_anchor" => 70
  | "structure" => 60
  | "css" => 10
  | _ => 0

/-- `_rank_locator_candidate`. -/
def rankLocatorCandidate (candidate : Json) : Rat :=
  strategyPriority (Text.lower (cleanText (candidate.get? "strategy_type"))) +
    (cleanFloat (candidate.get? "stability_score")).value +
    (cleanFloat (candidate.get? "specificity_score")).value +
    (min (cleanInt (candidate.get? "observed_success_count")) 50 : Int) * (1 / 100)

def normalizeCandidate (context : List (String × Json)) (candidate : Json) (index : Nat) :
    LocatorCandidate where
  strategyType := cleanText (candidate.get? "strategy_type")
  selector := cleanText (candidate.get? "selector")
  contextConstraints := context
  stabilityScore := cleanFloat (candidate.get? "stability_score")
  specificityScore := cleanFloat (candidate.get? "specificity_score")
  observedSuccessCount := cleanInt (candidate.get? "observed_success_count")
  fallbackRank := index + 1

/-- The candidates that are kept, best first; equal scores keep their order. -/
def rankedCandidates (locatorCandidates : List Json) : List Json :=
  (locatorCandidates.filter fun c => !isForbiddenLocator c).insertionSort fun a b =>
    rankLocatorCandidate b ≤ rankLocatorCandidate a

def buildLocatorBundle (locatorCandidates : List Json) (stateContext : List (String × Json)) :
    LocatorBundle where
  candidates := (rankedCandidates locatorCandidates).mapIdx fun index candidate =>
    normalizeCandidate stateContext candidate index

/-- A locator as a JSON object, the form in which a plan stores it. -/
def candidateJson (c : LocatorCandidate) : Json :=
  .obj
    [("strategy_type", .str c.strategyType), ("selector", .str c.selector),
      ("context_constraints", .obj c.contextConstraints),
      ("stability_score", .float c.stabilityScore.literal c.stabilityScore.value),
      ("specificity_score", .float c.specificityScore.literal c.specificityScore.value),
      ("observed_success_count", .int c.observedSuccessCount),
      ("fallback_rank", .int c.fallbackRank)]

example : (rankedCandidates
    [.obj [("strategy_type", .str "css"), ("selector", .str "#app > li:nth-child(2)")],
      .obj [("strategy_type", .str "css"), ("selector", .str "div > li:nth-child(2)")],
      .obj [("strategy_type", .str "semantic"), ("selector", .str "role=button")]]).map
    (fun c => cleanText (c.get? "selector")) =
    ["role=button", "#app > li:nth-child(2)"] := by
  decide +kernel

/-! ## The order of a bundle -/

/-- The candidates that are not known to break. -/
def keptCandidates (locatorCandidates : List Json) : List Json :=
  locatorCandidates.filter fun c => !isForbiddenLocator c

/-- The priority of the strategy a locator names. -/
def priorityOf (strategyType : String) : Rat :=
  strategyPriority (Text.lower strategyType)

/-- A locator whose scores are scores and whose count is a count. -/
structure IsScored (candidate : Json) : Prop where
  stability : 0 ≤ (cleanFloat (candidate.get? "stability_score")).value ∧
    (cleanFloat (candidate.get? "stability_score")).value ≤ 1
  specificity : 0 ≤ (cleanFloat (candidate.get? "specificity_score")).value ∧
    (cleanFloat (candidate.get? "specificity_score")).value ≤ 1
  observed : 0 ≤ cleanInt (candidate.get? "observed_success_count")

/-- Priorities are steps of ten. -/
theorem exists_strategyPriority_eq (strategyType : String) :
    ∃ n : ℕ, strategyPriority strategyType = 10 * n := by
  unfold strategyPriority
  split
  · exact ⟨10, by norm_num⟩
  · exact ⟨9, by norm_num⟩
  · exact ⟨8, by norm_num⟩
  · exact ⟨7, by norm_num⟩
  · exact ⟨6, by norm_num⟩
  · exact ⟨1, by norm_num⟩
  · exact ⟨0, by norm_num⟩

theorem strategyPriority_gap {s t : String} (h : strategyPriority s < strategyPriority t) :
    strategyPriority s + 10 ≤ strategyPriority t := by
  obtain ⟨m, hm⟩ := exists_strategyPriority_eq s
  obtain ⟨n, hn⟩ := exists_strategyPriority_eq t
  rw [hm, hn] at h ⊢
  have hlt : (m : Rat) < n := lt_of_mul_lt_mul_left h (by norm_num)
  have hle : (m : Rat) + 1 ≤ n := by exact_mod_cast hlt
  linarith

/-- The other terms of a score lie between 0 and 2.5. -/
theorem rankLocatorCandidate_bounds {candidate : Json} (h : IsScored candidate) :
    priorityOf (cleanText (candidate.get? "strategy_type")) ≤ rankLocatorCandidate candidate ∧
      rankLocatorCandidate candidate ≤
        priorityOf (cleanText (candidate.get? "strategy_type")) + 5 / 2 := by
  have hlower :
      (0 : Rat) ≤ (min (cleanInt (candidate.get? "observed_success_count")) 50 : Int) := by
    exact_mod_cast le_min h.observed (by norm_num)
  have hupper :
      ((min (cleanInt (candidate.get? "observed_success_count")) 50 : Int) : Rat) ≤ 50 := by
    exact_mod_cast min_le_right _ _
  obtain ⟨hstability, hstability'⟩ := h.stability
  obtain ⟨hspecificity, hspecificity'⟩ := h.specificity
  unfold rankLocatorCandidate priorityOf
  constructor <;> linarith

/-- **The gap between two strategies is wider than all other terms together.** -/
theorem rankLocatorCandidate_lt {a b : Json} (ha : IsScored a) (hb : IsScored b)
    (h : priorityOf (cleanText (a.get? "strategy_type")) <
      priorityOf (cleanText (b.get? "strategy_type"))) :
    rankLocatorCandidate a < rankLocatorCandidate b := by
  have hgap := strategyPriority_gap h
  have hle := (rankLocatorCandidate_bounds ha).2
  have hge := (rankLocatorCandidate_bounds hb).1
  unfold priorityOf at hle hge
  linarith

theorem pairwise_rankedCandidates (locatorCandidates : List Json) :
    (rankedCandidates locatorCandidates).Pairwise fun a b =>
      rankLocatorCandidate b ≤ rankLocatorCandidate a := by
  have htotal : Std.Total fun a b : Json => rankLocatorCandidate b ≤ rankLocatorCandidate a :=
    ⟨fun a b => le_total (rankLocatorCandidate b) (rankLocatorCandidate a)⟩
  have htrans : IsTrans Json fun a b => rankLocatorCandidate b ≤ rankLocatorCandidate a :=
    ⟨fun _ _ _ hab hbc => le_trans hbc hab⟩
  exact List.pairwise_insertionSort _ _

/-- The strategies of a bundle, best first. -/
theorem pairwise_priority {locatorCandidates : List Json}
    (h : ∀ c ∈ locatorCandidates, IsScored c) :
    (rankedCandidates locatorCandidates).Pairwise fun a b =>
      priorityOf (cleanText (b.get? "strategy_type")) ≤
        priorityOf (cleanText (a.get? "strategy_type")) := by
  have hscored : ∀ c ∈ rankedCandidates locatorCandidates, IsScored c := fun c hc =>
    h c (List.mem_of_mem_filter ((List.mem_insertionSort _).mp hc))
  refine (pairwise_rankedCandidates locatorCandidates).imp_of_mem fun ha hb hle => ?_
  by_contra hlt
  exact absurd hle (not_le_of_gt (rankLocatorCandidate_lt (hscored _ ha) (hscored _ hb)
    (not_le.mp hlt)))

theorem candidates_buildLocatorBundle (locatorCandidates : List Json)
    (stateContext : List (String × Json)) :
    (buildLocatorBundle locatorCandidates stateContext).candidates =
      (rankedCandidates locatorCandidates).zipIdx.map fun entry =>
        normalizeCandidate stateContext entry.1 entry.2 :=
  List.mapIdx_eq_zipIdx_map

/-- **A bundle holds the locators that are kept, ranked by strategy first.** -/
theorem buildLocatorBundle_ranked (locatorCandidates : List Json)
    (stateContext : List (String × Json)) (h : ∀ c ∈ locatorCandidates, IsScored c) :
    ∃ ranked : List Json,
      ranked.Perm (keptCandidates locatorCandidates) ∧
      (buildLocatorBundle locatorCandidates stateContext).candidates =
        ranked.mapIdx (fun index c => normalizeCandidate stateContext c index) ∧
      (buildLocatorBundle locatorCandidates stateContext).candidates.map (·.fallbackRank) =
        (List.range ranked.length).map (fun index : ℕ => (index : Int) + 1) ∧
      (buildLocatorBundle locatorCandidates stateContext).candidates.Pairwise
        (fun a b => priorityOf b.strategyType ≤ priorityOf a.strategyType) ∧
      ∀ score : Rat, ranked.filter (fun c => rankLocatorCandidate c = score) =
        (keptCandidates locatorCandidates).filter fun c => rankLocatorCandidate c = score := by
  refine ⟨rankedCandidates locatorCandidates, List.perm_insertionSort _ _, rfl, ?_, ?_, ?_⟩
  · rw [candidates_buildLocatorBundle, List.map_map, List.range_eq_range', ← List.zipIdx_map_snd,
      List.map_map]
    rfl
  · rw [candidates_buildLocatorBundle, List.pairwise_map]
    have hfst := pairwise_priority h
    rw [← List.zipIdx_map_fst 0 (rankedCandidates locatorCandidates), List.pairwise_map] at hfst
    exact hfst
  · intro score
    refine StableSort.filter_insertionSort (fun a b ha hb => ?_) _
    rw [decide_eq_true_eq] at ha hb
    exact (hb.trans ha.symm).le

/-- A selector that held up very well, and an anchor that never did. -/
def sampleCandidates : List Json :=
  [ .obj
      [("strategy_type", .str "css"), ("selector", .str "main > button"),
        ("stability_score", .float "1.0" 1), ("specificity_score", .float "1.0" 1),
        ("observed_success_count", .int 500)],
    .obj [("strategy_type", .str "structure"), ("selector", .str "form button")] ]

theorem isScored_sampleCandidates : ∀ c ∈ sampleCandidates, IsScored c := by
  intro c hc
  simp only [sampleCandidates, List.mem_cons, List.not_mem_nil, or_false] at hc
  rcases hc with rfl | rfl
  · exact ⟨by decide +kernel, by decide +kernel, by decide +kernel⟩
  · exact ⟨by decide +kernel, by decide +kernel, by decide +kernel⟩

theorem buildLocatorBundle_ranked_sample :
    (buildLocatorBundle sampleCandidates []).candidates.Pairwise fun a b =>
      priorityOf b.strategyType ≤ priorityOf a.strategyType := by
  obtain ⟨-, -, -, -, hstrategies, -⟩ :=
    buildLocatorBundle_ranked sampleCandidates [] isScored_sampleCandidates
  exact hstrategies

end LocatorBundles

end Runlet
