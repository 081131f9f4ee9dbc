import Runlet.ControlPlane.Candidates
import Runlet.Library.Dict
import Runlet.Library.StableSort
import Mathlib.Data.Prod.Lex
import Mathlib.Tactic.Linarith

/-!
# The ranking of the candidates

`rank_candidates` of `control_plane/recommendation.py`: the candidates of a hint, best first.  A
check with few runs is ranked by the confidence of its alias, and any other one by a weighted sum of
success rate, confidence and recency.  The last component of the key is the identifier of the check,
so no two candidates tie.

Recency is measured against the last run of all candidates.  A timestamp depends on the time zone
when the instant names none, so reading it is a parameter; scores are rationals.

`rankCandidates_sound`: every candidate is ranked once, the order in which they come does not
matter, and a higher success rate never costs a candidate a place.
-/

namespace Runlet

structure RankedCheckCandidate where
  pageAssetId : UUID
  pageCheckId : UUID
  assetKey : String
  checkCode : String
  goal : String
  leafText : Option String
  displayChain : Option String
  chainComplete : Bool
  aliasConfidence : Rat
  successRate : Rat
  sampleCount : ℕ
  recencyScore : Rat
  rankScore : Rat
  deriving DecidableEq

/-- The keyword arguments of `rank_candidates`, with their defaults. -/
structure RankingWeights where
  successRateWeight : Rat := 7 / 10
  aliasConfidenceWeight : Rat := 2 / 10
  recencyWeight : Rat := 1 / 10
  coldStartThreshold : Int := 20

namespace Recommendation

open Dict (Entries)

/-- `_clamp_score`. -/
def clampScore : Option Rat → Rat
  | none => 0
  | some value => if value < 0 then 0 else if 1 < value then 1 else value

section Ranking

variable (timestamp : DateTime → Rat) (weights : RankingWeights)

/-- The score of a candidate, when the last of all runs has a positive timestamp. -/
def recencyScore (maxTimestamp : Rat) (item : CheckCandidateStats) : Rat :=
  match item.lastRunAt with
  | none => 0
  | some lastRunAt => clampScore (some (timestamp lastRunAt / maxTimestamp))

/-- A dictionary by `page_check_id`. -/
def scoresOf (score : CheckCandidateStats → Rat) (candidates : List CheckCandidateStats) :
    Entries UUID Rat :=
  candidates.foldl (fun scores item => scores.set item.pageCheckId (score item)) []

/-- `_build_recency_scores`. -/
def buildRecencyScores (candidates : List CheckCandidateStats) : Entries UUID Rat :=
  match (candidates.filterMap (·.lastRunAt)).max? with
  | none => scoresOf (fun _ => 0) candidates
  | some last =>
    if timestamp last ≤ 0 then scoresOf (fun _ => 0) candidates
    else scoresOf (recencyScore timestamp (timestamp last)) candidates

def isColdStart (sampleCount : ℕ) : Bool :=
  (sampleCount : Int) < weights.coldStartThreshold

/-- One step of the loop: a candidate with its scores. -/
def rankedCandidate (recencyScores : Entries UUID Rat) (item : CheckCandidateStats) :
    RankedCheckCandidate :=
  let successRate := clampScore item.successRate
  let aliasConfidence := clampScore (some item.aliasConfidence)
  let recencyScore := (recencyScores.get? item.pageCheckId).getD 0
  { pageAssetId := item.pageAssetId
    pageCheckId := item.pageCheckId
    assetKey := item.assetKey
    checkCode := item.checkCode
    goal := item.goal
    leafText := item.leafText
    displayChain := item.displayChain
    chainComplete := item.chainComplete
    aliasConfidence := aliasConfidence
    successRate := successRate
    sampleCount := item.sampleCount
    recencyScore := recencyScore
    rankScore :=
      if isColdStart weights item.sampleCount then aliasConfidence
      else
        weights.successRateWeight * successRate +
          weights.aliasConfidenceWeight * aliasConfidence + weights.recencyWeight * recencyScore }

/-- `candidate_key`.  Identifiers are in the order of their text. -/
def candidateKey (item : RankedCheckCandidate) : Rat ×ₗ Rat ×ₗ Rat ×ₗ Rat ×ₗ UUID :=
  if isColdStart weights item.sampleCount then
    toLex (item.rankScore, toLex (item.recencyScore, toLex (item.successRate,
      toLex (item.aliasConfidence, item.pageCheckId))))
  else
    toLex (item.rankScore, toLex (item.aliasConfidence, toLex (item.recencyScore,
      toLex (item.successRate, item.pageCheckId))))

def rankCandidates (candidates : List CheckCandidateStats) : List RankedCheckCandidate :=
  if candidates.isEmpty then []
  else
    let recencyScores := buildRecencyScores timestamp candidates
    (candidates.map (rankedCandidate weights recencyScores)).insertionSort
      fun a b => candidateKey weights b ≤ candidateKey weights a

/-- How many candidates stand before that of a check. -/
def position (pageCheckId : UUID) (ranked : List RankedCheckCandidate) : ℕ :=
  ranked.findIdx fun item => item.pageCheckId = pageCheckId

end Ranking

variable {timestamp : DateTime → Rat} {weights : RankingWeights}
  {candidates : List CheckCandidateStats}

theorem rankCandidates_eq (candidates : List CheckCandidateStats) :
    rankCandidates timestamp weights candidates =
      (candidates.map
        (rankedCandidate weights (buildRecencyScores timestamp candidates))).insertionSort
        fun a b => candidateKey weights b ≤ candidateKey weights a := by
  unfold rankCandidates
  cases candidates <;> rfl

/-- The last component of a key is the identifier. -/
theorem pageCheckId_eq_of_candidateKey_eq {a b : RankedCheckCandidate}
    (h : candidateKey weights a = candidateKey weights b) : a.pageCheckId = b.pageCheckId := by
  have hlast : ∀ item, (ofLex (ofLex (ofLex (ofLex (candidateKey weights item)).2).2).2).2 =
      item.pageCheckId := by
    intro item
    unfold candidateKey
    split <;> rfl
  rw [← hlast a, h, hlast b]

theorem clampScore_mono {r r' : Rat} (h : r ≤ r') : clampScore (some r) ≤ clampScore (some r') := by
  unfold clampScore
  dsimp only
  split_ifs <;> linarith

theorem clampScore_nonneg (value : Option Rat) : 0 ≤ clampScore value := by
  cases value with
  | none => exact le_rfl
  | some value =>
    unfold clampScore
    dsimp only
    split_ifs <;> linarith

/-! ## The order of the candidates does not matter -/

theorem max?_eq_of_perm {l l' : List DateTime} (h : l.Perm l') : l.max? = l'.max? := by
  cases hl : l.max? with
  | none =>
    rw [List.max?_eq_none_iff] at hl
    rw [eq_comm, List.max?_eq_none_iff, ← List.perm_nil, ← hl]
    exact h.symm
  | some last =>
    rw [List.max?_eq_some_iff] at hl
    rw [eq_comm, List.max?_eq_some_iff]
    exact ⟨h.mem_iff.mp hl.1, fun b hb => hl.2 b (h.mem_iff.mpr hb)⟩

/-- The recency of a candidate, given the last runs of all candidates. -/
def recencyOf (timestamp : DateTime → Rat) (lastRuns : List DateTime) (item : CheckCandidateStats) :
    Rat :=
  match lastRuns.max? with
  | none => 0
  | some last => if timestamp last ≤ 0 then 0 else recencyScore timestamp (timestamp last) item

/-- Under distinct identifiers a candidate finds its own score. -/
theorem get?_buildRecencyScores (hdistinct : (candidates.map (·.pageCheckId)).Nodup)
    {item : CheckCandidateStats} (hitem : item ∈ candidates) :
    (buildRecencyScores timestamp candidates).get? item.pageCheckId =
      some (recencyOf timestamp (candidates.filterMap (·.lastRunAt)) item) := by
  have hget : ∀ score : CheckCandidateStats → Rat,
      (scoresOf score candidates).get? item.pageCheckId = some (score item) := fun score =>
    Entries.get?_foldl_set hdistinct hitem []
  unfold buildRecencyScores recencyOf
  cases (candidates.filterMap (·.lastRunAt)).max? with
  | none => exact hget _
  | some last =>
    dsimp only
    split_ifs
    · exact hget _
    · exact hget _

variable (timestamp weights) in
/-- The candidates with their scores. -/
theorem perm_rankedCandidate {other : List CheckCandidateStats}
    (hdistinct : (candidates.map (·.pageCheckId)).Nodup) (h : other.Perm candidates) :
    (other.map (rankedCandidate weights (buildRecencyScores timestamp other))).Perm
      (candidates.map (rankedCandidate weights (buildRecencyScores timestamp candidates))) := by
  have hother : (other.map (·.pageCheckId)).Nodup :=
    (h.map _).nodup_iff.mpr hdistinct
  have hsame : other.map (rankedCandidate weights (buildRecencyScores timestamp other)) =
      other.map (rankedCandidate weights (buildRecencyScores timestamp candidates)) := by
    refine List.map_congr_left fun item hitem => ?_
    have hscore : (buildRecencyScores timestamp other).get? item.pageCheckId =
        (buildRecencyScores timestamp candidates).get? item.pageCheckId := by
      rw [get?_buildRecencyScores hother hitem,
        get?_buildRecencyScores hdistinct (h.mem_iff.mp hitem), recencyOf, recencyOf,
        max?_eq_of_perm (h.filterMap _)]
    unfold rankedCandidate
    rw [hscore]
  rw [hsame]
  exact h.map _

variable (weights) in
/-- Distinct candidates have distinct keys. -/
theorem nodup_keys (hdistinct : (candidates.map (·.pageCheckId)).Nodup)
    (scores : Entries UUID Rat) :
    ((candidates.map (rankedCandidate weights scores)).map (candidateKey weights)).Nodup := by
  rw [List.map_map]
  have hids : candidates.Pairwise fun a b => a.pageCheckId ≠ b.pageCheckId :=
    List.pairwise_map.mp hdistinct
  exact List.pairwise_map.mpr (hids.imp fun hne h =>
    hne (pageCheckId_eq_of_candidateKey_eq h))

theorem rankCandidates_of_perm {other : List CheckCandidateStats}
    (hdistinct : (candidates.map (·.pageCheckId)).Nodup) (h : other.Perm candidates) :
    rankCandidates timestamp weights other = rankCandidates timestamp weights candidates := by
  rw [rankCandidates_eq, rankCandidates_eq]
  have hkeys := nodup_keys weights hdistinct (buildRecencyScores timestamp candidates)
  have hperm := perm_rankedCandidate timestamp weights hdistinct h
  have hties : ∀ a ∈ other.map (rankedCandidate weights (buildRecencyScores timestamp other)),
      ∀ b ∈ other.map (rankedCandidate weights (buildRecencyScores timestamp other)),
        OrderDual.toDual (candidateKey weights a) = OrderDual.toDual (candidateKey weights b) →
          id a = id b := by
    intro a ha b hb hkey
    exact List.inj_on_of_nodup_map hkeys (hperm.mem_iff.mp ha) (hperm.mem_iff.mp hb) hkey
  have hsame := StableSort.map_insertionSort_of_perm hperm hties
  rw [List.map_id, List.map_id] at hsame
  exact hsame

/-! ## A higher success rate -/

/-- A rate that is known is not lowered. -/
def RaisesTo (rate raised : Option Rat) : Prop :=
  ∀ r, rate = some r → ∃ r', raised = some r' ∧ r ≤ r'

theorem clampScore_raisesTo {rate raised : Option Rat} (h : RaisesTo rate raised) :
    clampScore rate ≤ clampScore raised := by
  cases rate with
  | none => exact clampScore_nonneg raised
  | some r =>
    obtain ⟨r', rfl, hle⟩ := h r rfl
    exact clampScore_mono hle

/-- The key of a candidate under the recency scores of a list. -/
def keyUnder (weights : RankingWeights) (scores : Entries UUID Rat) (item : CheckCandidateStats) :
    Rat ×ₗ Rat ×ₗ Rat ×ₗ Rat ×ₗ UUID :=
  candidateKey weights (rankedCandidate weights scores item)

/-- Every component of the key of a candidate grows with its success rate. -/
theorem keyUnder_mono (hweight : 0 ≤ weights.successRateWeight) (scores : Entries UUID Rat)
    {item : CheckCandidateStats} {raised : Option Rat} (h : RaisesTo item.successRate raised) :
    keyUnder weights scores item ≤
      keyUnder weights scores { item with successRate := raised } := by
  have hrate := clampScore_raisesTo h
  unfold keyUnder candidateKey rankedCandidate
  dsimp only
  split_ifs with hcold
  · exact Prod.Lex.toLex_mono ⟨le_rfl, Prod.Lex.toLex_mono ⟨le_rfl,
      Prod.Lex.toLex_mono ⟨hrate, le_rfl⟩⟩⟩
  · have hrank := mul_le_mul_of_nonneg_left hrate hweight
    exact Prod.Lex.toLex_mono ⟨by simpa only [add_le_add_iff_right] using hrank,
      Prod.Lex.toLex_mono ⟨le_rfl, Prod.Lex.toLex_mono ⟨le_rfl,
        Prod.Lex.toLex_mono ⟨hrate, le_rfl⟩⟩⟩⟩

variable (timestamp weights) in
/-- A candidate stands behind those with greater keys. -/
theorem position_eq (hdistinct : (candidates.map (·.pageCheckId)).Nodup)
    {item : CheckCandidateStats} (hitem : item ∈ candidates) :
    position item.pageCheckId (rankCandidates timestamp weights candidates) =
      candidates.countP fun other =>
        keyUnder weights (buildRecencyScores timestamp candidates) item <
          keyUnder weights (buildRecencyScores timestamp candidates) other := by
  rw [rankCandidates_eq, position]
  have hkeys := nodup_keys weights hdistinct (buildRecencyScores timestamp candidates)
  have hmem := List.mem_map_of_mem
    (f := rankedCandidate weights (buildRecencyScores timestamp candidates)) hitem
  have hids : ∀ b ∈ candidates.map
      (rankedCandidate weights (buildRecencyScores timestamp candidates)),
      decide (b.pageCheckId = item.pageCheckId) = true ↔
        OrderDual.toDual (candidateKey weights b) = OrderDual.toDual (candidateKey weights
          (rankedCandidate weights (buildRecencyScores timestamp candidates) item)) := by
    intro b hb
    rw [decide_eq_true_eq]
    constructor
    · intro hid
      obtain ⟨other, hother, rfl⟩ := List.mem_map.mp hb
      rw [List.inj_on_of_nodup_map hdistinct hother hitem hid]
    · exact fun h => pageCheckId_eq_of_candidateKey_eq h
  have hcount := @StableSort.findIdx_insertionSort _ _ _
    (fun c => OrderDual.toDual (candidateKey weights c)) _ _ _ _ hkeys hmem hids
  rw [List.countP_map] at hcount
  exact hcount

theorem buildRecencyScores_raised (before : List CheckCandidateStats) (item : CheckCandidateStats)
    (after : List CheckCandidateStats) (raised : Option Rat) :
    buildRecencyScores timestamp (before ++ { item with successRate := raised } :: after) =
      buildRecencyScores timestamp (before ++ item :: after) := by
  have hruns : (before ++ { item with successRate := raised } :: after).filterMap (·.lastRunAt) =
      (before ++ item :: after).filterMap (·.lastRunAt) := by
    simp only [List.filterMap_append, List.filterMap_cons]
  have hscores : ∀ score : CheckCandidateStats → Rat,
      score { item with successRate := raised } = score item →
        scoresOf score (before ++ { item with successRate := raised } :: after) =
          scoresOf score (before ++ item :: after) := by
    intro score hscore
    simp only [scoresOf, List.foldl_append, List.foldl_cons, hscore]
  unfold buildRecencyScores
  rw [hruns, hscores _ rfl]
  simp only [hscores (recencyScore timestamp _) rfl]

/-- **A candidate whose success rate rises is not ranked lower.** -/
theorem position_raised_le (hweight : 0 ≤ weights.successRateWeight)
    {before after : List CheckCandidateStats} {item : CheckCandidateStats} {raised : Option Rat}
    (hdistinct : ((before ++ item :: after).map (·.pageCheckId)).Nodup)
    (hraised : RaisesTo item.successRate raised) :
    position item.pageCheckId
        (rankCandidates timestamp weights
          (before ++ { item with successRate := raised } :: after)) ≤
      position item.pageCheckId (rankCandidates timestamp weights (before ++ item :: after)) := by
  have hdistinct' :
      ((before ++ { item with successRate := raised } :: after).map (·.pageCheckId)).Nodup := by
    rw [List.map_append, List.map_cons] at hdistinct ⊢
    exact hdistinct
  have hkey := keyUnder_mono hweight
    (buildRecencyScores timestamp (before ++ item :: after)) hraised
  have hposition := position_eq timestamp weights hdistinct'
    (List.mem_append_right before List.mem_cons_self)
  rw [buildRecencyScores_raised] at hposition
  rw [hposition, position_eq _ _ hdistinct (List.mem_append_right before List.mem_cons_self)]
  rw [List.countP_append, List.countP_append, List.countP_cons_of_neg (by simp),
    List.countP_cons_of_neg (by simp)]
  exact Nat.add_le_add (StableSort.countP_lt_antitone hkey before)
    (StableSort.countP_lt_antitone hkey after)

/-- **A ranking lists every candidate once, does not show the order in which the candidates came,
and never punishes a higher success rate.** -/
theorem rankCandidates_sound (timestamp : DateTime → Rat) (weights : RankingWeights)
    (candidates : List CheckCandidateStats)
    (hdistinct : (candidates.map (·.pageCheckId)).Nodup)
    (hweight : 0 ≤ weights.successRateWeight) :
    (rankCandidates timestamp weights candidates).Perm
        (candidates.map
          (rankedCandidate weights (buildRecencyScores timestamp candidates))) ∧
      (∀ other : List CheckCandidateStats, other.Perm candidates →
        rankCandidates timestamp weights other = rankCandidates timestamp weights candidates) ∧
      ∀ before item after raised, candidates = before ++ item :: after →
        RaisesTo item.successRate raised →
          position item.pageCheckId
              (rankCandidates timestamp weights
                (before ++ { item with successRate := raised } :: after)) ≤
            position item.pageCheckId (rankCandidates timestamp weights candidates) := by
  refine ⟨?_, fun other h => rankCandidates_of_perm hdistinct h, ?_⟩
  · rw [rankCandidates_eq]
    exact List.perm_insertionSort _ _
  · rintro before item after raised rfl hraised
    exact position_raised_le hweight hdistinct hraised

/-! ## A ranking of two -/

namespace RankingSample

def candidate (pageCheckId : UUID) (successRate : Rat) : CheckCandidateStats where
  pageAssetId := 1
  pageCheckId := pageCheckId
  assetKey := "erp.users"
  checkCode := "page_open"
  goal := "page_open"
  leafText := none
  displayChain := none
  chainComplete := false
  aliasConfidence := 1
  successRate := some successRate
  lastRunAt := some 1000000
  sampleCount := 30

def seconds (instant : DateTime) : Rat :=
  instant / 1000000

/-- The check that fails more often overtakes the other one. -/
theorem rankCandidates_sound_sample :
    position 2 (rankCandidates seconds {} [candidate 1 (9 / 10), candidate 2 1]) ≤
      position 2 (rankCandidates seconds {} [candidate 1 (9 / 10), candidate 2 (1 / 2)]) :=
  (rankCandidates_sound seconds {} [candidate 1 (9 / 10), candidate 2 (1 / 2)] (by decide)
    (by norm_num)).2.2 [candidate 1 (9 / 10)] (candidate 2 (1 / 2)) [] (some 1) rfl
      fun r hr => ⟨1, rfl, by rw [← Option.some_inj.mp hr]; norm_num⟩

example : (rankCandidates seconds {} [candidate 1 (9 / 10), candidate 2 1]).map
    (·.pageCheckId) = [2, 1] := by
  decide +kernel

end RankingSample

end Recommendation

end Runlet
