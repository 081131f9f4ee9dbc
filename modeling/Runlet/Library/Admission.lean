import Mathlib.Algebra.Order.BigOperators.Group.Finset
import Mathlib.Data.List.Basic
import Mathlib.Data.Finset.Card
import Mathlib.Data.List.TakeWhile

/-!
# Admission under a cap for each group and a bound on all

Items come one by one.  An item whose key was taken before is passed over; a group gets `cap`
places at most, and all groups together get `room`.

As long as there is room, each group gets what it asks for up to its cap, so that the places taken
are `slots`, which counts the different keys of each group up to the cap.  Hence
`length_admitAll`, and `group_mem_admitAll_iff`: a group gets a place exactly when the items that
came before its first one do not fill the room.
-/

namespace Runlet

namespace Admission

variable {α κ γ : Type*} [DecidableEq κ] [DecidableEq γ] (key : α → κ) (group : α → γ)
  (cap room : ℕ)

/-- How many items of a group were taken. -/
def groupSize (taken : List α) (g : γ) : ℕ :=
  (taken.map group).count g

/-- One more item: passed over, refused, or taken. -/
def letIn (taken : List α) (a : α) : List α :=
  if key a ∈ taken.map key then taken
  else if cap ≤ groupSize group taken (group a) then taken
  else if room ≤ taken.length then taken
  else taken ++ [a]

def admitAll (l : List α) : List α :=
  l.foldl (letIn key group cap room) []

/-- The different keys of a group. -/
def spread (l : List α) (g : γ) : ℕ :=
  ((l.filter fun a => group a = g).map key).toFinset.card

/-- The places a list asks for. -/
def slots (l : List α) : ℕ :=
  ∑ g ∈ (l.map group).toFinset, min cap (spread key group l g)

/-- The key of an item says which group it is in. -/
def Coherent (l : List α) : Prop :=
  ∀ a ∈ l, ∀ b ∈ l, key a = key b → group a = group b

variable {key group cap room} {l : List α} {a : α}

omit [DecidableEq κ] in
theorem groupSize_cons (g : γ) :
    groupSize group (a :: l) g = groupSize group l g + if group a = g then 1 else 0 := by
  rw [groupSize, List.map_cons, List.count_cons, ← groupSize]
  simp only [beq_iff_eq]

/-! ## What one more item asks for -/

theorem spread_eq_zero_of_not_mem {g : γ} (h : g ∉ l.map group) : spread key group l g = 0 := by
  have hnil : (l.filter fun a => group a = g) = [] :=
    List.filter_eq_nil_iff.mpr fun a ha hg => h (List.mem_map.mpr ⟨a, ha, of_decide_eq_true hg⟩)
  rw [spread, hnil]
  rfl

theorem spread_append_of_ne {g : γ} (h : group a ≠ g) :
    spread key group (l ++ [a]) g = spread key group l g := by
  have hfilter : ((l ++ [a]).filter fun b => group b = g) = l.filter fun b => group b = g := by
    rw [List.filter_append, List.filter_cons_of_neg (by simpa using h), List.filter_nil,
      List.append_nil]
  rw [spread, spread, hfilter]

/-- The item has a key that is new in its group. -/
def Fresh (key : α → κ) (group : α → γ) (l : List α) (a : α) : Prop :=
  ∀ b ∈ l, group b = group a → key b ≠ key a

theorem toFinset_append :
    (((l ++ [a]).filter fun b => group b = group a).map key).toFinset =
      insert (key a) ((l.filter fun b => group b = group a).map key).toFinset := by
  rw [List.filter_append, List.filter_cons_of_pos (by simp), List.filter_nil,
    List.map_append, List.map_singleton, List.toFinset_append, Finset.union_comm]
  rfl

theorem spread_append_of_fresh (h : Fresh key group l a) :
    spread key group (l ++ [a]) (group a) = spread key group l (group a) + 1 := by
  rw [spread, toFinset_append, Finset.card_insert_of_notMem, spread]
  rw [List.mem_toFinset, List.mem_map]
  rintro ⟨b, hb, hkey⟩
  obtain ⟨hb, hgroup⟩ := List.mem_filter.mp hb
  exact h b hb (of_decide_eq_true hgroup) hkey

theorem spread_append_of_not_fresh (h : ¬ Fresh key group l a) (g : γ) :
    spread key group (l ++ [a]) g = spread key group l g := by
  by_cases hg : group a = g
  · subst hg
    rw [spread, toFinset_append, Finset.insert_eq_of_mem, spread]
    unfold Fresh at h
    push Not at h
    obtain ⟨b, hb, hgroup, hkey⟩ := h
    rw [List.mem_toFinset, List.mem_map]
    exact ⟨b, List.mem_filter.mpr ⟨hb, decide_eq_true hgroup⟩, hkey⟩
  · exact spread_append_of_ne hg

theorem spread_le_append (g : γ) :
    spread key group l g ≤ spread key group (l ++ [a]) g := by
  by_cases hfresh : Fresh key group l a
  · by_cases hg : group a = g
    · subst hg
      rw [spread_append_of_fresh hfresh]
      exact Nat.le_succ _
    · rw [spread_append_of_ne hg]
  · rw [spread_append_of_not_fresh hfresh]

/-- The sum may run over more groups than there are. -/
theorem slots_eq_sum {s : Finset γ} (h : (l.map group).toFinset ⊆ s) :
    slots key group cap l = ∑ g ∈ s, min cap (spread key group l g) := by
  refine Finset.sum_subset h fun g _ hg => ?_
  rw [List.mem_toFinset] at hg
  rw [spread_eq_zero_of_not_mem hg, Nat.min_zero]

/-- Where a group has one key, a list asks for no more places than it has groups. -/
theorem slots_le_card_groups (h : ∀ a ∈ l, ∀ b ∈ l, group a = group b → key a = key b) :
    slots key group cap l ≤ (l.map group).toFinset.card := by
  have hone : ∀ g, spread key group l g ≤ 1 := by
    intro g
    refine Finset.card_le_one.mpr fun k hk k' hk' => ?_
    rw [List.mem_toFinset, List.mem_map] at hk hk'
    obtain ⟨a, ha, rfl⟩ := hk
    obtain ⟨b, hb, rfl⟩ := hk'
    obtain ⟨ha, hag⟩ := List.mem_filter.mp ha
    obtain ⟨hb, hbg⟩ := List.mem_filter.mp hb
    exact h a ha b hb ((of_decide_eq_true hag).trans (of_decide_eq_true hbg).symm)
  rw [slots, Finset.card_eq_sum_ones]
  exact Finset.sum_le_sum fun g _ => (min_le_right _ _).trans (hone g)

variable (key group cap l a) in
/-- The places before and after one more item, apart from those of its group. -/
theorem slots_append_split :
    ∃ others, slots key group cap l = min cap (spread key group l (group a)) + others ∧
      slots key group cap (l ++ [a]) =
        min cap (spread key group (l ++ [a]) (group a)) + others := by
  have hsub : (l.map group).toFinset ⊆ ((l ++ [a]).map group).toFinset := by
    rw [List.map_append, List.toFinset_append]
    exact Finset.subset_union_left
  have hmem : group a ∈ ((l ++ [a]).map group).toFinset :=
    List.mem_toFinset.mpr (List.mem_map_of_mem (List.mem_append_right _ List.mem_cons_self))
  refine ⟨∑ g ∈ ((l ++ [a]).map group).toFinset.erase (group a), min cap (spread key group l g),
    ?_, ?_⟩
  · rw [slots_eq_sum hsub]
    exact (Finset.add_sum_erase _ (fun g => min cap (spread key group l g)) hmem).symm
  · rw [slots, ← Finset.add_sum_erase _ _ hmem]
    congr 1
    refine Finset.sum_congr rfl fun g hg => ?_
    rw [spread_append_of_ne (Finset.ne_of_mem_erase hg).symm]

theorem slots_append_of_not_fresh (h : ¬ Fresh key group l a) :
    slots key group cap (l ++ [a]) = slots key group cap l := by
  obtain ⟨others, hl, hla⟩ := slots_append_split key group cap l a
  rw [hl, hla, spread_append_of_not_fresh h]

theorem slots_append_of_capped (h : cap ≤ spread key group l (group a)) :
    slots key group cap (l ++ [a]) = slots key group cap l := by
  obtain ⟨others, hl, hla⟩ := slots_append_split key group cap l a
  rw [hl, hla, min_eq_left h, min_eq_left (h.trans (spread_le_append _))]

theorem slots_append_of_room (hfresh : Fresh key group l a)
    (h : spread key group l (group a) < cap) :
    slots key group cap (l ++ [a]) = slots key group cap l + 1 := by
  obtain ⟨others, hl, hla⟩ := slots_append_split key group cap l a
  rw [hl, hla, spread_append_of_fresh hfresh, min_eq_right h.le, min_eq_right h]
  exact Nat.add_right_comm _ _ _

theorem slots_le_append : slots key group cap l ≤ slots key group cap (l ++ [a]) := by
  obtain ⟨others, hl, hla⟩ := slots_append_split key group cap l a
  rw [hl, hla]
  exact Nat.add_le_add_right (min_le_min_left _ (spread_le_append _)) _

theorem slots_append_le : slots key group cap (l ++ [a]) ≤ slots key group cap l + 1 := by
  by_cases hfresh : Fresh key group l a
  · by_cases hcap : spread key group l (group a) < cap
    · rw [slots_append_of_room hfresh hcap]
    · rw [slots_append_of_capped (Nat.le_of_not_lt hcap)]
      exact Nat.le_succ _
  · rw [slots_append_of_not_fresh hfresh]
    exact Nat.le_succ _

/-! ## What is taken -/

/-- What was taken of a list: as many items as there are places, and, as long as these are enough,
of each group what it asks for up to the cap. -/
structure Served (key : α → κ) (group : α → γ) (cap room : ℕ) (l taken : List α) : Prop where
  subset : taken ⊆ l
  length : taken.length = min room (slots key group cap l)
  count : slots key group cap l ≤ room → ∀ g,
    groupSize group taken g = min cap (spread key group l g)
  keys : slots key group cap l ≤ room → ∀ a ∈ l, spread key group l (group a) ≤ cap →
    key a ∈ taken.map key

theorem served_nil : Served key group cap room [] [] where
  subset := List.Subset.refl _
  length := (Nat.min_zero room).symm
  count _ _ := (Nat.min_zero cap).symm
  keys _ _ ha := absurd ha List.not_mem_nil

section Step

variable {taken : List α}

/-- A key that is not fresh was taken, unless its group is beyond its cap. -/
theorem Served.mem_of_not_fresh (h : Served key group cap room l taken)
    (hroom : slots key group cap l ≤ room) (hcap : spread key group l (group a) ≤ cap)
    (hfresh : ¬ Fresh key group l a) : key a ∈ taken.map key := by
  unfold Fresh at hfresh
  push Not at hfresh
  obtain ⟨b, hb, hgroup, hkey⟩ := hfresh
  rw [← hkey]
  exact h.keys hroom b hb (by rwa [hgroup])

theorem Served.pass (h : Served key group cap room l taken)
    (hcoherent : Coherent key group (l ++ [a])) (hkey : key a ∈ taken.map key) : Served key group cap room (l ++ [a]) taken := by
  obtain ⟨b, hb, hsame⟩ := List.mem_map.mp hkey
  have hbl := h.subset hb
  have hfresh : ¬ Fresh key group l a := fun hfresh => hfresh b hbl
    (hcoherent b (List.mem_append_left _ hbl) a (List.mem_append_right _ List.mem_cons_self) hsame)
    hsame
  have hslots : slots key group cap (l ++ [a]) = slots key group cap l :=
    slots_append_of_not_fresh hfresh
  refine ⟨fun c hc => List.mem_append_left _ (h.subset hc), ?_, ?_, ?_⟩
  · rw [hslots]
    exact h.length
  · intro hroom g
    rw [spread_append_of_not_fresh hfresh]
    exact h.count (hslots ▸ hroom) g
  · rw [hslots]
    intro hroom c hc hcap
    rw [spread_append_of_not_fresh hfresh] at hcap
    rcases List.mem_append.mp hc with hc | hc
    · exact h.keys hroom c hc hcap
    · rw [List.mem_singleton.mp hc]
      exact hkey

theorem Served.cap_reached (h : Served key group cap room l taken)
    (hcap : cap ≤ groupSize group taken (group a)) :
    Served key group cap room (l ++ [a]) taken := by
  have hbefore : ∀ {n}, slots key group cap (l ++ [a]) ≤ n → slots key group cap l ≤ n :=
    fun hn => slots_le_append.trans hn
  -- While there is room, the group was served up to its cap.
  have hspread : slots key group cap l ≤ room → cap ≤ spread key group l (group a) := by
    intro hroom
    rw [h.count hroom] at hcap
    exact hcap.trans (min_le_right _ _)
  refine ⟨fun c hc => List.mem_append_left _ (h.subset hc), ?_, ?_, ?_⟩
  · rcases Nat.le_or_le (slots key group cap l) room with hroom | hfull
    · rw [slots_append_of_capped (hspread hroom)]
      exact h.length
    · rw [h.length, min_eq_left hfull, min_eq_left (hfull.trans slots_le_append)]
  · intro hroom g
    rw [h.count (hbefore hroom) g]
    by_cases hg : group a = g
    · subst hg
      rw [min_eq_left (hspread (hbefore hroom)),
        min_eq_left ((hspread (hbefore hroom)).trans (spread_le_append _))]
    · rw [spread_append_of_ne hg]
  · intro hroom c hc hspreadc
    rcases List.mem_append.mp hc with hc | hc
    · exact h.keys (hbefore hroom) c hc ((spread_le_append _).trans hspreadc)
    · rw [List.mem_singleton.mp hc] at hspreadc ⊢
      refine h.mem_of_not_fresh (hbefore hroom) ((spread_le_append _).trans hspreadc) ?_
      intro hfresh
      rw [spread_append_of_fresh hfresh] at hspreadc
      exact absurd (hspread (hbefore hroom)) (Nat.not_le.mpr hspreadc)

/-- The group is not at its cap and the key is new: the list asks for one more place. -/
theorem Served.slots_append (h : Served key group cap room l taken)
    (hroom : slots key group cap l ≤ room) (hkey : key a ∉ taken.map key)
    (hcap : groupSize group taken (group a) < cap) :
    Fresh key group l a ∧ spread key group l (group a) < cap ∧
      slots key group cap (l ++ [a]) = slots key group cap l + 1 := by
  have hspread : spread key group l (group a) < cap := by
    rw [h.count hroom] at hcap
    exact (min_lt_iff.mp hcap).resolve_left (lt_irrefl cap)
  have hfresh : Fresh key group l a := not_not.mp fun hfresh =>
    hkey (h.mem_of_not_fresh hroom hspread.le hfresh)
  exact ⟨hfresh, hspread, slots_append_of_room hfresh hspread⟩

theorem Served.full (h : Served key group cap room l taken) (hkey : key a ∉ taken.map key)
    (hcap : groupSize group taken (group a) < cap) (hfull : room ≤ taken.length) :
    Served key group cap room (l ++ [a]) taken := by
  have hbefore : room ≤ slots key group cap l := by
    rw [h.length] at hfull
    exact hfull.trans (min_le_right _ _)
  have hover : ¬ slots key group cap (l ++ [a]) ≤ room := fun hroom => by
    have hle := slots_le_append.trans hroom
    rw [(h.slots_append hle hkey hcap).2.2] at hroom
    exact absurd hbefore (Nat.not_le.mpr hroom)
  refine ⟨fun c hc => List.mem_append_left _ (h.subset hc), ?_, fun hroom => absurd hroom hover,
    fun hroom => absurd hroom hover⟩
  rw [h.length, min_eq_left hbefore, min_eq_left (hbefore.trans slots_le_append)]

theorem Served.take (h : Served key group cap room l taken) (hkey : key a ∉ taken.map key)
    (hcap : groupSize group taken (group a) < cap) (hroom : taken.length < room) :
    Served key group cap room (l ++ [a]) (taken ++ [a]) := by
  have hbefore : slots key group cap l < room := by
    rw [h.length] at hroom
    exact (min_lt_iff.mp hroom).resolve_left (lt_irrefl room)
  obtain ⟨hfresh, hspread, hslots⟩ := h.slots_append hbefore.le hkey hcap
  refine ⟨List.append_subset.mpr ⟨fun c hc => List.mem_append_left _ (h.subset hc),
    List.subset_append_right _ _⟩, ?_, ?_, ?_⟩
  · rw [hslots, List.length_append, List.length_singleton, h.length, min_eq_right hbefore.le,
      min_eq_right hbefore]
  · intro _ g
    rw [groupSize, List.map_append, List.count_append, ← groupSize, h.count hbefore.le]
    by_cases hg : group a = g
    · subst hg
      rw [spread_append_of_fresh hfresh, min_eq_right hspread.le, min_eq_right hspread,
        List.map_singleton, List.count_singleton_self]
    · rw [spread_append_of_ne hg, List.map_singleton, List.count_singleton,
        if_neg (by simpa using hg), Nat.add_zero]
  · intro _ c hc hcapc
    rw [List.map_append]
    rcases List.mem_append.mp hc with hc | hc
    · exact List.mem_append_left _
        (h.keys hbefore.le c hc ((spread_le_append _).trans hcapc))
    · rw [List.mem_singleton.mp hc]
      exact List.mem_append_right _ List.mem_cons_self

theorem Served.letIn (h : Served key group cap room l taken)
    (hcoherent : Coherent key group (l ++ [a])) :
    Served key group cap room (l ++ [a]) (letIn key group cap room taken a) := by
  unfold Admission.letIn
  split
  · rename_i hkey
    exact h.pass hcoherent hkey
  · rename_i hkey
    split
    · rename_i hcap
      exact h.cap_reached hcap
    · rename_i hcap
      split
      · rename_i hfull
        exact h.full hkey (Nat.lt_of_not_le hcap) hfull
      · rename_i hroom
        exact h.take hkey (Nat.lt_of_not_le hcap) (Nat.lt_of_not_le hroom)

end Step

omit [DecidableEq κ] [DecidableEq γ] in
theorem Coherent.mono {l' : List α} (h : Coherent key group l) (hsub : l' ⊆ l) :
    Coherent key group l' := fun a ha b hb => h a (hsub ha) b (hsub hb)

theorem admitAll_append (l m : List α) : admitAll key group cap room (l ++ m) =
    m.foldl (letIn key group cap room) (admitAll key group cap room l) :=
  List.foldl_append

/-- **As many are taken as there are places.** -/
theorem served_admitAll (hcoherent : Coherent key group l) :
    Served key group cap room l (admitAll key group cap room l) := by
  induction l using List.reverseRecOn with
  | nil => exact served_nil
  | append_singleton l a ih =>
    rw [admitAll_append]
    exact (ih (hcoherent.mono (List.subset_append_left _ _))).letIn hcoherent

theorem subset_letIn {taken : List α} : taken ⊆ letIn key group cap room taken a := by
  unfold letIn
  split
  · exact List.Subset.refl _
  · split
    · exact List.Subset.refl _
    · split
      · exact List.Subset.refl _
      · exact List.subset_append_left _ _

theorem subset_foldl_letIn (m : List α) {taken : List α} :
    taken ⊆ m.foldl (letIn key group cap room) taken := by
  induction m generalizing taken with
  | nil => exact List.Subset.refl _
  | cons a m ih => exact List.Subset.trans subset_letIn ih

theorem foldl_letIn_of_full (m : List α) {taken : List α} (h : room ≤ taken.length) :
    m.foldl (letIn key group cap room) taken = taken := by
  induction m with
  | nil => rfl
  | cons a m ih =>
    have hletIn : letIn key group cap room taken a = taken := by
      unfold letIn
      rw [if_pos h, ite_self, ite_self]
    rw [List.foldl_cons, hletIn, ih]

/-- **A group gets a place exactly when what came before its first item leaves room.** -/
theorem group_mem_admitAll_iff (hcap : 0 < cap) {before after : List α}
    (hcoherent : Coherent key group (before ++ a :: after))
    (hfirst : group a ∉ before.map group) :
    group a ∈ (admitAll key group cap room (before ++ a :: after)).map group ↔
      slots key group cap before < room := by
  have hbefore : Served key group cap room before (admitAll key group cap room before) :=
    served_admitAll (hcoherent.mono (List.subset_append_left _ _))
  constructor
  · intro hmem
    by_contra hfull
    have hlength : room ≤ (admitAll key group cap room before).length := by
      rw [hbefore.length, min_eq_left (Nat.le_of_not_lt hfull)]
    rw [admitAll_append, foldl_letIn_of_full _ hlength] at hmem
    exact hfirst (List.map_subset group hbefore.subset hmem)
  · intro hroom
    have hnext : Served key group cap room (before ++ [a])
        (admitAll key group cap room (before ++ [a])) := by
      refine served_admitAll (hcoherent.mono ?_)
      intro c hc
      rw [List.append_cons]
      exact List.mem_append_left _ hc
    have hpositive : 0 < spread key group (before ++ [a]) (group a) := by
      rw [spread, toFinset_append]
      exact Finset.card_pos.mpr ⟨key a, Finset.mem_insert_self _ _⟩
    have hcount := hnext.count (slots_append_le.trans hroom) (group a)
    have hmem : group a ∈ (admitAll key group cap room (before ++ [a])).map group := by
      rw [← List.count_pos_iff, ← groupSize, hcount]
      exact lt_min hcap hpositive
    rw [List.append_cons, admitAll_append]
    exact List.map_subset group (subset_foldl_letIn after) hmem

/-- What comes before the first item of a group. -/
def beforeGroup (group : α → γ) (g : γ) (l : List α) : List α :=
  l.takeWhile fun a => group a ≠ g

omit [DecidableEq κ] in
/-- What comes before the first item of a group stands at the front, when the group does. -/
theorem beforeGroup_subset {g : γ} {front rest : List α} (h : g ∈ front.map group) :
    beforeGroup group g (front ++ rest) ⊆ front := by
  induction front with
  | nil => exact absurd h List.not_mem_nil
  | cons b front ih =>
    intro c hc
    by_cases hb : group b = g
    · rw [beforeGroup, List.cons_append, List.takeWhile_cons_of_neg (by simpa using hb)] at hc
      exact absurd hc List.not_mem_nil
    · rw [beforeGroup, List.cons_append, List.takeWhile_cons_of_pos (by simpa using hb)] at hc
      rcases List.mem_cons.mp hc with rfl | hc
      · exact List.mem_cons_self
      · exact List.mem_cons_of_mem b
          (ih ((List.mem_cons.mp h).resolve_left fun heq => hb heq.symm) hc)

omit [DecidableEq κ] in
theorem exists_first_of_group {g : γ} (h : g ∈ l.map group) :
    ∃ a after, l = beforeGroup group g l ++ a :: after ∧ group a = g ∧
      g ∉ (beforeGroup group g l).map group := by
  induction l with
  | nil => exact absurd h List.not_mem_nil
  | cons b l ih =>
    by_cases hb : group b = g
    · have hnil : beforeGroup group g (b :: l) = [] := by
        rw [beforeGroup, List.takeWhile_cons_of_neg (by simpa using hb)]
      refine ⟨b, l, ?_, hb, ?_⟩
      · rw [hnil, List.nil_append]
      · rw [hnil]
        exact List.not_mem_nil
    · have hcons : beforeGroup group g (b :: l) = b :: beforeGroup group g l := by
        rw [beforeGroup, List.takeWhile_cons_of_pos (by simpa using hb), beforeGroup]
      obtain ⟨a, after, hl, hg, hfirst⟩ :=
        ih ((List.mem_cons.mp h).resolve_left fun heq => hb heq.symm)
      refine ⟨a, after, ?_, hg, ?_⟩
      · rw [hcons, List.cons_append, ← hl]
      · rw [hcons, List.map_cons, List.mem_cons, not_or]
        exact ⟨fun heq => hb heq.symm, hfirst⟩

variable (key cap room) in
/-- The same for a group of the list. -/
theorem mem_groups_admitAll_iff (hcap : 0 < cap) (hcoherent : Coherent key group l) {g : γ}
    (h : g ∈ l.map group) :
    g ∈ (admitAll key group cap room l).map group ↔
      slots key group cap (beforeGroup group g l) < room := by
  obtain ⟨a, after, hl, rfl, hfirst⟩ := exists_first_of_group h
  rw [hl] at hcoherent
  rw [← group_mem_admitAll_iff hcap hcoherent hfirst, ← hl]

end Admission

end Runlet
