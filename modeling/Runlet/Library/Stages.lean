import Mathlib.Data.List.Basic

/-!
# Chains of committed stages

A program that makes durable what it did stage by stage, and stops at the first stage that raises:
the state after a raise is what was durable then, not what the program started from.  A stage takes
the values that the stages before it passed on, and passes on values of its own.

* `Stages.run`: the chain, with the name of the stage that raised.
* `Stages.Stage.raising`: a stage that may be made to raise before its work is durable.  A raise
  after the work is a raise of a further stage that changes nothing.
* `Stages.run_append`: a chain cut in two.
* `Stages.Stage.Keeps`, `Stages.run_keeps`: what every stage leaves true, whether it raises or not,
  the chain leaves true.
* `Stages.Stage.Passes`, `Stages.run_passes`: what every stage passes on when it does not raise.
* `Stages.Stage.Follows`, `Stages.view_of_run_error`: what is left of a part of the state that each
  stage changes in its own way, when a stage raises.
* `Stages.compensate`: a chain with a handler for its raises.
-/

namespace Stages

variable {ι γ σ ε : Type*}

/-- A stage: its name, and what it does with the values passed on to it. -/
structure Stage (ι γ σ ε : Type*) where
  name : ι
  act : γ → σ → σ × Except ε γ

/-- The stage with the raise it is made to meet, if any. -/
def Stage.raising (raised : Option ε) (stage : Stage ι γ σ ε) : Stage ι γ σ ε where
  name := stage.name
  act c s :=
    match raised with
    | none => stage.act c s
    | some error => (s, .error error)

/-- The stages one after the other, up to the first one that raises. -/
def run : List (Stage ι γ σ ε) → γ → σ → σ × Except (ι × ε) γ
  | [], c, s => (s, .ok c)
  | stage :: rest, c, s =>
    match stage.act c s with
    | (s', .ok c') => run rest c' s'
    | (s', .error e) => (s', .error (stage.name, e))

section Run

@[simp] theorem Stage.name_raising (raised : Option ε) (stage : Stage ι γ σ ε) :
    (stage.raising raised).name = stage.name := rfl

/-- A stage that was made to raise and did not was not made to. -/
theorem Stage.act_of_raising_ok {raised : Option ε} {stage : Stage ι γ σ ε} {c c' : γ} {s s' : σ}
    (h : (stage.raising raised).act c s = (s', .ok c')) : stage.act c s = (s', .ok c') := by
  cases raised with
  | none => exact h
  | some error => exact nomatch h

/-- A stage that raises leaves the state that its own raise leaves, or changes nothing. -/
theorem Stage.act_of_raising_error {raised : Option ε} {stage : Stage ι γ σ ε} {c : γ} {s s' : σ}
    {e : ε} (h : (stage.raising raised).act c s = (s', .error e)) :
    stage.act c s = (s', .error e) ∨ s' = s := by
  cases raised with
  | none => exact Or.inl h
  | some error => exact Or.inr (Prod.mk.inj h).1.symm

/-- A stage that is refused, changing nothing, unless a condition holds: made to raise, it is refused
unless it was not made to and the condition holds. -/
theorem Stage.act_raising_cases {raised : Option ε} {stage : Stage ι γ σ ε} {c : γ} {s : σ}
    {A : Prop} {R : σ → Prop}
    (h : (¬ A ∧ ∃ e, stage.act c s = (s, .error e)) ∨
      A ∧ ∃ s' c', stage.act c s = (s', .ok c') ∧ R s') :
    (¬ (raised = none ∧ A) ∧ ∃ e, (stage.raising raised).act c s = (s, .error e)) ∨
      (raised = none ∧ A) ∧ ∃ s' c', (stage.raising raised).act c s = (s', .ok c') ∧ R s' := by
  cases raised with
  | none =>
    rcases h with ⟨hA, herror⟩ | ⟨hA, hok⟩
    · exact Or.inl ⟨fun hand => hA hand.2, herror⟩
    · exact Or.inr ⟨⟨rfl, hA⟩, hok⟩
  | some error => exact Or.inl ⟨fun hand => Option.some_ne_none _ hand.1, error, rfl⟩

variable {stages rest : List (Stage ι γ σ ε)} {stage : Stage ι γ σ ε} {c c' : γ} {s s' : σ}
  {e : ε} {raised : ι × ε}

theorem run_cons_ok (h : stage.act c s = (s', .ok c')) :
    run (stage :: rest) c s = run rest c' s' := by
  rw [run, h]

theorem run_cons_error (h : stage.act c s = (s', .error e)) :
    run (stage :: rest) c s = (s', .error (stage.name, e)) := by
  rw [run, h]

theorem run_append (stages rest : List (Stage ι γ σ ε)) (c : γ) (s : σ) :
    run (stages ++ rest) c s =
      match run stages c s with
      | (s', .ok c') => run rest c' s'
      | (s', .error raised) => (s', .error raised) := by
  induction stages generalizing c s with
  | nil => rfl
  | cons stage stages ih =>
    rw [List.cons_append, run, run]
    cases h : stage.act c s with
    | mk s' result =>
      cases result with
      | ok c' => exact ih c' s'
      | error e => rfl

/-- A chain cut in two raises in the first part, or in the second after the first ended. -/
theorem run_append_error (h : run (stages ++ rest) c s = (s', .error raised)) :
    run stages c s = (s', .error raised) ∨
      ∃ c₁ s₁, run stages c s = (s₁, .ok c₁) ∧ run rest c₁ s₁ = (s', .error raised) := by
  rw [run_append] at h
  cases hrun : run stages c s with
  | mk s₁ result =>
    rw [hrun] at h
    cases result with
    | ok c₁ => exact Or.inr ⟨c₁, s₁, rfl, h⟩
    | error raised' => exact Or.inl h

theorem run_append_ok (h : run (stages ++ rest) c s = (s', .ok c')) :
    ∃ c₁ s₁, run stages c s = (s₁, .ok c₁) ∧ run rest c₁ s₁ = (s', .ok c') := by
  rw [run_append] at h
  cases hrun : run stages c s with
  | mk s₁ result =>
    rw [hrun] at h
    cases result with
    | ok c₁ => exact ⟨c₁, s₁, rfl, h⟩
    | error raised' => exact nomatch h

/-- The stage that raised is one of the chain. -/
theorem name_mem_of_error (h : run stages c s = (s', .error raised)) :
    ∃ stage ∈ stages, stage.name = raised.1 := by
  induction stages generalizing c s with
  | nil => exact nomatch h
  | cons stage stages ih =>
    cases hact : stage.act c s with
    | mk s₁ result =>
      cases result with
      | ok c₁ =>
        rw [run_cons_ok hact] at h
        obtain ⟨other, hother, hname⟩ := ih h
        exact ⟨other, List.mem_cons_of_mem _ hother, hname⟩
      | error e =>
        rw [run_cons_error hact] at h
        refine ⟨stage, List.mem_cons_self, ?_⟩
        have hraised := (Prod.mk.inj h).2
        rw [← Except.error.inj hraised]

end Run

/-! ## What a stage leaves true -/

section Keeps

variable {P : σ → Prop} {Q : γ → Prop}

/-- The stage leaves the property true, whether it raises or not. -/
def Stage.Keeps (P : σ → Prop) (stage : Stage ι γ σ ε) : Prop :=
  ∀ c s, P s → P (stage.act c s).1

theorem Stage.Keeps.raising {stage : Stage ι γ σ ε} (h : stage.Keeps P) (raised : Option ε) :
    (stage.raising raised).Keeps P := by
  intro c s hs
  cases raised with
  | none => exact h c s hs
  | some error => exact hs

/-- **What every stage leaves true, the chain leaves true.** -/
theorem run_keeps {stages : List (Stage ι γ σ ε)} (h : ∀ stage ∈ stages, stage.Keeps P) {c : γ}
    {s : σ} (hs : P s) : P (run stages c s).1 := by
  induction stages generalizing c s with
  | nil => exact hs
  | cons stage stages ih =>
    have hstage := h stage List.mem_cons_self c s hs
    have hrest : ∀ other ∈ stages, other.Keeps P := fun other hother =>
      h other (List.mem_cons_of_mem _ hother)
    cases hact : stage.act c s with
    | mk s' result =>
      rw [hact] at hstage
      cases result with
      | ok c' =>
        rw [run_cons_ok hact]
        exact ih hrest hstage
      | error e =>
        rw [run_cons_error hact]
        exact hstage

/-- The stage passes on values with the property, when it got some. -/
def Stage.Passes (Q : γ → Prop) (stage : Stage ι γ σ ε) : Prop :=
  ∀ c s s' c', Q c → stage.act c s = (s', .ok c') → Q c'

theorem Stage.Passes.raising {stage : Stage ι γ σ ε} (h : stage.Passes Q) (raised : Option ε) :
    (stage.raising raised).Passes Q := by
  intro c s s' c' hc hact
  cases raised with
  | none => exact h c s s' c' hc hact
  | some error => exact nomatch hact

theorem run_passes {stages : List (Stage ι γ σ ε)} (h : ∀ stage ∈ stages, stage.Passes Q) {c c' : γ}
    {s s' : σ} (hc : Q c) (hrun : run stages c s = (s', .ok c')) : Q c' := by
  induction stages generalizing c s with
  | nil => exact Except.ok.inj (Prod.mk.inj hrun).2 ▸ hc
  | cons stage stages ih =>
    have hrest : ∀ other ∈ stages, other.Passes Q := fun other hother =>
      h other (List.mem_cons_of_mem _ hother)
    cases hact : stage.act c s with
    | mk s₁ result =>
      cases result with
      | ok c₁ =>
        rw [run_cons_ok hact] at hrun
        exact ih hrest (h stage List.mem_cons_self c s s₁ c₁ hc hact) hrun
      | error e =>
        rw [run_cons_error hact] at hrun
        exact nomatch hrun

end Keeps

/-! ## What a stage does to a part of the state -/

section Follows

variable {β : Type*} {view : σ → β} {effect : ι → β → β}

/-- The stage acts on the part of the state that `view` shows as `f` does, and leaves that part
alone when it raises. -/
structure Stage.Follows (view : σ → β) (f : β → β) (stage : Stage ι γ σ ε) : Prop where
  ok : ∀ c s s' c', stage.act c s = (s', .ok c') → view s' = f (view s)
  error : ∀ c s s' e, stage.act c s = (s', .error e) → view s' = view s

theorem Stage.Follows.raising {f : β → β} {stage : Stage ι γ σ ε} (h : stage.Follows view f)
    (raised : Option ε) : (stage.raising raised).Follows view f where
  ok c s s' c' hact := h.ok c s s' c' (Stage.act_of_raising_ok hact)
  error c s s' e hact := by
    rcases Stage.act_of_raising_error hact with hact' | rfl
    · exact h.error c s s' e hact'
    · rfl

/-- A chain that ended had the effects of all its stages. -/
theorem view_of_run_ok {stages : List (Stage ι γ σ ε)}
    (h : ∀ stage ∈ stages, stage.Follows view (effect stage.name)) {c c' : γ} {s s' : σ}
    (hrun : run stages c s = (s', .ok c')) :
    view s' = (stages.map Stage.name).foldl (fun v name => effect name v) (view s) := by
  induction stages generalizing c s with
  | nil => rw [← (Prod.mk.inj hrun).1]; rfl
  | cons stage stages ih =>
    have hrest : ∀ other ∈ stages, other.Follows view (effect other.name) := fun other hother =>
      h other (List.mem_cons_of_mem _ hother)
    cases hact : stage.act c s with
    | mk s₁ result =>
      cases result with
      | ok c₁ =>
        rw [run_cons_ok hact] at hrun
        rw [ih hrest hrun, (h stage List.mem_cons_self).ok c s s₁ c₁ hact]
        rfl
      | error e =>
        rw [run_cons_error hact] at hrun
        exact nomatch hrun

/-- **A chain that raised had the effects of the stages before the one that raised.** -/
theorem view_of_run_error [DecidableEq ι] {stages : List (Stage ι γ σ ε)}
    (h : ∀ stage ∈ stages, stage.Follows view (effect stage.name))
    (hnames : (stages.map Stage.name).Nodup) {c : γ} {s s' : σ} {raised : ι × ε}
    (hrun : run stages c s = (s', .error raised)) :
    view s' = ((stages.map Stage.name).takeWhile (· ≠ raised.1)).foldl
      (fun v name => effect name v) (view s) := by
  induction stages generalizing c s with
  | nil => exact nomatch hrun
  | cons stage stages ih =>
    have hrest : ∀ other ∈ stages, other.Follows view (effect other.name) := fun other hother =>
      h other (List.mem_cons_of_mem _ hother)
    rw [List.map_cons, List.nodup_cons] at hnames
    cases hact : stage.act c s with
    | mk s₁ result =>
      cases result with
      | ok c₁ =>
        rw [run_cons_ok hact] at hrun
        -- the stage that raised is a later one, under another name
        obtain ⟨other, hother, hname⟩ := name_mem_of_error hrun
        have hne : stage.name ≠ raised.1 := fun heq =>
          hnames.1 (heq ▸ hname ▸ List.mem_map_of_mem hother)
        rw [ih hrest hnames.2 hrun, (h stage List.mem_cons_self).ok c s s₁ c₁ hact, List.map_cons,
          List.takeWhile_cons_of_pos (by simpa using hne)]
        rfl
      | error e =>
        rw [run_cons_error hact] at hrun
        obtain ⟨rfl, hraised⟩ := Prod.mk.inj hrun
        have hname : stage.name = raised.1 := congrArg Prod.fst (Except.error.inj hraised)
        rw [List.map_cons, List.takeWhile_cons_of_neg (by simpa using hname),
          (h stage List.mem_cons_self).error c s s₁ e hact]
        rfl

end Follows

/-! ## A handler for raises -/

section Compensate

/-- The chain, and the handler where it raised.  A raise of the handler replaces the first one. -/
def compensate (stages : List (Stage ι γ σ ε)) (handler : σ → σ × Except ε Unit) (c : γ) (s : σ) :
    σ × Except (ι × ε) γ :=
  match run stages c s with
  | (s', .ok c') => (s', .ok c')
  | (s', .error (name, e)) =>
    match handler s' with
    | (s'', .ok ()) => (s'', .error (name, e))
    | (s'', .error e') => (s'', .error (name, e'))

variable {stages : List (Stage ι γ σ ε)} {handler : σ → σ × Except ε Unit} {c c' : γ} {s s' : σ}
  {raised : ι × ε}

theorem run_of_compensate_ok (h : compensate stages handler c s = (s', .ok c')) :
    run stages c s = (s', .ok c') := by
  unfold compensate at h
  split at h
  · rename_i hrun
    rw [hrun]
    exact h
  · split at h
    · exact nomatch h
    · exact nomatch h

/-- The state after a raise is the state that the handler leaves of it. -/
theorem run_of_compensate_error (h : compensate stages handler c s = (s', .error raised)) :
    ∃ s₁ e, run stages c s = (s₁, .error (raised.1, e)) ∧ s' = (handler s₁).1 := by
  unfold compensate at h
  split at h
  · exact nomatch h
  · rename_i s₁ name e hrun
    refine ⟨s₁, e, ?_⟩
    split at h
    · rename_i s₂ hhandler
      obtain ⟨rfl, hraised⟩ := Prod.mk.inj h
      rw [← Except.error.inj hraised, hhandler]
      exact ⟨hrun, rfl⟩
    · rename_i s₂ e' hhandler
      obtain ⟨rfl, hraised⟩ := Prod.mk.inj h
      rw [← Except.error.inj hraised, hhandler]
      exact ⟨hrun, rfl⟩

end Compensate

end Stages
