import Mathlib.Data.List.Induction

/-! Runs of a machine that is driven one operation at a time.

    A machine is a step function `S → Op → R × S`: it answers every operation and moves on. `exec`
    folds it over a list of operations and keeps the log of answers. `Adm` says that every operation
    of the list met a condition in the state it was applied to, and `exec_invariant` is the one
    induction every "for all runs" result of the development goes through. -/

namespace Translator.Schemes

variable {S Op R : Type*}

/-- One fold step: apply the operation and append it with its answer to the log. -/
def logStep (step : S → Op → R × S) (st : List (Op × R) × S) (op : Op) : List (Op × R) × S :=
  (st.1 ++ [(op, (step st.2 op).1)], (step st.2 op).2)

/-- The log and the final state of a run. -/
def exec (step : S → Op → R × S) (s₀ : S) (ops : List Op) : List (Op × R) × S :=
  ops.foldl (logStep step) ([], s₀)

/-- Every operation meets `ok` in the state it is applied to. -/
def Adm (step : S → Op → R × S) (ok : S → Op → Prop) (s₀ : S) (ops : List Op) : Prop :=
  ∀ pre op, pre ++ [op] <+: ops → ok (exec step s₀ pre).2 op

theorem exec_nil (step : S → Op → R × S) (s₀ : S) : exec step s₀ [] = ([], s₀) := rfl

theorem exec_concat (step : S → Op → R × S) (s₀ : S) (ops : List Op) (op : Op) :
    exec step s₀ (ops ++ [op]) = logStep step (exec step s₀ ops) op := by
  rw [exec, List.foldl_append]; rfl

/-- The log names the operations in order. -/
theorem exec_ops (step : S → Op → R × S) (s₀ : S) (ops : List Op) :
    (exec step s₀ ops).1.map Prod.fst = ops := by
  induction ops using List.reverseRecOn with
  | nil => rfl
  | append_singleton ops op ih => rw [exec_concat, logStep, List.map_append, ih]; rfl

theorem adm_true (step : S → Op → R × S) (s₀ : S) (ops : List Op) :
    Adm step (fun _ _ => True) s₀ ops := fun _ _ _ => trivial

theorem adm_nil (step : S → Op → R × S) (ok : S → Op → Prop) (s₀ : S) : Adm step ok s₀ [] :=
  fun _ _ hp => by simp at hp

theorem adm_of_forall {step : S → Op → R × S} {ok : S → Op → Prop} {s₀ : S} {ops : List Op}
    (h : ∀ op ∈ ops, ∀ s, ok s op) : Adm step ok s₀ ops :=
  fun _ op hp => h op (hp.subset (List.mem_append_right _ (List.mem_singleton_self op))) _

theorem adm_concat {step : S → Op → R × S} {ok : S → Op → Prop} {s₀ : S} {ops : List Op} {op : Op}
    (h : Adm step ok s₀ (ops ++ [op])) :
    Adm step ok s₀ ops ∧ ok (exec step s₀ ops).2 op :=
  ⟨fun pre o hp => h pre o (hp.trans (List.prefix_append ..)), h ops op (List.prefix_refl _)⟩

/-- The state does not depend on the log it is folded with. -/
theorem foldl_state (step : S → Op → R × S) : ∀ (ops : List Op) (log : List (Op × R)) (s : S),
    (ops.foldl (logStep step) (log, s)).2 = (exec step s ops).2
  | [], _, _ => rfl
  | op :: ops, log, s => by
    rw [exec, List.foldl_cons, List.foldl_cons, logStep, logStep, foldl_state step ops,
      foldl_state step ops]

theorem exec_cons_state (step : S → Op → R × S) (s₀ : S) (op : Op) (ops : List Op) :
    (exec step s₀ (op :: ops)).2 = (exec step (step s₀ op).2 ops).2 :=
  foldl_state step ops [(op, (step s₀ op).1)] (step s₀ op).2

theorem exec_append_state (step : S → Op → R × S) (s₀ : S) (ops more : List Op) :
    (exec step s₀ (ops ++ more)).2 = (exec step (exec step s₀ ops).2 more).2 := by
  rw [exec, List.foldl_append]
  exact foldl_state step more _ _

/-- A run that goes on with one operation more. -/
theorem adm_snoc {step : S → Op → R × S} {ok : S → Op → Prop} {s₀ : S} {ops : List Op} {op : Op}
    (h : Adm step ok s₀ ops) (hop : ok (exec step s₀ ops).2 op) : Adm step ok s₀ (ops ++ [op]) := by
  intro pre op' hp
  rcases List.prefix_concat_iff.mp hp with heq | hold
  · obtain ⟨rfl, hlast⟩ := List.append_inj' heq rfl
    obtain rfl := List.singleton_inj.mp hlast
    exact hop
  · exact h pre op' hold

/-- A run that goes on with operations that always meet the condition. -/
theorem adm_append_forall {step : S → Op → R × S} {ok : S → Op → Prop} {s₀ : S} {ops more : List Op}
    (h : Adm step ok s₀ ops) (hmore : ∀ op ∈ more, ∀ s, ok s op) : Adm step ok s₀ (ops ++ more) := by
  induction more using List.reverseRecOn with
  | nil => rwa [List.append_nil]
  | append_singleton more last ih =>
    rw [← List.append_assoc]
    refine adm_snoc (ih fun op ho => hmore op (List.mem_append_left _ ho)) ?_
    exact hmore last (List.mem_append_right _ (List.mem_singleton_self _)) _

theorem adm_cons {step : S → Op → R × S} {ok : S → Op → Prop} {s₀ : S} {op : Op} {ops : List Op}
    (hop : ok s₀ op) (h : Adm step ok (step s₀ op).2 ops) : Adm step ok s₀ (op :: ops) := by
  rintro (_ | ⟨o, pre⟩) op' hp
  · obtain rfl : op' = op := (List.cons_prefix_cons.mp hp).1
    exact hop
  · obtain ⟨rfl, hpre⟩ := List.cons_prefix_cons.mp hp
    have := h pre op' hpre
    rwa [← foldl_state step pre [(o, (step s₀ o).1)]] at this

/-- A run checked as it goes, without its log. -/
def walk (step : S → Op → R × S) (ok : S → Op → Bool) : S → List Op → Bool
  | _, [] => true
  | s, op :: ops => ok s op && walk step ok (step s op).2 ops

/-- A run whose walk passes is admitted. -/
theorem adm_of_walk {step : S → Op → R × S} {ok : S → Op → Bool} {s₀ : S} {ops : List Op}
    (h : walk step ok s₀ ops = true) : Adm step (fun s op => ok s op = true) s₀ ops := by
  induction ops generalizing s₀ with
  | nil => exact adm_nil step _ s₀
  | cons op ops ih =>
    rw [walk, Bool.and_eq_true] at h
    exact adm_cons h.1 (ih h.2)

/-- Every operation meets a condition that may look back at the log. -/
def AdmLog (step : S → Op → R × S) (ok : List (Op × R) → S → Op → Prop) (s₀ : S) (ops : List Op) :
    Prop :=
  ∀ pre op, pre ++ [op] <+: ops → ok (exec step s₀ pre).1 (exec step s₀ pre).2 op

theorem admLog_concat {step : S → Op → R × S} {ok : List (Op × R) → S → Op → Prop} {s₀ : S}
    {ops : List Op} {op : Op} (h : AdmLog step ok s₀ (ops ++ [op])) :
    AdmLog step ok s₀ ops ∧ ok (exec step s₀ ops).1 (exec step s₀ ops).2 op :=
  ⟨fun pre o hp => h pre o (hp.trans (List.prefix_append ..)), h ops op (List.prefix_refl _)⟩

/-- A run checked as it goes: its log and state, and whether every operation met the condition. -/
def admCheck (step : S → Op → R × S) (ok : List (Op × R) → S → Op → Bool) (s₀ : S) (ops : List Op) :
    (List (Op × R) × S) × Bool :=
  ops.foldl (fun st op => (logStep step st.1 op, st.2 && ok st.1.1 st.1.2 op)) (([], s₀), true)

theorem admCheck_concat (step : S → Op → R × S) (ok : List (Op × R) → S → Op → Bool) (s₀ : S)
    (ops : List Op) (op : Op) :
    admCheck step ok s₀ (ops ++ [op])
      = (logStep step (admCheck step ok s₀ ops).1 op, (admCheck step ok s₀ ops).2
          && ok (admCheck step ok s₀ ops).1.1 (admCheck step ok s₀ ops).1.2 op) := by
  rw [admCheck, List.foldl_append]
  rfl

theorem admCheck_fst (step : S → Op → R × S) (ok : List (Op × R) → S → Op → Bool) (s₀ : S)
    (ops : List Op) : (admCheck step ok s₀ ops).1 = exec step s₀ ops := by
  induction ops using List.reverseRecOn with
  | nil => rfl
  | append_singleton ops op ih => rw [admCheck_concat, exec_concat, ih]

/-- A run that passes the check is admitted. -/
theorem admLog_of_check {step : S → Op → R × S} {ok : List (Op × R) → S → Op → Bool} {s₀ : S}
    {ops : List Op} (h : (admCheck step ok s₀ ops).2 = true) :
    AdmLog step (fun log s op => ok log s op = true) s₀ ops := by
  induction ops using List.reverseRecOn with
  | nil => intro pre op hp; simp at hp
  | append_singleton ops op ih =>
    rw [admCheck_concat, Bool.and_eq_true, admCheck_fst] at h
    intro pre o hp
    rcases List.prefix_concat_iff.mp hp with heq | hp
    · obtain ⟨rfl, ho⟩ := List.append_inj' heq rfl
      cases ho
      exact h.2
    · exact ih h.1 pre o hp

/-- The invariant rule: a property of the log and the state that holds at the start and is kept by
    every admitted step holds at the end of every admitted run. -/
theorem exec_log_invariant {step : S → Op → R × S} {ok : List (Op × R) → S → Op → Prop} {s₀ : S}
    {I : List (Op × R) → S → Prop} (h0 : I [] s₀)
    (hstep : ∀ log s op, I log s → ok log s op → I (log ++ [(op, (step s op).1)]) (step s op).2)
    (ops : List Op) (hadm : AdmLog step ok s₀ ops) :
    I (exec step s₀ ops).1 (exec step s₀ ops).2 := by
  induction ops using List.reverseRecOn with
  | nil => exact h0
  | append_singleton ops op ih =>
    obtain ⟨hpre, hop⟩ := admLog_concat hadm
    rw [exec_concat]
    exact hstep _ _ op (ih hpre) hop

/-- The invariant rule where the condition is on the state alone. -/
theorem exec_invariant {step : S → Op → R × S} {ok : S → Op → Prop} {s₀ : S}
    {I : List (Op × R) → S → Prop} (h0 : I [] s₀)
    (hstep : ∀ log s op, I log s → ok s op → I (log ++ [(op, (step s op).1)]) (step s op).2)
    (ops : List Op) (hadm : Adm step ok s₀ ops) :
    I (exec step s₀ ops).1 (exec step s₀ ops).2 :=
  exec_log_invariant h0 hstep ops hadm

/-- The invariant rule for a property of the state alone, over unrestricted runs. -/
theorem exec_state_invariant {step : S → Op → R × S} {s₀ : S} {I : S → Prop} (h0 : I s₀)
    (hstep : ∀ s op, I s → I (step s op).2) (ops : List Op) : I (exec step s₀ ops).2 :=
  exec_invariant (I := fun _ s => I s) h0 (fun _ s op h _ => hstep s op h) ops
    (adm_true step s₀ ops)

/-- A condition on every entry of a log, given the log before it. -/
def AtEach {E : Type*} (P : List E → E → Prop) (log : List E) : Prop :=
  ∀ pre a post, log = pre ++ a :: post → P pre a

theorem atEach_nil {E : Type*} (P : List E → E → Prop) : AtEach P [] := by
  rintro pre a post h
  simp at h

/-- A longer log keeps the condition when its last entry meets it. -/
theorem atEach_concat {E : Type*} {P : List E → E → Prop} {log : List E} {b : E}
    (h : AtEach P log) (hb : P log b) : AtEach P (log ++ [b]) := by
  intro pre a post heq
  rcases List.eq_nil_or_concat post with rfl | ⟨post, b', rfl⟩
  · obtain ⟨rfl, hab⟩ := List.append_inj' heq rfl
    cases hab
    exact hb
  · rw [List.concat_eq_append, ← List.cons_append, ← List.append_assoc] at heq
    obtain ⟨hlog, -⟩ := List.append_inj' heq rfl
    exact h pre a post hlog

end Translator.Schemes
