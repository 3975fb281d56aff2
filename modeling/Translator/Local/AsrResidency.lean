import Translator.Local.AsrModelManager

/-! What the calls of an `AsrModelManager` leave behind, whatever the model library answers. Each failure
    that is worth another try lowers the rank of the manager: from the large model to the small one, and
    from CUDA to the CPU. -/

namespace Translator.Local
open Schemes
open Core (Language TranslationMode)

/-- The large model on CUDA, the small one on CUDA, and what is left. -/
def AsrModelManager.rank (s : AsrModelManager) : Nat :=
  if s.actualDevice = .cpu then 0 else if s.selectedId = "large-v3" then 2 else 1

theorem AsrModelManager.rank_le (s : AsrModelManager) : s.rank ≤ 2 := by
  unfold rank
  split
  · exact Nat.zero_le 2
  · split <;> decide

/-- The model is the one that is wanted, under its name, and nothing runs. -/
structure Resident (s : AsrModelManager) : Prop where
  named : s.residentModelId = s.model.map Model.modelId
  wanted : ∀ model, s.model = some model → model = s.wanted
  idle : s.activeCallCount = 0

/-- On the CPU it is the small model. -/
def Supported (s : AsrModelManager) : Prop := s.actualDevice = .cpu → s.selectedId = "small"

/-- The device goes to the CPU only, the model to the small one only, and what is degraded or unavailable
    stays so. -/
structure Degrades (s s' : AsrModelManager) : Prop where
  device : s'.actualDevice = s.actualDevice ∨ s'.actualDevice = .cpu
  model : s'.selectedId = s.selectedId ∨ s'.selectedId = "small"
  degraded : s.degraded = true → s'.degraded = true
  unavailable : s.unavailable = true → s'.unavailable = true

theorem Degrades.refl (s : AsrModelManager) : Degrades s s := ⟨.inl rfl, .inl rfl, id, id⟩

theorem Degrades.trans {a b c : AsrModelManager} (h : Degrades a b) (h' : Degrades b c) : Degrades a c := by
  refine ⟨?_, ?_, h'.degraded ∘ h.degraded, h'.unavailable ∘ h.unavailable⟩
  · rcases h'.device with hsame | hcpu
    · rw [hsame]
      exact h.device
    · exact .inr hcpu
  · rcases h'.model with hsame | hsmall
    · rw [hsame]
      exact h.model
    · exact .inr hsmall

def Happening.isLoad : Happening → Bool
  | .loaded _ _ => true
  | _ => false

def Happening.isInference : Happening → Bool
  | .inferred _ _ _ _ _ => true
  | _ => false

/-- On the CPU only the small model is loaded. -/
def Happening.LoadsSmall : Happening → Prop
  | .loaded model _ => model.device = .cpu → model.modelId = "small"
  | _ => True

/-- From the one state to the other there are so many loads and inferences at most. -/
def Spends (loads inferences : Nat) (s s' : AsrModelManager) : Prop :=
  ∃ more, s'.history = s.history ++ more ∧ more.countP Happening.isLoad ≤ loads
    ∧ more.countP Happening.isInference ≤ inferences ∧ ∀ happening ∈ more, happening.LoadsSmall

theorem Spends.trans {l i l' i' : Nat} {a b c : AsrModelManager} (h : Spends l i a b)
    (h' : Spends l' i' b c) : Spends (l + l') (i + i') a c := by
  obtain ⟨more, hmore, hloads, hinferences, hsmall⟩ := h
  obtain ⟨more', hmore', hloads', hinferences', hsmall'⟩ := h'
  refine ⟨more ++ more', ?_, ?_, ?_, fun happening hmem => ?_⟩
  · rw [hmore', hmore, List.append_assoc]
  · rw [List.countP_append]
    exact Nat.add_le_add hloads hloads'
  · rw [List.countP_append]
    exact Nat.add_le_add hinferences hinferences'
  · rcases List.mem_append.mp hmem with hmem | hmem
    · exact hsmall happening hmem
    · exact hsmall' happening hmem

theorem Spends.mono {l i l' i' : Nat} {s s' : AsrModelManager} (h : Spends l i s s') (hl : l ≤ l')
    (hi : i ≤ i') : Spends l' i' s s' := by
  obtain ⟨more, hmore, hloads, hinferences, hsmall⟩ := h
  exact ⟨more, hmore, hloads.trans hl, hinferences.trans hi, hsmall⟩

theorem spends_same {s s' : AsrModelManager} (h : s'.history = s.history) : Spends 0 0 s s' :=
  ⟨[], by rw [h, List.append_nil], Nat.le_refl 0, Nat.le_refl 0, fun _ h => absurd h List.not_mem_nil⟩

/-- One thing that is neither a load nor an inference. -/
theorem spends_quiet {s s' : AsrModelManager} {happening : Happening}
    (h : s'.history = s.history ++ [happening]) (hload : happening.isLoad = false)
    (hinference : happening.isInference = false) (hsmall : happening.LoadsSmall) : Spends 0 0 s s' := by
  refine ⟨[happening], h, ?_, ?_, fun other hmem => ?_⟩
  · simp [hload]
  · simp [hinference]
  · rw [List.mem_singleton.mp hmem]
    exact hsmall

/-! ### The steps of a turn -/

section Calls

variable {rt : AsrRuntime}

/-- The choice of device and model is the same, and neither a load nor an inference has come between. -/
structure Unmoved (s s' : AsrModelManager) : Prop where
  device : s'.actualDevice = s.actualDevice
  model : s'.selectedId = s.selectedId
  degraded : s'.degraded = s.degraded
  unavailable : s.unavailable = true → s'.unavailable = true
  idle : s'.activeCallCount = s.activeCallCount
  spends : Spends 0 0 s s'

theorem Unmoved.refl (s : AsrModelManager) : Unmoved s s := ⟨rfl, rfl, rfl, id, rfl, spends_same rfl⟩

theorem Unmoved.trans {a b c : AsrModelManager} (h : Unmoved a b) (h' : Unmoved b c) : Unmoved a c :=
  ⟨h'.device.trans h.device, h'.model.trans h.model, h'.degraded.trans h.degraded,
    h'.unavailable ∘ h.unavailable, h'.idle.trans h.idle, h.spends.trans h'.spends⟩

theorem Unmoved.degrades {s s' : AsrModelManager} (h : Unmoved s s') : Degrades s s' :=
  ⟨.inl h.device, .inl h.model, fun hs => h.degraded.trans hs, h.unavailable⟩

theorem unmoved_note {s : AsrModelManager} {happening : Happening} (hload : happening.isLoad = false)
    (hinference : happening.isInference = false) (hsmall : happening.LoadsSmall) :
    Unmoved s (s.note happening) :=
  ⟨rfl, rfl, rfl, id, rfl, spends_quiet rfl hload hinference hsmall⟩

theorem query_wp {R : Type} {answer : List Happening → R} {happened : R → Happening}
    {post : Call.Post AsrModelManager AsrError R} {s : AsrModelManager} :
    (query answer happened).wp post s
      = post.ok (answer s.history) (s.note (happened (answer s.history))) := rfl

/-- The model is gone. -/
theorem dropResident_wp {invalidate : Bool} {s : AsrModelManager} :
    (dropResident rt invalidate).wp ⟨fun _ s' => Unmoved s s' ∧ s'.model = none ∧ s'.residentModelId = none,
      fun _ _ => False, fun _ => False⟩ s := by
  have hunload : (unloadNative rt s.model.isSome).wp ⟨fun _ s' => Unmoved s s', fun _ _ => False,
      fun _ => False⟩ s := by
    unfold unloadNative
    split
    · exact unmoved_note rfl rfl trivial
    · exact Unmoved.refl s
  unfold dropResident
  rw [Call.wp_bind, Call.wp_get]
  dsimp only
  rw [Call.wp_bind]
  refine Call.wp_mono hunload (fun unloaded s₁ hs₁ => ?_) (fun _ _ h => h) fun _ h => h
  dsimp only
  rw [Call.wp_bind, Call.wp_modify]
  dsimp only
  rw [Call.wp_bind, query_wp]
  dsimp only
  rw [Call.wp_bind, Call.wp_modify]
  dsimp only
  rw [Call.wp_bind, Call.wp_get]
  dsimp only
  rw [Call.wp_bind, Call.wp_modify]
  dsimp only
  rw [Call.wp_pure]
  have hnote : Unmoved s₁ ({ s₁ with model := none, residentModelId := none }.note
      (.releasedCuda (rt.releaseCuda s₁.history))) :=
    ⟨rfl, rfl, rfl, id, rfl, spends_quiet rfl rfl rfl trivial⟩
  have hall := hs₁.trans hnote
  split <;> split
  · exact ⟨hall.trans ⟨rfl, rfl, rfl, id, rfl, spends_same rfl⟩, rfl, rfl⟩
  · exact ⟨hall.trans ⟨rfl, rfl, rfl, fun _ => rfl, rfl, spends_same rfl⟩, rfl, rfl⟩
  · exact ⟨hall, rfl, rfl⟩
  · exact ⟨hall.trans ⟨rfl, rfl, rfl, fun _ => rfl, rfl, spends_same rfl⟩, rfl, rfl⟩

/-- The manager is resident again, has come down at most, and has spent no more than this. -/
structure Comes (loads inferences : Nat) (s s' : AsrModelManager) : Prop where
  resident : Resident s'
  supported : Supported s'
  degrades : Degrades s s'
  spends : Spends loads inferences s s'

theorem Comes.trans {l i l' i' : Nat} {a b c : AsrModelManager} (h : Comes l i a b) (h' : Comes l' i' b c) :
    Comes (l + l') (i + i') a c :=
  ⟨h'.resident, h'.supported, h.degrades.trans h'.degrades, h.spends.trans h'.spends⟩

theorem Comes.mono {l i l' i' : Nat} {s s' : AsrModelManager} (h : Comes l i s s') (hl : l ≤ l')
    (hi : i ≤ i') : Comes l' i' s s' :=
  ⟨h.resident, h.supported, h.degrades, h.spends.mono hl hi⟩

/-- Nothing but availability has changed. -/
theorem Comes.unavailable {l i : Nat} {s s' : AsrModelManager} (h : Comes l i s s') :
    Comes l i s { s' with unavailable := true } := by
  obtain ⟨more, hmore⟩ := h.spends
  exact ⟨⟨h.resident.named, h.resident.wanted, h.resident.idle⟩, h.supported,
    ⟨h.degrades.device, h.degrades.model, h.degrades.degraded, fun _ => rfl⟩, more, hmore⟩

/-- Without a model there is nothing to agree on. -/
theorem comes_dropped {s s' : AsrModelManager} (hs : Resident s) (hsupported : Supported s)
    (h : Unmoved s s' ∧ s'.model = none ∧ s'.residentModelId = none) : Comes 0 0 s s' := by
  obtain ⟨hunmoved, hmodel, hid⟩ := h
  refine ⟨⟨by rw [hid, hmodel]; rfl, fun model hsome => ?_, hunmoved.idle.trans hs.idle⟩, ?_,
    hunmoved.degrades, hunmoved.spends⟩
  · rw [hmodel] at hsome
    cases hsome
  · intro hcpu
    rw [hunmoved.model]
    exact hsupported (hunmoved.device ▸ hcpu)

/-- Giving up takes the manager down a rank, if it is to go on. -/
theorem giveUp_wp {device : Option Device} {s : AsrModelManager} (hs : Resident s)
    (hsupported : Supported s) (hdevice : device = none ∨ device = some .cpu)
    (hrank : s.actualDevice = .cuda ∧ (device = none → s.selectedId = "large-v3")) :
    (giveUp rt device).wp ⟨fun again s' => Comes 0 0 s s' ∧ (again = true → s'.rank < s.rank),
      fun _ _ => False, fun _ => False⟩ s := by
  unfold giveUp
  rw [Call.wp_bind]
  refine Call.wp_mono dropResident_wp (fun ok s₁ hs₁ => ?_) (fun _ _ h => h) fun _ h => h
  have hcomes := comes_dropped hs hsupported hs₁
  dsimp only
  split
  · exact ⟨hcomes, fun h => by cases h⟩
  rw [Call.wp_bind, Call.wp_modify]
  obtain ⟨hunmoved, hmodel, hid⟩ := hs₁
  obtain ⟨more, hmore⟩ := hunmoved.spends
  refine ⟨⟨⟨?_, fun model hsome => ?_, hcomes.resident.idle⟩, fun _ => rfl,
    ⟨?_, .inr rfl, fun _ => rfl, hunmoved.unavailable⟩, more, hmore⟩, fun _ => ?_⟩
  · exact hcomes.resident.named
  · exact absurd (hmodel.symm.trans hsome) (by simp)
  · rcases hdevice with rfl | rfl
    · exact .inl hunmoved.device
    · exact .inr rfl
  · unfold AsrModelManager.rank
    rcases hdevice with rfl | rfl
    · simp [hunmoved.device, hrank.1, hrank.2 rfl]
    · simp [hrank.1]
      split <;> decide

/-- A failure that is worth another try lowers the rank. -/
theorem handleCudaFailure_wp {failure : FailureKind} {s : AsrModelManager} (hs : Resident s)
    (hsupported : Supported s) :
    (handleCudaFailure rt failure).wp ⟨fun again s' => Comes 0 0 s s' ∧ (again = true → s'.rank < s.rank),
      fun _ _ => False, fun _ => False⟩ s := by
  unfold handleCudaFailure
  rw [Call.wp_bind, Call.wp_get]
  dsimp only
  split
  · next h => exact giveUp_wp hs hsupported (.inl rfl) ⟨h.2.1, fun _ => h.2.2⟩
  split
  · next h => exact giveUp_wp hs hsupported (.inr rfl) ⟨h.2, fun hnone => by cases hnone⟩
  split
  · rw [Call.wp_bind]
    refine Call.wp_mono dropResident_wp (fun _ s₁ hs₁ => ?_) (fun _ _ h => h) fun _ h => h
    dsimp only
    rw [Call.wp_bind, Call.wp_modify]
    exact ⟨(comes_dropped hs hsupported hs₁).unavailable, fun h => by cases h⟩
  · exact ⟨⟨hs, hsupported, Degrades.refl s, spends_same rfl⟩, fun h => by cases h⟩

theorem comes_refl {s : AsrModelManager} (hs : Resident s) (hsupported : Supported s) : Comes 0 0 s s :=
  ⟨hs, hsupported, Degrades.refl s, spends_same rfl⟩

/-- One load at most, and where none failed there is a model. -/
theorem ensureLoaded_wp {s : AsrModelManager} (hs : Resident s) (hsupported : Supported s) :
    (ensureLoaded rt).wp ⟨fun failure s' => Comes 1 0 s s' ∧ s'.rank = s.rank
        ∧ (failure = none → s'.model.isSome), fun _ _ => False, fun _ => False⟩ s := by
  have hsame := (comes_refl hs hsupported).mono (Nat.zero_le 1) (Nat.le_refl 0)
  unfold ensureLoaded
  rw [Call.wp_bind, Call.wp_get]
  dsimp only
  split
  · next hmodel => exact ⟨hsame, rfl, fun _ => hmodel⟩
  next hmodel =>
  have hnone : s.model = none := by simpa using hmodel
  split
  · exact ⟨hsame, rfl, fun h => by cases h⟩
  rw [Call.wp_bind, Call.wp_modify]
  dsimp only
  rw [Call.wp_bind, query_wp]
  dsimp only
  have hspends : ∀ (result : Except String Unit) (s' : AsrModelManager),
      s'.history = s.history ++ [.loaded s.wanted result] → Spends 1 0 s s' := by
    intro result s' hhistory
    refine ⟨_, hhistory, Nat.le_refl 1, Nat.le_refl 0, fun happening hmem => ?_⟩
    rw [List.mem_singleton.mp hmem]
    exact hsupported
  generalize rt.load s.history s.wanted = result
  cases result with
  | error message =>
    exact ⟨⟨⟨hs.named, hs.wanted, hs.idle⟩, hsupported, ⟨.inl rfl, .inl rfl, id, id⟩,
      hspends (.error message) _ rfl⟩, rfl, fun h => by cases h⟩
  | ok _ =>
    refine ⟨⟨⟨rfl, fun model hmodel => ?_, hs.idle⟩, hsupported, ⟨.inl rfl, .inl rfl, id, id⟩,
      hspends (.ok ()) _ rfl⟩, rfl, fun _ => rfl⟩
    exact (Option.some.inj hmodel).symm

/-- One inference at most. -/
theorem runInference_wp {pcm : List UInt8} {language : Language} {mode : TranslationMode}
    {s : AsrModelManager} (hs : Resident s) (hsupported : Supported s) :
    (runInference rt pcm language mode).wp ⟨fun _ s' => Comes 0 1 s s' ∧ s'.rank = s.rank,
      fun _ _ => False, fun _ => False⟩ s := by
  unfold runInference
  rw [Call.wp_bind, Call.wp_get]
  dsimp only
  cases hmodel : s.model with
  | none => exact ⟨(comes_refl hs hsupported).mono (Nat.le_refl 0) (Nat.zero_le 1), rfl⟩
  | some model =>
    dsimp only
    rw [Call.wp_bind, Call.wp_modify]
    dsimp only
    rw [Call.wp_bind, query_wp]
    dsimp only
    rw [Call.wp_bind, Call.wp_modify]
    dsimp only
    have hspends : ∀ (result : Except String String) (s' : AsrModelManager),
        s'.history = s.history ++ [.inferred model pcm (languageValue language) (beamSize mode) result] →
        Spends 0 1 s s' := by
      intro result s' hhistory
      refine ⟨_, hhistory, Nat.le_refl 0, Nat.le_refl 1, fun happening hmem => ?_⟩
      rw [List.mem_singleton.mp hmem]
      trivial
    generalize rt.infer s.history model = result
    cases result with
    | ok text =>
      exact ⟨⟨⟨hs.named, hs.wanted, rfl⟩, hsupported, ⟨.inl rfl, .inl rfl, id, id⟩,
        hspends (.ok text) _ rfl⟩, rfl⟩
    | error message =>
      exact ⟨⟨⟨hs.named, hs.wanted, rfl⟩, hsupported, ⟨.inl rfl, .inl rfl, id, id⟩,
        hspends (.error message) _ rfl⟩, rfl⟩

/-! ### The loops -/

/-- What a call comes to that has started in this state. -/
def comesPost {α : Type} (loads inferences : Nat) (s : AsrModelManager) :
    Call.Post AsrModelManager AsrError α where
  ok _ := Comes loads inferences s
  err _ := Comes loads inferences s
  crash _ := False

theorem comesPost_trans {α : Type} {l i l' i' m n : Nat} {s₀ s : AsrModelManager} {c : AsrCall α}
    (hs : Comes l i s₀ s) (h : c.wp (comesPost l' i' s) s) (hl : l + l' ≤ m) (hi : i + i' ≤ n) :
    c.wp (comesPost m n s₀) s :=
  Call.wp_mono h (fun _ _ h => (hs.trans h).mono hl hi) (fun _ _ h => (hs.trans h).mono hl hi) fun _ h => h

/-- Each turn that is not the last lowers the rank, so that there are no more turns than that. -/
theorem prepareTurns_wp {turns : Nat} {s : AsrModelManager} (hs : Resident s) (hsupported : Supported s)
    (hturns : s.rank < turns) : (prepareTurns rt turns).wp (comesPost (s.rank + 1) 0 s) s := by
  induction turns generalizing s with
  | zero => exact absurd hturns (Nat.not_lt_zero _)
  | succ turns ih =>
    rw [prepareTurns, Call.wp_bind]
    refine Call.wp_mono (ensureLoaded_wp hs hsupported) ?_ (fun _ _ h => h.elim) fun _ h => h
    rintro (_ | loadFailure) s₁ ⟨hs₁, hrank₁, -⟩
    · exact hs₁.mono (Nat.le_add_left 1 _) (Nat.le_refl 0)
    · dsimp only
      rw [Call.wp_bind]
      refine Call.wp_mono (handleCudaFailure_wp hs₁.resident hs₁.supported) ?_ (fun _ _ h => h.elim)
        fun _ h => h
      rintro again s₂ ⟨hs₂, hlower⟩
      have hcomes : Comes 1 0 s s₂ := hs₁.trans hs₂
      dsimp only
      split
      · next hagain =>
        have hrank := hlower hagain
        rw [hrank₁] at hrank
        exact comesPost_trans hcomes (ih hs₂.resident hs₂.supported (by omega)) (by omega) (by omega)
      · rw [Call.wp_bind, Call.wp_modify]
        exact hcomes.unavailable.mono (Nat.le_add_left 1 _) (Nat.le_refl 0)

theorem transcribeTurns_wp {pcm : List UInt8} {language : Language} {mode : TranslationMode} {turns : Nat}
    {s : AsrModelManager} (hs : Resident s) (hsupported : Supported s) (hturns : s.rank < turns) :
    (transcribeTurns rt pcm language mode turns).wp (comesPost (s.rank + 1) (s.rank + 1) s) s := by
  induction turns generalizing s with
  | zero => exact absurd hturns (Nat.not_lt_zero _)
  | succ turns ih =>
    -- after a failure that is worth another try, the turns that are left begin a rank lower
    have hagain : ∀ s₁ s₂ : AsrModelManager, Comes 1 1 s s₂ → s₁.rank = s.rank → s₂.rank < s₁.rank →
        (transcribeTurns rt pcm language mode turns).wp (comesPost (s.rank + 1) (s.rank + 1) s) s₂ := by
      intro s₁ s₂ hcomes hrank₁ hrank₂
      rw [hrank₁] at hrank₂
      exact comesPost_trans hcomes (ih hcomes.resident hcomes.supported (by omega)) (by omega) (by omega)
    rw [transcribeTurns, Call.wp_bind]
    refine Call.wp_mono (ensureLoaded_wp hs hsupported) ?_ (fun _ _ h => h.elim) fun _ h => h
    rintro (_ | loadFailure) s₁ ⟨hs₁, hrank₁, -⟩
    · dsimp only
      rw [Call.wp_bind]
      refine Call.wp_mono (runInference_wp hs₁.resident hs₁.supported) ?_ (fun _ _ h => h.elim) fun _ h => h
      rintro (inferenceFailure | text) s₂ ⟨hs₂, hrank₂⟩
      · have hcomes₂ : Comes 1 1 s s₂ := hs₁.trans hs₂
        dsimp only
        rw [Call.wp_bind]
        refine Call.wp_mono (handleCudaFailure_wp hs₂.resident hs₂.supported) ?_ (fun _ _ h => h.elim)
          fun _ h => h
        rintro again s₃ ⟨hs₃, hlower⟩
        have hcomes₃ : Comes 1 1 s s₃ := hcomes₂.trans hs₃
        dsimp only
        split
        · next h => exact hagain s₂ s₃ hcomes₃ (hrank₂.trans hrank₁) (hlower h)
        · exact hcomes₃.mono (Nat.le_add_left 1 _) (Nat.le_add_left 1 _)
      · exact (hs₁.trans hs₂).mono (Nat.le_add_left 1 _) (Nat.le_add_left 1 _)
    · dsimp only
      rw [Call.wp_bind]
      refine Call.wp_mono (handleCudaFailure_wp hs₁.resident hs₁.supported) ?_ (fun _ _ h => h.elim)
        fun _ h => h
      rintro again s₂ ⟨hs₂, hlower⟩
      have hcomes₂ : Comes 1 1 s s₂ := (hs₁.trans hs₂).mono (Nat.le_refl 1) (Nat.zero_le 1)
      dsimp only
      split
      · next h => exact hagain s₁ s₂ hcomes₂ hrank₁ (hlower h)
      · rw [Call.wp_bind, Call.wp_modify]
        exact hcomes₂.unavailable.mono (Nat.le_add_left 1 _) (Nat.le_add_left 1 _)

/-! ### The calls -/

/-- What a call has done to the manager, with so many loads and inferences at most. -/
structure Called (most : Nat) (s s' : AsrModelManager) : Prop where
  resident : Resident s'
  degrades : Degrades s s'
  spends : Spends most most s s'

def calledPost {α : Type} (most : Nat) (s : AsrModelManager) : Call.Post AsrModelManager AsrError α where
  ok _ := Called most s
  err _ := Called most s
  crash _ := False

/-- A manager that is unavailable neither loads nor infers. -/
def mostOf (s : AsrModelManager) : Nat := if s.unavailable then 0 else 3

theorem called_same {most : Nat} {s : AsrModelManager} (hs : Resident s) : Called most s s :=
  ⟨hs, Degrades.refl s, (spends_same rfl).mono (Nat.zero_le _) (Nat.zero_le _)⟩

/-- A call that is admitted finds a manager that is available, and supported on its device. -/
theorem admit_wp {α : Type} {s : AsrModelManager} {c : AsrCall α} (hs : Resident s)
    (hc : Supported s → c.wp (calledPost 3 s) s) : (do requireUsable; c : AsrCall α).wp (calledPost (mostOf s) s) s := by
  rw [Call.wp_bind]
  unfold requireUsable mostOf
  rw [Call.wp_bind, Call.wp_get]
  dsimp only
  split
  · exact called_same hs
  split
  · exact called_same hs
  · next hsupported =>
    refine hc fun hcpu => ?_
    by_contra hne
    exact hsupported ⟨hcpu, hne⟩

theorem called_of_comes {α : Type} {l i : Nat} {s : AsrModelManager} {c : AsrCall α}
    (h : c.wp (comesPost l i s) s) (hl : l ≤ 3) (hi : i ≤ 3) : c.wp (calledPost 3 s) s :=
  Call.wp_mono h (fun _ _ h => ⟨h.resident, h.degrades, h.spends.mono hl hi⟩)
    (fun _ _ h => ⟨h.resident, h.degrades, h.spends.mono hl hi⟩) fun _ h => h

theorem release_wp {s : AsrModelManager} (hs : Resident s) : (release rt).wp (calledPost (mostOf s) s) s := by
  refine Call.wp_mono dropResident_wp ?_ (fun _ _ h => h.elim) fun _ h => h
  rintro _ s' ⟨hunmoved, hmodel, hid⟩
  refine ⟨⟨by rw [hid, hmodel]; rfl, fun model hsome => ?_, hunmoved.idle.trans hs.idle⟩, hunmoved.degrades,
    hunmoved.spends.mono (Nat.zero_le _) (Nat.zero_le _)⟩
  rw [hmodel] at hsome
  cases hsome

/-- Three turns are enough for every call. -/
theorem call_wp (turns : Nat) (op : Operation) {s : AsrModelManager} (hs : Resident s) :
    (op.call rt (turns + 3)).wp (calledPost (mostOf s) s) s := by
  have hrank := s.rank_le
  cases op with
  | prepare =>
    rw [Operation.call, Call.wp_bind]
    refine Call.wp_mono (admit_wp hs fun hsupported => ?_) (fun _ _ h => h) (fun _ _ h => h) fun _ h => h
    exact called_of_comes (prepareTurns_wp hs hsupported (by omega)) (by omega) (by omega)
  | transcribe pcm language mode =>
    rw [Operation.call, Call.wp_bind, transcribe]
    split
    · exact called_same hs
    refine Call.wp_mono (admit_wp hs fun hsupported => ?_) (fun _ _ h => h) (fun _ _ h => h) fun _ h => h
    exact called_of_comes (transcribeTurns_wp hs hsupported (by omega)) (by omega) (by omega)
  | release =>
    rw [Operation.call, Call.wp_bind]
    exact Call.wp_mono (release_wp hs) (fun _ _ h => h) (fun _ _ h => h) fun _ h => h

theorem step_called (turns : Nat) (op : Operation) {s : AsrModelManager} (hs : Resident s) :
    (s.step rt (turns + 3) op).1 ≠ .panic ∧ Called (mostOf s) s (s.step rt (turns + 3) op).2 := by
  have h := @call_wp rt turns op s hs
  unfold Call.wp at h
  unfold AsrModelManager.step
  revert h
  rcases op.call rt (turns + 3) s with ⟨_ | _ | _, s'⟩
  · exact fun h => ⟨by simp, h⟩
  · exact fun h => ⟨by simp, h⟩
  · exact False.elim

theorem new_resident {selectedId device : String} {cudaAvailable : Bool} {s : AsrModelManager}
    (h : AsrModelManager.new selectedId device cudaAvailable = .ok s) : Resident s := by
  unfold AsrModelManager.new at h
  split at h
  · cases h
  · cases h
    refine ⟨rfl, ?_, rfl⟩
    intro model hmodel
    cases hmodel

/-- Every call of every sequence of calls ends, within three turns of its loop and so within three loads
    and three inferences. The device and the model come down only, the resident model is the one that is
    selected, the CPU is given the small model only, and an unavailable manager does nothing more. -/
theorem run_degrades (rt : AsrRuntime) (turns : Nat) {selectedId device : String} {cudaAvailable : Bool}
    {s₀ : AsrModelManager} (h : AsrModelManager.new selectedId device cudaAvailable = .ok s₀)
    (ops : List Operation) (op : Operation) :
    Resident (exec (AsrModelManager.step rt (turns + 3)) s₀ ops).2
    ∧ ((exec (AsrModelManager.step rt (turns + 3)) s₀ ops).2.step rt (turns + 3) op).1 ≠ .panic
    ∧ Called (mostOf (exec (AsrModelManager.step rt (turns + 3)) s₀ ops).2)
        (exec (AsrModelManager.step rt (turns + 3)) s₀ ops).2
        ((exec (AsrModelManager.step rt (turns + 3)) s₀ ops).2.step rt (turns + 3) op).2 := by
  have hs : Resident (exec (AsrModelManager.step rt (turns + 3)) s₀ ops).2 :=
    exec_state_invariant (new_resident h) (fun _ op hs => (step_called turns op hs).2.resident) ops
  exact ⟨hs, step_called turns op hs⟩

end Calls

/-! ### A manager that comes all the way down -/

/-- The large model does not fit, the small one finds no library, and the CPU answers. -/
def failing : AsrRuntime where
  isUsable _ _ := true
  load _ model :=
    if model.device = .cpu then .ok ()
    else if model.modelId = "large-v3" then .error "cuda failed with error: out of memory"
    else .error "library libcublas.so.12 is not found"
  infer _ _ := .ok "да"
  unload _ := .ok ()
  releaseCuda _ := .ok ()
  survives _ := false

/-- The large model, on CUDA. -/
def largeOnCuda : AsrModelManager where
  model := none
  residentModelId := none
  residencyGeneration := 0
  activeCallCount := 0
  unavailable := false
  actualDevice := .cuda
  selectedId := "large-v3"
  degraded := false
  history := []

theorem failing_degrades :
    (exec (AsrModelManager.step failing 3) largeOnCuda [.prepare]).2.residentModelId = some "small"
    ∧ (exec (AsrModelManager.step failing 3) largeOnCuda [.prepare]).2.actualDevice = .cpu
    ∧ Called 3 (exec (AsrModelManager.step failing 3) largeOnCuda [.prepare]).2
      ((exec (AsrModelManager.step failing 3) largeOnCuda [.prepare]).2.step failing 3
        (.transcribe [1, 0] .ru .balanced)).2 := by
  have hnew : AsrModelManager.new "large-v3" "cuda" true = .ok largeOnCuda := rfl
  have hmost : mostOf (exec (AsrModelManager.step failing 3) largeOnCuda [.prepare]).2 = 3 := by
    decide +kernel
  refine ⟨by decide +kernel, by decide +kernel, ?_⟩
  have hcalled := (run_degrades failing 0 hnew [.prepare] (.transcribe [1, 0] .ru .balanced)).2.2
  rw [hmost] at hcalled
  exact hcalled

end Translator.Local
