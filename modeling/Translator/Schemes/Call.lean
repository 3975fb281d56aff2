import Translator.Schemes.Outcome

/-! Calls on a state that fail part of the way through.

    A call leaves a state behind whatever becomes of it: what it did before it failed stays done. The
    third outcome is that the process dies inside the call. A `Post` says what must hold in each of
    the three, and `wp` when a call started in a state meets it; the rules follow the call's text. -/

namespace Translator.Schemes

/-- A call: an outcome and the state it leaves behind. -/
def Call (σ ε α : Type) : Type := σ → Outcome ε α × σ

namespace Call

variable {σ ε α β : Type}

/-- Go on with the value, or end here. -/
def next (f : α → Call σ ε β) : Outcome ε α × σ → Outcome ε β × σ
  | (.ok a, s) => f a s
  | (.err e, s) => (.err e, s)
  | (.panic, s) => (.panic, s)

instance : Monad (Call σ ε) where
  pure a := fun s => (.ok a, s)
  bind c f := fun s => next f (c s)

def fail (e : ε) : Call σ ε α := fun s => (.err e, s)

def get : Call σ ε σ := fun s => (.ok s, s)

def modify (f : σ → σ) : Call σ ε Unit := fun s => (.ok (), f s)

/-- Look at the error instead of passing it on. -/
def attempt (c : Call σ ε α) : Call σ ε (Except ε α) := fun s =>
  match c s with
  | (.ok a, s) => (.ok (.ok a), s)
  | (.err e, s) => (.ok (.error e), s)
  | (.panic, s) => (.panic, s)

/-- Replace the error. -/
def mapErr (f : ε → ε) (c : Call σ ε α) : Call σ ε α := fun s => ((c s).1.mapErr f, (c s).2)

/-- What must hold when a call returns, when it fails and when the process dies in it. -/
structure Post (σ ε α : Type) where
  ok : α → σ → Prop
  err : ε → σ → Prop
  crash : σ → Prop

/-- The post-condition is met by an outcome and a state. -/
def Post.Met (post : Post σ ε α) : Outcome ε α × σ → Prop
  | (.ok a, s) => post.ok a s
  | (.err e, s) => post.err e s
  | (.panic, s) => post.crash s

/-- The call meets the post-condition when it starts in this state. -/
def wp (c : Call σ ε α) (post : Post σ ε α) (s : σ) : Prop := post.Met (c s)

@[simp] theorem wp_pure (a : α) (post : Post σ ε α) : wp (pure a) post = post.ok a := rfl

@[simp] theorem wp_fail (e : ε) (post : Post σ ε α) : wp (fail e) post = post.err e := rfl

@[simp] theorem wp_get (post : Post σ ε σ) : wp get post = fun s => post.ok s s := rfl

@[simp] theorem wp_modify (f : σ → σ) (post : Post σ ε Unit) :
    wp (modify f) post = fun s => post.ok () (f s) := rfl

@[simp] theorem wp_bind (c : Call σ ε α) (f : α → Call σ ε β) (post : Post σ ε β) :
    wp (c >>= f) post = wp c ⟨fun a => wp (f a) post, post.err, post.crash⟩ := by
  funext s
  show post.Met (next f (c s)) = Post.Met _ (c s)
  rcases c s with ⟨_ | _ | _, _⟩ <;> rfl

@[simp] theorem wp_attempt (c : Call σ ε α) (post : Post σ ε (Except ε α)) :
    wp (attempt c) post
      = wp c ⟨fun a => post.ok (.ok a), fun e => post.ok (.error e), post.crash⟩ := by
  funext s
  unfold wp attempt
  rcases c s with ⟨_ | _ | _, _⟩ <;> rfl

@[simp] theorem wp_mapErr (f : ε → ε) (c : Call σ ε α) (post : Post σ ε α) :
    wp (mapErr f c) post = wp c ⟨post.ok, fun e => post.err (f e), post.crash⟩ := by
  funext s
  unfold wp mapErr
  rcases c s with ⟨_ | _ | _, _⟩ <;> rfl

/-- A call that meets a post-condition meets every weaker one. -/
theorem wp_mono {c : Call σ ε α} {post post' : Post σ ε α} {s : σ} (h : wp c post s)
    (hok : ∀ a s, post.ok a s → post'.ok a s) (herr : ∀ e s, post.err e s → post'.err e s)
    (hcrash : ∀ s, post.crash s → post'.crash s) : wp c post' s := by
  unfold wp at h ⊢
  revert h
  rcases c s with ⟨_ | _ | _, _⟩
  · exact hok _ _
  · exact herr _ _
  · exact hcrash _

/-- Both of two post-conditions. -/
theorem wp_and {c : Call σ ε α} {post post' : Post σ ε α} {s : σ} (h : wp c post s)
    (h' : wp c post' s) :
    wp c ⟨fun a s => post.ok a s ∧ post'.ok a s, fun e s => post.err e s ∧ post'.err e s,
      fun s => post.crash s ∧ post'.crash s⟩ s := by
  unfold wp at h h' ⊢
  revert h h'
  rcases c s with ⟨_ | _ | _, _⟩ <;> exact And.intro

/-- Where failing is fine, what a call comes to is what its last part comes to. -/
theorem wp_bind_of_last {c : Call σ ε α} {f : α → Call σ ε β} {post : Post σ ε β}
    (hf : ∀ a s, wp (f a) post s) (herr : ∀ e s, post.err e s) (hcrash : ∀ s, post.crash s) (s : σ) :
    wp (c >>= f) post s := by
  rw [wp_bind]
  unfold wp
  rcases c s with ⟨a | e | _, s'⟩
  · exact hf a s'
  · exact herr e s'
  · exact hcrash s'

/-! ### Calls that leave part of the state alone -/

/-- Whatever becomes of the call, this part of the state is what it was. -/
def Keeps {β : Type} (view : σ → β) (c : Call σ ε α) : Prop := ∀ s, view (c s).2 = view s

section Keeps

variable {γ : Type} {view : σ → γ}

theorem keeps_pure (a : α) : Keeps view (pure a : Call σ ε α) := fun _ => rfl

theorem keeps_fail (e : ε) : Keeps view (fail e : Call σ ε α) := fun _ => rfl

theorem keeps_get : Keeps view (get : Call σ ε σ) := fun _ => rfl

theorem keeps_bind {c : Call σ ε α} {f : α → Call σ ε β} (hc : Keeps view c)
    (hf : ∀ a, Keeps view (f a)) : Keeps view (c >>= f) := by
  intro s
  show view (next f (c s)).2 = view s
  have := hc s
  rcases hcs : c s with ⟨a | e | _, s'⟩ <;> rw [hcs] at this
  · exact (hf a s').trans this
  · exact this
  · exact this

theorem keeps_attempt {c : Call σ ε α} (hc : Keeps view c) : Keeps view (attempt c) := by
  intro s
  have := hc s
  unfold attempt
  rcases hcs : c s with ⟨a | e | _, s'⟩ <;> rw [hcs] at this <;> exact this

theorem keeps_mapErr {c : Call σ ε α} {f : ε → ε} (hc : Keeps view c) : Keeps view (mapErr f c) :=
  hc

theorem keeps_ite {p : Prop} [Decidable p] {c c' : Call σ ε α} (hc : Keeps view c)
    (hc' : Keeps view c') : Keeps view (if p then c else c') := by
  split
  · exact hc
  · exact hc'

/-- A call that keeps a view meets every post-condition that holds where the view is the same. -/
theorem wp_of_keeps {c : Call σ ε α} (hc : Keeps view c) {post : Post σ ε α} {s : σ}
    (hok : ∀ a s', view s' = view s → post.ok a s')
    (herr : ∀ e s', view s' = view s → post.err e s')
    (hcrash : ∀ s', view s' = view s → post.crash s') : wp c post s := by
  have hs := hc s
  unfold wp
  revert hs
  rcases c s with ⟨a | e | _, s'⟩ <;> intro hs
  · exact hok a s' hs
  · exact herr e s' hs
  · exact hcrash s' hs

end Keeps

/-! ### Calls the process lives through -/

/-- The process does not die in the call, wherever it starts. -/
def Lives (c : Call σ ε α) : Prop := ∀ s, (c s).1 ≠ .panic

theorem lives_pure (a : α) : Lives (pure a : Call σ ε α) := fun _ => by simp [pure]

theorem lives_fail (e : ε) : Lives (fail e : Call σ ε α) := fun _ => by simp [fail]

theorem lives_get : Lives (get : Call σ ε σ) := fun _ => by simp [get]

theorem lives_modify (f : σ → σ) : Lives (modify f : Call σ ε Unit) := fun _ => by simp [modify]

theorem lives_bind {c : Call σ ε α} {f : α → Call σ ε β} (hc : Lives c) (hf : ∀ a, Lives (f a)) :
    Lives (c >>= f) := by
  intro s
  show (next f (c s)).1 ≠ .panic
  have := hc s
  rcases hcs : c s with ⟨a | e | _, s'⟩ <;> rw [hcs] at this
  · exact hf a s'
  · simp [next]
  · exact absurd rfl this

theorem lives_attempt {c : Call σ ε α} (hc : Lives c) : Lives (attempt c) := by
  intro s
  have := hc s
  unfold attempt
  rcases hcs : c s with ⟨a | e | _, s'⟩ <;> rw [hcs] at this
  · simp
  · simp
  · exact absurd rfl this

theorem lives_mapErr {c : Call σ ε α} {f : ε → ε} (hc : Lives c) : Lives (mapErr f c) := by
  intro s
  have := hc s
  unfold mapErr
  rcases hcs : (c s).1 with a | e | _ <;> rw [hcs] at this
  · simp [Outcome.mapErr]
  · simp [Outcome.mapErr]
  · exact absurd rfl this

theorem lives_ite {p : Prop} [Decidable p] {c c' : Call σ ε α} (hc : Lives c) (hc' : Lives c') :
    Lives (if p then c else c') := by
  split
  · exact hc
  · exact hc'

/-- A call the process lives through meets what it comes to when it returns or fails. -/
theorem wp_of_lives {c : Call σ ε α} (hc : Lives c) {post : Post σ ε α} {s : σ}
    (h : wp c ⟨post.ok, post.err, fun _ => True⟩ s) : wp c post s := by
  have hs := hc s
  unfold wp at h ⊢
  revert h hs
  rcases c s with ⟨a | e | _, s'⟩
  · exact fun h _ => h
  · exact fun h _ => h
  · exact fun _ hs => absurd rfl hs

/-- What holds of a call's outcome can be read off its run. -/
theorem met_of_wp {c : Call σ ε α} {post : Post σ ε α} {s s' : σ} {o : Outcome ε α}
    (h : wp c post s) (hrun : c s = (o, s')) : post.Met (o, s') := hrun ▸ h

/-- What holds however a call the process lives through ends, holds of the state it ends in. -/
theorem end_of_lives {c : Call σ ε α} (hc : Lives c) {P : σ → Prop} {s : σ}
    (h : wp c ⟨fun _ => P, fun _ => P, fun _ => True⟩ s) : P (c s).2 := by
  have h' : wp c ⟨fun _ => P, fun _ => P, P⟩ s := wp_of_lives hc h
  unfold wp at h'
  revert h'
  rcases c s with ⟨a | e | _, s'⟩ <;> exact id

/-! ### Calls that keep an invariant -/

/-- From where the invariant holds it holds again, returned or failed, and where the process dies in the
    call, it does so in one of these states. -/
def Maintains (I D : σ → Prop) (c : Call σ ε α) : Prop :=
  ∀ s, I s → wp c ⟨fun _ => I, fun _ => I, D⟩ s

section Maintains

variable {I D : σ → Prop}

theorem maintains_pure (a : α) : Maintains I D (pure a : Call σ ε α) := fun _ h => h

theorem maintains_fail (e : ε) : Maintains I D (fail e : Call σ ε α) := fun _ h => h

theorem maintains_modify {f : σ → σ} (hf : ∀ s, I s → I (f s)) :
    Maintains I D (modify f : Call σ ε Unit) := hf

theorem maintains_bind {c : Call σ ε α} {f : α → Call σ ε β} (hc : Maintains I D c)
    (hf : ∀ a, Maintains I D (f a)) : Maintains I D (c >>= f) := by
  intro s hs
  rw [wp_bind]
  exact wp_mono (hc s hs) (fun a s' hs' => hf a s' hs') (fun _ _ h => h) (fun _ h => h)

/-- What is read is a state with the invariant. -/
theorem maintains_get {f : σ → Call σ ε β} (hf : ∀ s, I s → Maintains I D (f s)) :
    Maintains I D (get >>= f) := by
  intro s hs
  rw [wp_bind]
  exact hf s hs s hs

theorem maintains_attempt {c : Call σ ε α} (hc : Maintains I D c) : Maintains I D (attempt c) := by
  intro s hs
  rw [wp_attempt]
  exact hc s hs

theorem maintains_mapErr {c : Call σ ε α} {f : ε → ε} (hc : Maintains I D c) :
    Maintains I D (mapErr f c) := by
  intro s hs
  rw [wp_mapErr]
  exact hc s hs

theorem maintains_ite {p : Prop} [Decidable p] {c c' : Call σ ε α} (hc : Maintains I D c)
    (hc' : Maintains I D c') : Maintains I D (if p then c else c') := by
  split
  · exact hc
  · exact hc'

/-- Whatever becomes of the call, the invariant holds, where it holds in the states the process dies in. -/
theorem end_of_maintains {c : Call σ ε α} (hc : Maintains I D c) (hdies : ∀ s, D s → I s) {s : σ}
    (hs : I s) : I (c s).2 := by
  have h := hc s hs
  unfold wp at h
  revert h
  rcases c s with ⟨a | e | _, s'⟩
  · exact id
  · exact id
  · exact hdies s'

end Maintains

end Call

end Translator.Schemes
