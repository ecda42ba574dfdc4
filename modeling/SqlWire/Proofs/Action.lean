import Mathlib.Order.Defs.Unbundled
import Mathlib.Tactic.Common
import SqlWire.Session.Action

/-!
# Actions in sequence

Of two actions in a row the second one runs exactly if the first succeeds (`bind_eq_done_iff`);
otherwise the state is the one that the first has left (`bind_of_not_done`).

`Action.Respects R x` says that `x` only ever takes a state to one that `R` relates it to, whether
it succeeds, fails or is abandoned. Actions in a row respect a relation that contains the
composition of theirs (`Respects.bind`), so what a long action does to a state follows from what
its parts do.
-/

namespace SqlWire

/-- Whether an error says that the stream itself went wrong : it failed, it ended, a length was out
of range, or a response was larger than allowed. -/
def Error.isStreamFault : Error → Bool
  | io _ | connectionClosed => true
  | malformed (.frameTooShort _) | malformed (.frameTooLong ..)
  | malformed (.responseTooLong ..) => true
  | _ => false

namespace Outcome

variable {α : Type}

/-- Whether an action has succeeded. -/
def isDone : Outcome α → Bool
  | .done _ => true
  | _ => false

/-- Whether an action was cut short, by a fault of the stream or because it was abandoned. -/
def interrupted : Outcome α → Bool
  | .done _ => false
  | .failed e => e.isStreamFault
  | .suspended => true

/-- If an action fails it is with one of these errors. -/
def FailsOnly (P : Error → Prop) (outcome : Outcome α) : Prop :=
  ∀ e, outcome = .failed e → P e

/-- Whether an action has succeeded with a value that passes a test. -/
def holds (p : α → Bool) : Outcome α → Bool
  | .done a => p a
  | _ => false

/-- A value that passes a test is one that the action has succeeded with. -/
theorem exists_of_holds {σ : Type} {x : Outcome α × σ} {p : α → Bool} (h : x.1.holds p = true) :
    ∃ a s, x = (.done a, s) ∧ p a = true := by
  obtain ⟨outcome, s⟩ := x
  cases outcome with
  | done a => exact ⟨a, s, rfl, h⟩
  | failed e => cases h
  | suspended => cases h

variable {P : Error → Prop}

theorem failsOnly_done (a : α) : (done a).FailsOnly P :=
  fun _ => nofun

theorem failsOnly_suspended : (suspended : Outcome α).FailsOnly P :=
  fun _ => nofun

theorem failsOnly_failed {e : Error} (h : P e) : (failed e : Outcome α).FailsOnly P := by
  rintro _ ⟨⟩
  exact h

theorem failsOnly_ofExcept {x : Except Error α} (h : ∀ e, x = .error e → P e) :
    (ofExcept x).FailsOnly P := by
  cases x with
  | ok a => exact failsOnly_done a
  | error e => exact failsOnly_failed (h e rfl)

end Outcome

namespace Action

variable {σ τ α β : Type}

/-! ## Two actions in a row -/

instance : LawfulMonad (Action σ) :=
  .mk' _
    (by
      intro α x
      funext s
      simp only [Functor.map, Action.bind]
      rcases x s with ⟨outcome, s'⟩
      cases outcome <;> rfl)
    (fun _ _ => rfl)
    (by
      intro α β γ x f g
      funext s
      simp only [Bind.bind, Action.bind]
      rcases x s with ⟨outcome, s'⟩
      cases outcome <;> rfl)

section

variable {x : Action σ α} {f : α → Action σ β} {s s' s'' : σ} {a : α} {b : β}

/-- Behind a success comes the second action. -/
theorem bind_of_done (h : x s = (.done a, s')) : (x >>= f) s = f a s' := by
  simp only [Bind.bind, Action.bind, h]

/-- Behind a failure comes nothing. -/
theorem bind_of_failed {e : Error} (h : x s = (.failed e, s')) :
    (x >>= f) s = (.failed e, s') := by
  simp only [Bind.bind, Action.bind, h]

/-- Two actions in a row succeed exactly if both do. -/
theorem bind_eq_done_iff :
    (x >>= f) s = (.done b, s'') ↔ ∃ a s', x s = (.done a, s') ∧ f a s' = (.done b, s'') := by
  simp only [Bind.bind, Action.bind]
  constructor
  · intro h
    split at h
    · next a s' hx => exact ⟨a, s', hx, h⟩
    · simp at h
    · simp at h
  · rintro ⟨a, s', hx, hf⟩
    rw [hx]
    exact hf

/-- If the first action does not succeed the second leaves no trace. -/
theorem bind_of_not_done (h : (x s).1.isDone = false) :
    ((x >>= f) s).2 = (x s).2 ∧ ((x >>= f) s).1.isDone = false := by
  simp only [Bind.bind, Action.bind]
  split
  · next hx => simp [hx, Outcome.isDone] at h
  · next hx => simp [hx, Outcome.isDone]
  · next hx => simp [hx, Outcome.isDone]

/-- The second action runs, or the first one decides alone. -/
theorem bind_cases (x : Action σ α) (f : α → Action σ β) (s : σ) :
    (∃ a s', x s = (.done a, s') ∧ (x >>= f) s = f a s') ∨
      (x s).1.isDone = false ∧ ((x >>= f) s).2 = (x s).2 ∧
        ((x >>= f) s).1.isDone = false := by
  cases hd : (x s).1 with
  | done a => exact Or.inl ⟨a, (x s).2, Prod.ext hd rfl, bind_of_done (Prod.ext hd rfl)⟩
  | failed e => exact Or.inr ⟨rfl, bind_of_not_done (by rw [hd]; rfl)⟩
  | suspended => exact Or.inr ⟨rfl, bind_of_not_done (by rw [hd]; rfl)⟩

/-- What the second action leaves as it is, is as the first action has left it. -/
theorem bind_state {γ : Type} {m : σ → γ} (same : ∀ a s, m (f a s).2 = m s) (s : σ) :
    m ((x >>= f) s).2 = m (x s).2 := by
  rcases bind_cases x f s with ⟨a, s', hs, hb⟩ | ⟨-, hb, -⟩
  · rw [hb, same, hs]
  · rw [hb]

/-- With a second action that cannot but succeed the first one decides. -/
theorem isDone_bind (always : ∀ a s, (f a s).1.isDone = true) (s : σ) :
    ((x >>= f) s).1.isDone = (x s).1.isDone := by
  rcases bind_cases x f s with ⟨a, s', hs, hb⟩ | ⟨stops, -, hb⟩
  · rw [hb, always, hs]
    rfl
  · rw [hb, stops]

/-- An action in parts fails as one of its parts does. -/
theorem failsOnly_bind {P : Error → Prop} (hx : (x s).1.FailsOnly P)
    (hf : ∀ a s', x s = (.done a, s') → (f a s').1.FailsOnly P) :
    ((x >>= f) s).1.FailsOnly P := by
  cases hd : x s with
  | mk outcome s' =>
    rw [hd] at hx
    cases outcome with
    | done a =>
      rw [bind_of_done hd]
      exact hf a s' hd
    | failed e =>
      simp only [Bind.bind, Action.bind, hd]
      exact Outcome.failsOnly_failed (hx e rfl)
    | suspended =>
      simp only [Bind.bind, Action.bind, hd]
      exact Outcome.failsOnly_suspended

@[simp] theorem get_apply (s : σ) : (get : Action σ σ) s = (.done s, s) :=
  rfl

@[simp] theorem get_bind (f : σ → Action σ β) (s : σ) : (get >>= f) s = f s s :=
  rfl

@[simp] theorem modify_apply (f : σ → σ) (s : σ) : modify f s = (.done (), f s) :=
  rfl

@[simp] theorem modify_bind (g : σ → σ) (f : Unit → Action σ β) (s : σ) :
    (modify g >>= f) s = f () (g s) :=
  rfl

@[simp] theorem fail_bind (e : Error) (f : α → Action σ β) : (fail e >>= f) = fail e :=
  rfl

@[simp] theorem ofExcept_apply (x : Except Error α) (s : σ) :
    ofExcept x s = (.ofExcept x, s) :=
  rfl

end

/-- What is known already succeeds exactly if it is a value. -/
theorem ofExcept_eq_done_iff {x : Except Error α} {a : α} :
    Outcome.ofExcept x = .done a ↔ x = .ok a := by
  cases x <;> simp [Outcome.ofExcept]

/-! ## Relations that an action respects -/

/-- Whatever becomes of `x`, the states before and after it are related. -/
def Respects (R : σ → σ → Prop) (x : Action σ α) : Prop :=
  ∀ s, R s (x s).2

variable {P Q R : σ → σ → Prop}

/-- The second action may not run, so `R` has to hold after the first one alone as well. -/
theorem Respects.bind {x : Action σ α} {f : α → Action σ β} (hx : Respects P x)
    (hf : ∀ a, Respects Q (f a)) (first : ∀ s s', P s s' → R s s')
    (both : ∀ s s' s'', P s s' → Q s' s'' → R s s'') : Respects R (x >>= f) := by
  intro s
  rcases bind_cases x f s with ⟨a, s', hs, hb⟩ | ⟨-, hb, -⟩
  · have hp := hx s
    rw [hs] at hp
    rw [hb]
    exact both _ _ _ hp (hf a s')
  · rw [hb]
    exact first _ _ (hx s)

/-- Actions in a row respect a transitive relation that each of them respects. -/
theorem Respects.seq [IsTrans σ R] {x : Action σ α} {f : α → Action σ β} (hx : Respects R x)
    (hf : ∀ a, Respects R (f a)) : Respects R (x >>= f) :=
  hx.bind hf (fun _ _ h => h) fun _ _ _ h h' => trans_of R h h'

theorem Respects.pure [Std.Refl R] (a : α) : Respects R (pure a : Action σ α) :=
  fun s => Std.Refl.refl s

theorem Respects.get [Std.Refl R] : Respects R (get : Action σ σ) :=
  fun s => Std.Refl.refl s

theorem Respects.fail [Std.Refl R] (e : Error) : Respects R (fail e : Action σ α) :=
  fun s => Std.Refl.refl s

theorem Respects.ofExcept [Std.Refl R] (x : Except Error α) : Respects R (ofExcept x) :=
  fun s => Std.Refl.refl s

theorem Respects.modify {f : σ → σ} (h : ∀ s, R s (f s)) : Respects R (modify f) :=
  h

/-- An action on a part respects of the whole what it respects of the part. -/
theorem Respects.within {part : σ → τ} {replace : τ → σ → σ} {S : τ → τ → Prop} {x : Action τ α}
    (h : Respects S x) (back : ∀ t s, S (part s) t → R s (replace t s)) :
    Respects R (within part replace x) :=
  fun s => back _ s (h (part s))

end Action

end SqlWire
