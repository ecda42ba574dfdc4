import SqlWire.Error

/-!
# Actions

What a client does over a stream may succeed, fail, or wait for octets that never come. In the last
case it can only be abandoned, and the state stays as it was at that moment. An `Action` is a
function on the state with such an outcome.

`Action.Spends` bounds from below what a success takes from a measure of the state. What is done in
a row spends the sum (`Spends.bind`), so a loop of actions ends if a round spends anything.
-/

namespace SqlWire

/-- How an action ends. -/
inductive Outcome (α : Type) where
  | done (value : α)
  | failed (error : Error)
  /-- It waits for ever and is abandoned. -/
  | suspended
  deriving DecidableEq

/-- An outcome that is known already. -/
def Outcome.ofExcept {α : Type} : Except Error α → Outcome α
  | .ok a => .done a
  | .error e => .failed e

/-- The outcome with its value replaced. -/
def Outcome.map {α β : Type} (f : α → β) : Outcome α → Outcome β
  | .done a => .done (f a)
  | .failed e => .failed e
  | .suspended => .suspended

/-- Something done in a state. -/
def Action (σ α : Type) : Type := σ → Outcome α × σ

namespace Action

variable {σ τ α β : Type}

/-- Do nothing. -/
protected def pure (a : α) : Action σ α := fun s => (.done a, s)

/-- Do one thing, then what depends on it; anything but success ends the action. -/
protected def bind (x : Action σ α) (f : α → Action σ β) : Action σ β := fun s =>
  match x s with
  | (.done a, s) => f a s
  | (.failed e, s) => (.failed e, s)
  | (.suspended, s) => (.suspended, s)

instance : Monad (Action σ) where
  pure := Action.pure
  bind := Action.bind

/-- Look at the state. -/
def get : Action σ σ := fun s => (.done s, s)

/-- Change the state. -/
def modify (f : σ → σ) : Action σ Unit := fun s => (.done (), f s)

/-- Fail without a trace. -/
def fail (e : Error) : Action σ α := fun s => (.failed e, s)

/-- Go on with a value, or fail. -/
def ofExcept (x : Except Error α) : Action σ α := fun s => (.ofExcept x, s)

/-- Act on a part of the state. -/
def within (part : σ → τ) (replace : τ → σ → σ) (x : Action τ α) : Action σ α := fun s =>
  let (outcome, t) := x (part s)
  (outcome, replace t s)

/-! ## Spending -/

/-- Whenever `x` succeeds, the measure `m` of the state has gone down by `k` or more. -/
def Spends (m : σ → Nat) (k : Nat) (x : Action σ α) : Prop :=
  ∀ ⦃s a s'⦄, x s = (.done a, s') → m s' + k ≤ m s

variable {m : σ → Nat} {j k : Nat}

theorem Spends.mono {x : Action σ α} (h : Spends m k x) (le : j ≤ k) : Spends m j x :=
  fun _ _ _ run => Nat.le_trans (Nat.add_le_add_left le _) (h run)

theorem Spends.bind {x : Action σ α} {f : α → Action σ β} (hx : Spends m j x)
    (hf : ∀ a, Spends m k (f a)) : Spends m (j + k) (x >>= f) := by
  intro s b s' run
  simp only [Bind.bind, Action.bind] at run
  split at run
  · next a s₁ run₁ =>
    have first := hx run₁
    have second := hf a run
    omega
  · simp at run
  · simp at run

theorem Spends.get : Spends m 0 (get : Action σ σ) := by
  intro s a s' run
  cases run
  exact Nat.le_refl _

theorem Spends.modify {f : σ → σ} (h : ∀ s, m (f s) ≤ m s) : Spends m 0 (modify f) := by
  intro s a s' run
  cases run
  exact h s

theorem Spends.fail (e : Error) : Spends m k (fail e : Action σ α) := by
  intro s a s' run
  simp [Action.fail] at run

theorem Spends.ofExcept (x : Except Error α) : Spends m 0 (ofExcept x : Action σ α) := by
  intro s a s' run
  simp only [Action.ofExcept, Prod.mk.injEq] at run
  exact Nat.le_of_eq (congrArg m run.2.symm)

/-- An action on a part spends of the whole what it spends of the part. -/
theorem Spends.within {part : σ → τ} {replace : τ → σ → σ} {n : τ → Nat} {x : Action τ α}
    (back : ∀ t s, part (replace t s) = t) (h : Spends n k x) :
    Spends (fun s => n (part s)) k (within part replace x) := by
  intro s a s' run
  simp only [Action.within, Prod.mk.injEq] at run
  have spent := @h (part s) a (x (part s)).2 (by rw [← run.1])
  simp only [← run.2, back]
  exact spent

end Action

end SqlWire
