import SqlWire.Proofs.Action

/-!
# Two runs of an action

A `Pairing` relates the states of two runs. Under `Action.Twin P x` the action `x`, run from two
related states, ends in the same outcome and in related states again. A pairing may give up on two
runs : once the first one is `lost` nothing is said about the second one any more, and the first one
stays lost. Twins in a row are a twin (`Twin.bind`), and so is a twin that is run on a part
(`Twin.within`).
-/

namespace SqlWire

/-- How the states of two runs are related. -/
structure Pairing (σ : Type) where
  rel : σ → σ → Prop
  /-- The first run has come to a state of which nothing is known in the second one. -/
  lost : σ → Prop

namespace Pairing

variable {σ τ ω : Type}

/-- Unless the first one is lost, two runs have come to the same and to related states. -/
def Ends (P : Pairing σ) (x x' : ω × σ) : Prop :=
  P.lost x.2 ∨ x'.1 = x.1 ∧ P.rel x.2 x'.2

/-- Unless the first run is lost, both have one outcome. -/
theorem Ends.split {P : Pairing σ} {x x' : ω × σ} (h : P.Ends x x') : P.lost x.2 ∨
    ∃ a s s', x = (a, s) ∧ x' = (a, s') ∧ P.rel s s' := by
  refine h.imp_right fun ⟨same, rel⟩ => ⟨x.1, x.2, x'.2, rfl, ?_, rel⟩
  rw [← same]

/-- States of which a part is related and all else is the same. -/
def around (P : Pairing τ) (part : σ → τ) (replace : τ → σ → σ) : Pairing σ where
  rel s s' := ∃ t', P.rel (part s) t' ∧ s' = replace t' s
  lost s := P.lost (part s)

end Pairing

namespace Action

variable {σ τ α β : Type} {P : Pairing σ}

/-- From related states `x` ends alike, and it does not find what is lost. -/
structure Twin (P : Pairing σ) (x : Action σ α) : Prop where
  stays : ∀ s, P.lost s → P.lost (x s).2
  alike : ∀ s s', P.rel s s' → P.Ends (x s) (x s')

theorem Twin.pure (a : α) : Twin P (pure a : Action σ α) :=
  ⟨fun _ lost => lost, fun _ _ rel => Or.inr ⟨rfl, rel⟩⟩

theorem Twin.fail (e : Error) : Twin P (fail e : Action σ α) :=
  ⟨fun _ lost => lost, fun _ _ rel => Or.inr ⟨rfl, rel⟩⟩

theorem Twin.ofExcept (x : Except Error α) : Twin P (ofExcept x) :=
  ⟨fun _ lost => lost, fun _ _ rel => Or.inr ⟨rfl, rel⟩⟩

/-- A change that keeps states related, and lost ones lost. -/
theorem Twin.modify {f : σ → σ} (stays : ∀ s, P.lost s → P.lost (f s))
    (alike : ∀ s s', P.rel s s' → P.rel (f s) (f s')) : Twin P (modify f) :=
  ⟨stays, fun s s' rel => Or.inr ⟨rfl, alike s s' rel⟩⟩

/-- Twins in a row are a twin. -/
theorem Twin.bind {x : Action σ α} {f : α → Action σ β} (hx : Twin P x)
    (hf : ∀ a, Twin P (f a)) : Twin P (x >>= f) := by
  have stays (s : σ) (lost : P.lost (x s).2) : P.lost ((x >>= f) s).2 := by
    rcases bind_cases x f s with ⟨a, s₁, hs, hb⟩ | ⟨-, hb, -⟩
    · rw [hs] at lost
      rw [hb]
      exact (hf a).stays s₁ lost
    · rwa [hb]
  refine ⟨fun s lost => stays s (hx.stays s lost), fun s s' rel => ?_⟩
  rcases (hx.alike s s' rel).split with lost | ⟨outcome, s₁, s₁', first, second, rel⟩
  · exact Or.inl (stays s lost)
  · simp only [Bind.bind, Action.bind, first, second]
    cases outcome with
    | done a => exact (hf a).alike s₁ s₁' rel
    | failed e => exact Or.inr ⟨rfl, rel⟩
    | suspended => exact Or.inr ⟨rfl, rel⟩

/-- What depends on nothing in which related states differ. -/
theorem Twin.look {f : σ → Action σ α} (same : ∀ s s', P.rel s s' → f s' = f s)
    (hf : ∀ s, Twin P (f s)) : Twin P (get >>= f) := by
  refine ⟨fun s => (hf s).stays s, fun s s' rel => ?_⟩
  rw [get_bind, get_bind, same s s' rel]
  exact (hf s).alike s s' rel

section

variable {Q : Pairing τ} {part : σ → τ} {replace : τ → σ → σ}

/-- A twin on a part is a twin on the whole, if all else is the same. -/
theorem Twin.within {x : Action τ α} (back : ∀ t s, part (replace t s) = t)
    (twice : ∀ t t' s, replace t (replace t' s) = replace t s) (h : Twin Q x) :
    Twin (Q.around part replace) (within part replace x) := by
  refine ⟨fun s lost => ?_, ?_⟩
  · simp only [Pairing.around, Action.within, back] at lost ⊢
    exact h.stays _ lost
  · rintro s _ ⟨t', rel, rfl⟩
    simp only [Pairing.Ends, Pairing.around, Action.within, back]
    refine (h.alike _ _ rel).imp_right ?_
    rintro ⟨outcome, rel'⟩
    exact ⟨outcome, _, rel', by rw [twice, twice]⟩

/-- What neither looks at the part nor changes it. -/
theorem Twin.apart {x : Action σ α} (keeps : ∀ s, part (x s).2 = part s)
    (apart : ∀ t s, x (replace t s) = ((x s).1, replace t (x s).2)) :
    Twin (Q.around part replace) x := by
  refine ⟨fun s lost => ?_, ?_⟩
  · simpa only [Pairing.around, keeps] using lost
  · rintro s _ ⟨t', rel, rfl⟩
    rw [apart]
    exact Or.inr ⟨rfl, t', by rwa [keeps], rfl⟩

end

end Action

end SqlWire
