import MatView.Error

/-!
# Two results side by side

Two computations that may fail are compared by a relation on their errors and a relation on their
values: both fail, with related errors, or both succeed, with related values. Computations that are
related step by step are related as a whole.

## Main definitions

* `RelatedOutcome`: results that fail in a related way or are related.

## Main statements

* `RelatedOutcome.bind`: related steps can be put in a row.
-/

namespace MatView

variable {α β γ δ : Type} {F : Error → Error → Prop} {R : α → β → Prop} {S : γ → δ → Prop}

/-- Two results that are failures in a relation, or values in a relation. -/
inductive RelatedOutcome (F : Error → Error → Prop) (R : α → β → Prop) :
    Except Error α → Except Error β → Prop
  | failed {e f : Error} (h : F e f) : RelatedOutcome F R (.error e) (.error f)
  | done {a : α} {b : β} (h : R a b) : RelatedOutcome F R (.ok a) (.ok b)

namespace RelatedOutcome

/-- A result is related to itself if every error is. -/
theorem rfl [Std.Refl F] {x : Except Error α} : RelatedOutcome F (· = ·) x x := by
  cases x with
  | error fault => exact .failed (Std.Refl.refl fault)
  | ok a => exact .done (Eq.refl a)

theorem bind {x : Except Error α} {y : Except Error β} {f : α → Except Error γ}
    {g : β → Except Error δ} (hxy : RelatedOutcome F R x y)
    (hfg : ∀ a b, R a b → RelatedOutcome F S (f a) (g b)) :
    RelatedOutcome F S (x >>= f) (y >>= g) := by
  cases hxy with
  | failed h => exact .failed h
  | done h => exact hfg _ _ h

theorem imp {T : α → β → Prop} {x : Except Error α} {y : Except Error β}
    (h : RelatedOutcome F R x y) (hRT : ∀ a b, R a b → T a b) : RelatedOutcome F T x y := by
  cases h with
  | failed h => exact .failed h
  | done h => exact .done (hRT _ _ h)

theorem map {x y : Except Error α} (f : α → γ) (h : RelatedOutcome F (· = ·) x y) :
    RelatedOutcome F (· = ·) (x.map f) (y.map f) := by
  cases h with
  | failed h => exact .failed h
  | done h => exact .done (congrArg f h)

end RelatedOutcome

end MatView
