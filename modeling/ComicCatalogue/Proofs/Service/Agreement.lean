import ComicCatalogue.Proofs.Service

/-!
# Two runs of one step

A step agrees for a relation between states if it cannot tell related states apart: from two of
them it gives the same value, makes the same inquiries, and leads to related states again.
-/

namespace ComicCatalogue

variable {σ τ α β : Type}

/-- Two runs that have made the same inquiries so far and are in related states. -/
structure Traced.Alike (related : σ → σ → Prop) (a b : Traced σ) : Prop where
  state : related a.state b.state
  inquiries : a.inquiries = b.inquiries

namespace Service

/-- From related states, the step gives the same value and makes the same inquiries, and the states
afterwards are related. -/
def Agrees (related : σ → σ → Prop) (step : Service σ α) : Prop :=
  ∀ context a b, Traced.Alike related a b →
    (step context a).1 = (step context b).1 ∧
      Traced.Alike related (step context a).2 (step context b).2

namespace Agrees

variable {related : σ → σ → Prop} {step : Service σ α} {next : α → Service σ β}

protected theorem pure (a : α) : Agrees related (pure a) :=
  fun _ _ _ alike => ⟨rfl, alike⟩

protected theorem bind (first : Agrees related step) (second : ∀ a, Agrees related (next a)) :
    Agrees related (step >>= next) := by
  intro context a b alike
  obtain ⟨same, alikeFirst⟩ := first context a b alike
  rw [bind_apply, bind_apply, same]
  exact second _ context _ _ alikeFirst

protected theorem map (f : α → β) (agrees : Agrees related step) : Agrees related (f <$> step) := by
  intro context a b alike
  obtain ⟨same, alikeAfter⟩ := agrees context a b alike
  exact ⟨congrArg f same, alikeAfter⟩

/-- Which of two steps is taken does not depend on the state. -/
protected theorem ite {condition : Prop} [Decidable condition] {other : Service σ α}
    (agrees : Agrees related step) (agreesOther : Agrees related other) :
    Agrees related (if condition then step else other) := by
  split
  · exact agrees
  · exact agreesOther

protected theorem update {f : σ → α × σ}
    (keeps : ∀ a b, related a b → (f a).1 = (f b).1 ∧ related (f a).2 (f b).2) :
    Agrees related (update f) :=
  fun _ a b alike =>
    ⟨(keeps a.state b.state alike.state).1, (keeps a.state b.state alike.state).2, alike.inquiries⟩

/-- What follows a look at the state is the same for related states. -/
protected theorem observe {next : σ → Service σ α} (same : ∀ a b, related a b → next a = next b)
    (rest : ∀ seen, Agrees related (next seen)) : Agrees related (state >>= next) := by
  intro context a b alike
  rw [bind_apply, bind_apply, state_apply, state_apply, same a.state b.state alike.state]
  exact rest _ context a b alike

/-- A step of a part of the state, with a relation of its own. -/
protected theorem part {get : σ → τ} {put : τ → σ → σ} {inner : τ → τ → Prop}
    {step : Service τ α} (agrees : Agrees inner step)
    (taken : ∀ a b, related a b → inner (get a) (get b))
    (placed : ∀ a b, related a b → ∀ c d, inner c d → related (put c a) (put d b)) :
    Agrees related (part get put step) := by
  intro context a b alike
  obtain ⟨same, alikePart⟩ := agrees context ⟨get a.state, a.inquiries⟩ ⟨get b.state, b.inquiries⟩
    ⟨taken _ _ alike.state, alike.inquiries⟩
  exact ⟨same, placed _ _ alike.state _ _ alikePart.state, alikePart.inquiries⟩

end Agrees

end Service

end ComicCatalogue
