import ComicCatalogue.Source

/-!
# Steps of services

What each kind of step makes of the state and the inquiries so far, and what a step ensures from
every state with an invariant. The invariant may speak of the inquiries that were made.
-/

namespace ComicCatalogue

/-- Which inquiries were put to which sources, and when. -/
abbrev Askings := Inquiry → Source → Nat → Prop

namespace Askings

variable {asked : Askings} {context : Context}

/-- The inquiries of a step on top of others. -/
def during (asked : Askings) (context : Context) (inquiries : List Inquiry) : Askings :=
  fun inquiry source moment =>
    asked inquiry source moment ∨
      inquiry ∈ inquiries ∧ source = context.source ∧ moment = context.now

/-- All inquiries were put to one source. -/
def Only (asked : Askings) (source : Source) : Prop :=
  ∀ inquiry other moment, asked inquiry other moment → other = source

theorem during_nil : asked.during context [] = asked := by
  funext inquiry source moment
  simp [during]

theorem during_mono {before after : List Inquiry} (grows : before ⊆ after) {inquiry : Inquiry}
    {source : Source} {moment : Nat}
    (wasAsked : asked.during context before inquiry source moment) :
    asked.during context after inquiry source moment :=
  wasAsked.imp_right fun now => ⟨grows now.1, now.2⟩

theorem Only.during (only : asked.Only context.source) (inquiries : List Inquiry) :
    (asked.during context inquiries).Only context.source := by
  rintro inquiry other moment (before | ⟨_, same, _⟩)
  · exact only inquiry other moment before
  · exact same

end Askings

namespace Service

variable {σ τ α β : Type}

section

variable (context : Context) (traced : Traced σ)

@[simp] theorem pure_apply (a : α) : (pure a : Service σ α) context traced = (a, traced) := rfl

@[simp] theorem bind_apply (step : Service σ α) (next : α → Service σ β) :
    (step >>= next) context traced =
      next (step context traced).1 context (step context traced).2 := rfl

@[simp] theorem map_apply (f : α → β) (step : Service σ α) :
    (f <$> step) context traced = (f (step context traced).1, (step context traced).2) := rfl

@[simp] theorem read_apply : (read : Service σ Context) context traced = (context, traced) := rfl

@[simp] theorem state_apply : (state : Service σ σ) context traced = (traced.state, traced) := rfl

@[simp] theorem update_apply (f : σ → α × σ) :
    update f context traced =
      ((f traced.state).1, { traced with state := (f traced.state).2 }) := rfl

@[simp] theorem part_apply (get : σ → τ) (put : τ → σ → σ) (step : Service τ α) :
    part get put step context traced =
      let inner := step context ⟨get traced.state, traced.inquiries⟩
      (inner.1, ⟨put inner.2.state traced.state, inner.2.inquiries⟩) := rfl

end

/-- From every state with the invariant, the step leads to one with the invariant. It only adds
inquiries, and the inquiries until then and the value satisfy the condition. -/
def Ensures (invariant : Askings → σ → Prop) (asked : Askings) (context : Context)
    (step : Service σ α) (condition : List Inquiry → α → Prop) : Prop :=
  ∀ traced : Traced σ, invariant (asked.during context traced.inquiries) traced.state →
    invariant (asked.during context (step context traced).2.inquiries)
        (step context traced).2.state ∧
      traced.inquiries ⊆ (step context traced).2.inquiries ∧
      condition (step context traced).2.inquiries (step context traced).1

/-- The step keeps the invariant, and it tells the value if there was only one source. -/
def Tells (invariant : Askings → σ → Prop) (asked : Askings) (context : Context)
    (step : Service σ α) (value : α) : Prop :=
  Ensures invariant asked context step fun _ a => asked.Only context.source → a = value

variable {invariant : Askings → σ → Prop} {asked : Askings} {context : Context}
  {step : Service σ α} {next : α → Service σ β}

namespace Ensures

variable {condition : List Inquiry → α → Prop} {result : List Inquiry → β → Prop}

protected theorem mono {other : List Inquiry → α → Prop}
    (ensures : Ensures invariant asked context step condition)
    (weaker : ∀ inquiries a, condition inquiries a → other inquiries a) :
    Ensures invariant asked context step other :=
  fun traced kept => (ensures traced kept).imp_right fun rest => rest.imp_right (weaker _ _)

protected theorem pure {a : α} (holds : ∀ inquiries, condition inquiries a) :
    Ensures invariant asked context (pure a) condition :=
  fun traced kept => ⟨kept, List.Subset.refl _, holds traced.inquiries⟩

protected theorem update {f : σ → α × σ}
    (keeps : ∀ asked state, invariant asked state →
      invariant asked (f state).2 ∧ ∀ inquiries, condition inquiries (f state).1) :
    Ensures invariant asked context (update f) condition :=
  fun traced kept =>
    ⟨(keeps _ _ kept).1, List.Subset.refl _, (keeps _ _ kept).2 traced.inquiries⟩

protected theorem bind (first : Ensures invariant asked context step condition)
    (second : ∀ inquiries a, condition inquiries a →
      Ensures invariant asked context (next a) result) :
    Ensures invariant asked context (step >>= next) result := by
  intro traced kept
  obtain ⟨keptFirst, growsFirst, holdsFirst⟩ := first traced kept
  obtain ⟨keptSecond, growsSecond, holdsSecond⟩ := second _ _ holdsFirst _ keptFirst
  exact ⟨keptSecond, List.Subset.trans growsFirst growsSecond, holdsSecond⟩

/-- The value is only turned into another one. -/
protected theorem map {f : α → β}
    (ensures : Ensures invariant asked context step condition)
    (weaker : ∀ inquiries a, condition inquiries a → result inquiries (f a)) :
    Ensures invariant asked context (f <$> step) result := by
  intro traced kept
  obtain ⟨keptAfter, grows, holds⟩ := ensures traced kept
  exact ⟨keptAfter, grows, weaker _ _ holds⟩

/-- A step of a part of the state, with an invariant of its own. -/
protected theorem part {get : σ → τ} {put : τ → σ → σ} {inner : Askings → τ → Prop}
    {step : Service τ α} (ensures : Ensures inner asked context step condition)
    (taken : ∀ asked state, invariant asked state → inner asked (get state))
    (placed : ∀ asked state, invariant asked state → ∀ others part, inner others part →
      (∀ inquiry source moment, asked inquiry source moment → others inquiry source moment) →
      invariant others (put part state)) :
    Ensures invariant asked context (part get put step) condition := by
  intro traced kept
  obtain ⟨keptPart, grows, holds⟩ := ensures ⟨get traced.state, traced.inquiries⟩ (taken _ _ kept)
  exact ⟨placed _ _ kept _ _ keptPart fun _ _ _ => Askings.during_mono grows, grows, holds⟩

end Ensures

namespace Tells

protected theorem pure (a : α) : Tells invariant asked context (pure a) a :=
  Ensures.pure fun _ _ => rfl

/-- A step behind another tells a function of what the first one tells. -/
protected theorem bind {a : α} {f : α → β} {value : β}
    (first : Tells invariant asked context step a)
    (second : ∀ b, Tells invariant asked context (next b) (f b)) (same : f a = value) :
    Tells invariant asked context (step >>= next) value := by
  refine Ensures.bind first fun _ b tells => (second b).mono fun _ c tellsNext only => ?_
  rw [tellsNext only, tells only, same]

end Tells

end Service

end ComicCatalogue
