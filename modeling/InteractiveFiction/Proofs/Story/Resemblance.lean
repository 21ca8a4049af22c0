import InteractiveFiction.Proofs.Condition.Leaves
import InteractiveFiction.Proofs.Heedless
import InteractiveFiction.Story.Decision
import InteractiveFiction.Story.Presentation

/-!
States that nobody who plays can tell apart.

* `GameState.Resembles`: two states answer every leaf of a condition alike, and give every
  placeholder of a text the same value.

Then they answer all conditions alike and render all texts alike (`evaluate`, `render`), and with
that show the same scenes (`Scene.render_of_resembles`) and decide alike on every choice
(`Choice.judge_of_resembles`).
-/

set_option autoImplicit false

namespace InteractiveFiction

structure GameState.Resembles (state other : GameState) : Prop where
  answer (hour : Nat) (fields : Fields) (subject : Subject) (operator : Operator) :
    Leaf.answer hour state fields subject operator = Leaf.answer hour other fields subject operator
  value (placeholder : Template.Placeholder) : placeholder.value state = placeholder.value other

/-- Nobody who plays can tell what the books of a game say. -/
theorem GameState.resembles_booked (state : GameState) (books : Books) :
    state.Resembles (state.booked books) where
  answer _ _ subject _ := by cases subject <;> rfl
  value placeholder := by cases placeholder <;> rfl

variable {state other : GameState}

namespace GameState.Resembles

theorem evaluate (h : state.Resembles other) (hour : Nat) (condition : Document) :
    Condition.evaluate hour state condition = Condition.evaluate hour other condition := by
  refine Condition.evaluate_congr fun fields _ => ?_
  unfold Leaf.evaluate
  simp only [h.answer]

theorem resolve (h : state.Resembles other) : Template.resolve state = Template.resolve other := by
  funext body
  unfold Template.resolve
  simp only [h.value]

theorem write (h : state.Resembles other) (text : String) :
    Template.write state text = Template.write other text := by
  unfold Template.write Template.render
  rw [h.resolve]

end GameState.Resembles

/-! ## What is visible -/

theorem Choice.isVisible_of_resembles (h : state.Resembles other) (now : Instant)
    (choice : Choice) : choice.isVisible now state = choice.isVisible now other :=
  h.evaluate _ _

theorem Choice.present_of_resembles (h : state.Resembles other) (choice : Choice) :
    choice.present state = choice.present other := by
  unfold Choice.present Template.writeChoice
  simp only [h.write]

namespace Scene

theorem isAccessible_of_resembles (h : state.Resembles other) (now : Instant) (scene : Scene) :
    scene.isAccessible now state = scene.isAccessible now other :=
  h.evaluate _ _

theorem presentChoices_of_resembles (h : state.Resembles other) (now : Instant)
    (choices : List Choice) : presentChoices now state choices = presentChoices now other choices := by
  induction choices with
  | nil => rfl
  | cons choice choices ih =>
    rw [presentChoices, presentChoices, ih, choice.isVisible_of_resembles h,
      choice.present_of_resembles h]

theorem render_of_resembles (h : state.Resembles other) (now : Instant) (choices : List Choice)
    (scene : Scene) : scene.render now state choices = scene.render now other choices := by
  unfold Scene.render
  simp only [h.write, presentChoices_of_resembles h]

theorem present_of_resembles (h : state.Resembles other) (now : Instant) (choices : List Choice)
    (scene : Scene) : scene.present now state choices = scene.present now other choices := by
  rw [Scene.present, Scene.present, scene.isAccessible_of_resembles h,
    scene.render_of_resembles h]

end Scene

/-! ## What is allowed -/

namespace Choice

variable (now : Instant)

theorem unmetRequirements_of_resembles (h : state.Resembles other)
    (requirements : List Requirement) :
    unmetRequirements now state requirements = unmetRequirements now other requirements := by
  induction requirements with
  | nil => rfl
  | cons requirement requirements ih =>
    unfold unmetRequirements
    simp only [h.evaluate, ih]

theorem judge_of_resembles (h : state.Resembles other) (choice : Choice) (startedAt : Document) :
    choice.judge now state startedAt = choice.judge now other startedAt := by
  have byType : choice.refusalByType now state startedAt =
      choice.refusalByType now other startedAt := by
    unfold refusalByType
    simp only [h.evaluate]
  unfold judge refusal
  simp only [h.evaluate, unmetRequirements_of_resembles now h, byType]

end Choice

end InteractiveFiction
