import InteractiveFiction.Proofs.Condition.Stray
import InteractiveFiction.Proofs.Story.Requirement

/-!
Keys of the conditions of an accepted story.

The check of a story reports a key beside the subject of a leaf, and none beside a combinator.  So a
story can be accepted in which an authored restriction is never asked
(`Story.every_key_followed_iff`).
-/

set_option autoImplicit false

namespace InteractiveFiction

open Relation

namespace Story

open StoryCheck

variable {story : Story} {check : StoryCheck}

/-- The conditions of scenes, choices and achievements, and those in the metadata of conditional
choices. -/
def conditions (story : Story) : List Document :=
  story.scenes.map Scene.conditions ++ story.choices.map Choice.conditions ++
    (story.choices.filter fun choice => decide (choice.type = .conditional)).map
      (fun choice => choice.metadata.getD "conditions" .null) ++
    story.achievements.map Achievement.conditions

/-- An object that is a condition of the story, or part of one.  Where a combinator is not followed,
its members are no parts: it is stray itself. -/
def HasNode (story : Story) (fields : Fields) : Prop :=
  ∃ condition ∈ story.conditions, ReflTransGen Condition.Member condition (.object fields)

theorem problems_of_condition {path : String} {d : Document}
    (clean : (StoryCheck.condition path d).errors = []) : Condition.problems path d = [] :=
  List.map_eq_nil_iff.1 clean

/-- The conditions of an accepted story have no problems. -/
theorem problems_of_ensureValid (accepted : story.ensureValid = .ok check) :
    ∀ condition ∈ story.conditions, ∃ path, Condition.problems path condition = [] := by
  have clean := errors_of_ensureValid accepted
  have choices (choice : Choice) (mem : choice ∈ story.choices) := errors_of_checkChoice clean mem
  unfold Story.check at clean
  simp only [errors_append, List.append_eq_nil_iff] at clean
  obtain ⟨⟨⟨⟨⟨⟨⟨-, scenes⟩, -⟩, -⟩, achievements⟩, -⟩, -⟩, -⟩ := clean
  intro condition mem
  simp only [conditions, List.mem_append, List.mem_map, List.mem_filter] at mem
  rcases mem with ((⟨scene, own, rfl⟩ | ⟨choice, own, rfl⟩) | ⟨choice, ⟨own, type⟩, rfl⟩) |
    ⟨achievement, own, rfl⟩
  · have ofScene := errors_of_mem_join scenes (List.mem_map_of_mem own)
    unfold checkScene at ofScene
    simp only [errors_append, List.append_eq_nil_iff] at ofScene
    obtain ⟨⟨⟨⟨⟨clean, -⟩, -⟩, -⟩, -⟩, -⟩ := ofScene
    exact ⟨_, problems_of_condition clean⟩
  · have ofChoice := choices choice own
    unfold checkChoice at ofChoice
    simp only [errors_append, List.append_eq_nil_iff] at ofChoice
    obtain ⟨⟨⟨⟨⟨⟨clean, -⟩, -⟩, -⟩, -⟩, -⟩, -⟩ := ofChoice
    exact ⟨_, problems_of_condition clean⟩
  · have ofChoice := choices choice own
    unfold checkChoice at ofChoice
    simp only [errors_append, List.append_eq_nil_iff] at ofChoice
    obtain ⟨⟨⟨-, nested⟩, -⟩, -⟩ := ofChoice
    rw [if_pos (of_decide_eq_true type), checkConditional, errors_append,
      List.append_eq_nil_iff] at nested
    exact ⟨_, problems_of_condition nested.2⟩
  · have ofAchievement := errors_of_mem_join achievements (List.mem_map_of_mem own)
    exact ⟨_, problems_of_condition ofAchievement⟩

theorem problems_of_node (accepted : story.ensureValid = .ok check) {fields : Fields}
    (node : story.HasNode fields) : ∃ path, Condition.problems path (.object fields) = [] := by
  obtain ⟨condition, mem, within⟩ := node
  exact Condition.accepted_within within (problems_of_ensureValid accepted condition mem)

/-- In an accepted story no node of a condition has a key that is unknown or not followed exactly
if no combinator stands beside another key that is no modifier.  Where such a key stands, it makes
no difference in any state. -/
theorem every_key_followed_iff (accepted : story.ensureValid = .ok check) :
    ((∀ fields, story.HasNode fields → ∀ key, ¬ Condition.Stray fields key) ↔
      ∀ fields, story.HasNode fields → ∀ combinator ∈ Condition.combinators,
        Fields.has fields combinator = true →
          ∀ key, Fields.has fields key = true → key = combinator ∨ key ∈ modifierKeys) ∧
    ∀ fields, story.HasNode fields → ∀ key, Condition.Stray fields key →
      ∀ hour state, Condition.evaluateNode hour state (.object (Fields.without fields key)) =
        Condition.evaluateNode hour state (.object fields) := by
  refine ⟨forall₂_congr fun fields node => ?_, fun fields node key stray hour state => ?_⟩
  · obtain ⟨path, clean⟩ := problems_of_node accepted node
    exact Condition.not_stray_iff clean
  · obtain ⟨path, clean⟩ := problems_of_node accepted node
    exact Condition.evaluateNode_of_stray clean stray hour state

/-! ### A ferry for those with a ticket -/

/-- A ferry whose only scene is open to those with a ticket. -/
def ticketFerry (more : Fields) : Story where
  id := "ferry"
  title := "The ferry"
  startingSceneId := "pier"
  scenes := [{
    id := "pier"
    title := "Pier"
    content := "You wait."
    conditions := .object (("and", .list [.object [("flag", "ticket")]]) :: more) }]

theorem ticketFerry_accepted : (ticketFerry []).ensureValid = .ok (ticketFerry []).check :=
  ensureValid_of_valid (by decide +kernel) (by decide +kernel)

theorem ticketFerry_node {fields : Fields} (node : (ticketFerry []).HasNode fields) :
    fields = [("and", .list [.object [("flag", "ticket")]])] ∨
      fields = [("flag", .text "ticket")] := by
  obtain ⟨condition, mem, within⟩ := node
  obtain rfl : condition = .object [("and", .list [.object [("flag", "ticket")]])] :=
    List.mem_singleton.1 mem
  rcases within.cases_head with whole | ⟨part, member, within⟩
  · exact .inl (Document.object.inj whole).symm
  · right
    obtain rfl : part = .object [("flag", "ticket")] := by
      cases member with
      | conjunct written mem =>
        cases written
        exact List.mem_singleton.1 mem
      | disjunct written mem => cases written
      | negated written => cases written
    rcases within.cases_head with whole | ⟨part, member, -⟩
    · exact (Document.object.inj whole).symm
    · cases member with
      | conjunct written mem => cases written
      | disjunct written mem => cases written
      | negated written => cases written

theorem ticketFerry_heeds_every_key :
    (ticketFerry []).ensureValid = .ok (ticketFerry []).check ∧
      ∀ fields, (ticketFerry []).HasNode fields → ∀ key, ¬ Condition.Stray fields key := by
  refine ⟨ticketFerry_accepted, (every_key_followed_iff ticketFerry_accepted).1.2 ?_⟩
  intro fields node combinator mem written key own
  rcases ticketFerry_node node with rfl | rfl
  · left
    have same {name : String}
        (has : Fields.has [("and", .list [.object [("flag", "ticket")]])] name = true) :
        name = "and" := by
      obtain ⟨value, own⟩ := Fields.mem_of_has has
      exact (Prod.mk.inj (List.mem_singleton.1 own)).1
    rw [same own, same written]
  · have none : ∀ combinator ∈ Condition.combinators,
        Fields.has [("flag", .text "ticket")] combinator = false := by decide +kernel
    rw [none combinator mem] at written
    cases written

/-- A price beside `and` is accepted, and a ticket is all that is asked for. -/
theorem ticketFerry_drops_price :
    (ticketFerry [("playerGold", .int 1000)]).ensureValid =
        .ok (ticketFerry [("playerGold", .int 1000)]).check ∧
      ∃ fields, (ticketFerry [("playerGold", .int 1000)]).HasNode fields ∧
        Condition.Stray fields "playerGold" ∧
        ∀ hour state, Condition.evaluateNode hour state (.object fields) =
          Condition.evaluateNode hour state (.object [("flag", "ticket")]) := by
  refine ⟨ensureValid_of_valid (by decide +kernel) (by decide +kernel), _,
    ⟨_, List.mem_singleton_self _, .refl⟩, ⟨rfl, by decide +kernel, .inr (by decide +kernel)⟩,
    fun hour state => ?_⟩
  have ticket : Condition.evaluateNode hour state (.object [("and", .list
      [.object [("flag", "ticket")]]), ("playerGold", .int 1000)]) =
        Condition.askUntil hour state false [.object [("flag", "ticket")]] :=
    Condition.evaluateNode_eq _
  rw [ticket, Condition.askUntil]
  cases Condition.evaluateNode hour state (.object [("flag", "ticket")]) with
  | error fault => rfl
  | ok held => cases held <;> rfl

end Story

end InteractiveFiction
