import InteractiveFiction.Proofs.Faults
import InteractiveFiction.Proofs.Inventory.WellFormed

/-!
Stories that were read are well-formed: their scenes have identities, and the bundles of their
scenes and choices are well-formed.  So are repositories of them.
-/

set_option autoImplicit false

namespace InteractiveFiction

open Course

/-! ## Reading with identities issued -/

namespace Issue

variable {α : Type} {gives : α → Prop}

/-- What is read, if reading succeeds, is as told, whatever identities are issued. -/
abbrev Gives (gives : α → Prop) (issue : Issue α) : Prop :=
  Upholds Anything gives issue

theorem gives_lift {r : Result α} (h : r.Gives gives) : Gives gives (liftM r : Issue α) :=
  .of_result (fun _ => by cases r <;> rfl) h

theorem gives_mapM_lift {β : Type} (f : β → Result α) (l : List β) :
    Gives Anything (l.mapM fun b => (liftM (f b) : Issue α)) :=
  .any (.mapM l fun _ _ => gives_lift (.anything _))

end Issue

/-! ## Bundles -/

namespace Effect

open Issue

theorem itemToAdd_gives (d : Document) : Issue.Gives Item.WellFormed (itemToAdd d) := by
  have read : ∀ d, Issue.Gives Item.WellFormed (liftM (Item.ofDocument d) : Issue Item) :=
    fun d => gives_lift fun _ read => Item.wellFormed_of_ofDocument read
  unfold itemToAdd
  split
  · have issue : Issue.Gives Anything (liftM Identity.next : Issue Nat) :=
      fun _ _ => ⟨trivial, fun _ _ => trivial⟩
    exact .branch (read _) (.branch (.bind issue fun _ _ => read _) (.throw _))
  · exact .throw _

theorem ofFields_gives (fields : Fields) : Issue.Gives Effect.WellFormed (ofFields fields) := by
  have free : ∀ {α : Type} (r : Result α), Issue.Gives Anything (liftM r : Issue α) :=
    fun r => gives_lift (.anything r)
  refine .bind (free _) fun health _ => .bind (free _) fun mana _ => ?_
  refine .bind (free _) fun gold _ => .bind (free _) fun experience _ => ?_
  refine .bind (free _) fun attributes _ => .bind (free _) fun flagFields _ => ?_
  refine .bind (gives_lift fun _ read => Flags.named_of_ofFields read) fun flags named => ?_
  refine .bind (free _) fun addItems _ => ?_
  refine .bind (.mapM _ fun d _ => itemToAdd_gives d) fun items kept => ?_
  refine .bind (free _) fun removals _ => .bind (gives_mapM_lift _ _) fun removeItems _ => ?_
  refine .bind (free _) fun relationships _ => .bind (free _) fun sound _ => ?_
  refine .bind (free _) fun music _ => .bind (free _) fun customs _ => ?_
  refine .bind (gives_mapM_lift _ _) fun custom _ => .bind (free _) fun events _ => ?_
  exact .pure ⟨named, kept⟩

theorem ofDocument_gives (d : Document) : Issue.Gives Effect.WellFormed (ofDocument d) := by
  unfold ofDocument
  refine .branch (.pure ⟨nofun, nofun⟩) ?_
  split
  · exact .branch (ofFields_gives _) (.throw _)
  · exact .throw _

end Effect

/-! ## Scenes and choices -/

structure Scene.WellFormed (scene : Scene) : Prop where
  id : scene.id.isTruthy = true
  effects : scene.effects.WellFormed
  timeEffects : ∀ delayed, scene.timeEffects = some delayed → delayed.effect.WellFormed

structure Story.WellFormed (story : Story) : Prop where
  id : story.id.isTruthy = true
  startingSceneId : story.startingSceneId.isTruthy = true
  scenes : ∀ scene ∈ story.scenes, scene.WellFormed
  choices : ∀ choice ∈ story.choices, choice.effects.WellFormed

theorem requireId_gives (record : String) (d : Document) :
    Result.Gives (fun id => id.isTruthy = true) (requireId record d) := by
  unfold requireId
  dsimp only
  split
  · exact .pure (by assumption)
  · exact .throw _

namespace Scene

open Issue

theorem timeEffectsOf_gives (scene d : Document) :
    Issue.Gives (fun timeEffects : Option DelayedEffect =>
      ∀ delayed, timeEffects = some delayed → delayed.effect.WellFormed)
      (timeEffectsOf scene d) := by
  unfold timeEffectsOf
  refine .branch (.pure ?_) ?_
  · intro delayed is
    cases is
  split
  · refine .bind (gives_lift (.anything _)) fun delay _ => ?_
    refine .bind (Effect.ofDocument_gives _) fun effect wellFormed => .pure fun delayed is => ?_
    cases is
    exact wellFormed
  · exact .throw _

theorem ofDocument_gives (d : Document) : Issue.Gives Scene.WellFormed (ofDocument d) := by
  refine .bind (gives_lift (requireId_gives _ _)) fun id present => ?_
  refine .bind (gives_lift (.anything _)) fun metadata _ => ?_
  refine .bind (timeEffectsOf_gives _ _) fun timeEffects delayed => ?_
  refine .bind (Effect.ofDocument_gives _) fun effects wellFormed => ?_
  refine .bind (gives_lift (.anything _)) fun choiceIds _ => ?_
  exact .bind (gives_lift (.anything _)) fun characterIds _ => .pure ⟨present, wellFormed, delayed⟩

end Scene

theorem Choice.ofDocument_gives (d : Document) :
    Issue.Gives (fun choice : Choice => choice.effects.WellFormed) (Choice.ofDocument d) := by
  have free : ∀ {α : Type} (r : Result α), Issue.Gives Anything (liftM r : Issue α) :=
    fun r => Issue.gives_lift (.anything r)
  refine .bind (free _) fun id _ => ?_
  have rest : ∀ type : ChoiceType, Issue.Gives (fun choice : Choice => choice.effects.WellFormed)
      (do
        let effects ← Effect.ofDocument (d.get "effects")
        let requirements ←
          (← (Document.orElse (d.field? "requirements") (.list [])).toItems).mapM fun r =>
            Requirement.ofDocument r
        let metadata ← (Document.orElse (d.field? "metadata") (.object [])).toFields
        pure {
          id
          text := d.getD "text" ""
          target := d.getD "targetSceneId" (d.get "target_scene_id")
          conditions := keptCondition (d.get "conditions")
          effects, requirements, type
          isAvailable := (d.getD "isAvailable" (d.getD "is_available" (.bool true))).isTruthy
          metadata }) := by
    intro type
    refine .bind (Effect.ofDocument_gives _) fun effects wellFormed => ?_
    refine .bind (free _) fun items _ => .bind (Issue.gives_mapM_lift _ _) fun requirements _ => ?_
    exact .bind (free _) fun metadata _ => .pure wellFormed
  dsimp only
  split
  · exact rest _
  · exact .of_throw _ _

/-! ## Stories -/

namespace Story

open Issue

theorem ofDocument_gives (d : Document) : Issue.Gives Story.WellFormed (ofDocument d) := by
  have free : ∀ {α : Type} (r : Result α), Issue.Gives Anything (liftM r : Issue α) :=
    fun r => gives_lift (.anything r)
  unfold ofDocument
  split
  · refine .bind (gives_lift (requireId_gives _ _)) fun id present => ?_
    refine .bind (free _) fun written _ => ?_
    refine .bind (.mapM _ fun d _ => Scene.ofDocument_gives d) fun scenes wellFormed => ?_
    split
    · rename_i first others
      refine .bind (free _) fun _ _ => .bind (free _) fun choiceItems _ => ?_
      refine .bind (.mapM _ fun d _ => Choice.ofDocument_gives d) fun choices effects => ?_
      refine .bind (free _) fun _ _ => .bind (free _) fun characterItems _ => ?_
      refine .bind (gives_mapM_lift _ _) fun characters _ => .bind (free _) fun _ _ => ?_
      refine .bind (free _) fun achievementItems _ => .bind (gives_mapM_lift _ _) fun _ _ => ?_
      exact .pure {
        id := present
        startingSceneId := Document.isTruthy_orElse _ (wellFormed first (by simp)).id
        scenes := wellFormed
        choices := effects }
    · exact .throw _
  · exact .throw _

end Story

/-! ## Repositories -/

def Repository.WellFormed (repository : Repository) : Prop :=
  ∀ volume ∈ repository.volumes, volume.story.WellFormed

namespace Repository

variable {repository : Repository}

/-- What holds of all stories, and of one that is added, holds of all stories then. -/
theorem forall_stories_put {P : Story → Prop} (h : ∀ volume ∈ repository.volumes, P volume.story)
    {story : Story} (own : P story) (check : Option StoryCheck) :
    ∀ volume ∈ (repository.put story check).volumes, P volume.story := by
  unfold Repository.put
  split
  · intro volume mem
    obtain ⟨old, was, rfl⟩ := List.mem_map.1 mem
    split
    · exact own
    · exact h old was
  · intro volume mem
    rcases List.mem_append.1 mem with mem | mem
    · exact h volume mem
    · rw [List.mem_singleton.1 mem]
      exact own

theorem WellFormed.put (h : repository.WellFormed) {story : Story} (own : story.WellFormed)
    (check : Option StoryCheck) : (repository.put story check).WellFormed :=
  forall_stories_put h own check

theorem add_gives (h : repository.WellFormed) {story : Story} (own : story.WellFormed)
    (validate : Bool) : Result.Gives Repository.WellFormed (repository.add story validate) := by
  unfold Repository.add
  split
  · exact .bind (.anything _) fun check _ => .bind (.anything _) fun _ _ => .pure (h.put own _)
  · exact .bind (.anything _) fun _ _ => .pure (h.put own none)

theorem ofStories_gives {stories : List Story} (h : ∀ story ∈ stories, story.WellFormed)
    (validate : Bool) : Result.Gives Repository.WellFormed (ofStories stories validate) := by
  intro repository read
  refine Result.ok_of_foldlM (P := Repository.WellFormed) ?_ ?_ read
  · intro volume mem
    cases mem
  intro known wellFormed story mem next added
  exact add_gives wellFormed (h story mem) validate next added

theorem ofDocument_gives (d : Document) (validate : Bool) :
    Issue.Gives Repository.WellFormed (ofDocument d validate) := by
  refine .bind (Issue.gives_lift (.anything _)) fun documents _ => ?_
  refine .bind (.mapM _ fun d _ => Story.ofDocument_gives d) fun stories wellFormed => ?_
  exact Issue.gives_lift (ofStories_gives wellFormed validate)

/-! ## Queries -/

theorem story_gives (h : repository.WellFormed) (id : Document) :
    Result.Gives (fun story => story.id = id ∧ story.WellFormed) (repository.story id) := by
  intro story found
  obtain ⟨volume, among, rfl, named⟩ := volume_of_story found
  exact ⟨named, h volume among⟩

theorem scene_gives (h : repository.WellFormed) (story id : Document) :
    Result.Gives (fun scene => scene.id = id ∧ scene.WellFormed) (repository.scene story id) := by
  refine .bind (story_gives h story) fun found wellFormed scene isFound => ?_
  have isScene := record_of_find isFound
  have named := List.find?_some isScene
  exact ⟨by simpa using named, wellFormed.2.scenes scene (List.mem_of_find?_eq_some isScene)⟩

theorem choices_give (h : repository.WellFormed) (story : Document) (ids : List Document) :
    Result.Gives (fun choices => ∀ choice ∈ choices, Effect.WellFormed choice.effects)
      (repository.choices story ids) := by
  refine .bind (story_gives h story) fun found wellFormed choices collected choice mem => ?_
  rw [records_of_collect collected] at mem
  obtain ⟨id, -, isChoice⟩ := List.mem_filterMap.1 mem
  exact wellFormed.2.choices choice (List.mem_of_find?_eq_some isChoice)

theorem startingScene_gives (h : repository.WellFormed) (story : Document) :
    Result.Gives (fun scene => scene.isTruthy = true ∧ story.isTruthy = true)
      (repository.startingScene story) := by
  refine .bind (story_gives h story) fun found wellFormed => .pure ?_
  refine ⟨wellFormed.2.startingSceneId, ?_⟩
  rw [← wellFormed.1]
  exact wellFormed.2.id

end Repository

end InteractiveFiction
