import InteractiveFiction.Proofs.Backdrop
import InteractiveFiction.Repository
import InteractiveFiction.Story.Presentation

/-!
Faults that turn a player away, and computations that never fail with one of them.

A turn is refused because the choice is not there or not allowed, because a scene is missing or
locked, or because the game does not run (`Fault.turnsAway`).  Conditions, which have faults of their
own (`Condition.evaluate_failsByCondition`), rendering and most questions to the library fail in other
ways only; of the latter, just those for a scene may find that there is none.
-/

set_option autoImplicit false

namespace InteractiveFiction

/-- A choice that is not available, a scene that is missing or locked, or a game that does not run
as the operation needs it. -/
def Fault.turnsAway : Fault → Bool
  | .choiceUnavailable .. | .sceneNotFound _ | .sceneInaccessible _ | .lifecycle _ => true
  | _ => false

/-- A fault that turns nobody away. -/
def Fault.IsMild (fault : Fault) : Prop :=
  fault.turnsAway = false

theorem Fault.IsAccident.isMild {fault : Fault} (h : fault.IsAccident) : fault.IsMild := by
  cases fault <;> first | rfl | cases h

theorem Fault.not_isMild {fault : Fault} (h : fault.turnsAway = true) : ¬ fault.IsMild := by
  intro mild
  rw [IsMild, h] at mild
  cases mild

theorem Fault.isOfGame_of_turnsAway {fault : Fault} (h : fault.turnsAway = true) :
    fault.isOfGame = true := by
  cases fault <;> first | rfl | cases h

/-- A failure that turns nobody away. -/
abbrev Result.Mild {α : Type} (r : Result α) : Prop :=
  Result.FailsIn Fault.IsMild r

/-! ## Conditions -/

/-- The faults with which a condition raises. -/
def Fault.isOfConditions : Fault → Bool
  | .content (.conditionNotObject _) | .content (.combinatorNotList _)
  | .content .negationNotObject | .content (.unknownOperator ..) | .mistyped (.notAKey _) => true
  | _ => false

theorem Fault.isMild_of_conditions {fault : Fault} (h : fault.isOfConditions = true) :
    fault.IsMild := by
  unfold isOfConditions at h
  split at h <;> first | rfl | cases h

abbrev Result.FailsByCondition {α : Type} (r : Result α) : Prop :=
  Result.FailsIn (fun fault => fault.isOfConditions = true) r

namespace Condition

theorem leaf_failsByCondition (hour : Nat) (state : GameState) (fields : Fields) :
    Result.FailsByCondition (Leaf.evaluate hour state fields) := by
  unfold Leaf.evaluate
  split
  · exact .pure false
  · refine .bind ?operator fun _ => .bind ?key fun _ => .pure _
    case operator =>
      unfold Leaf.operator
      dsimp only
      split
      · exact .pure _
      · exact .throw rfl
    case key =>
      unfold Leaf.requireKey
      dsimp only
      split
      · exact .throw rfl
      · exact .pure ()

mutual

theorem evaluateNode_failsByCondition (hour : Nat) (state : GameState) (node : Document) :
    Result.FailsByCondition (evaluateNode hour state node) := by
  cases node with
  | list members =>
    rw [evaluateNode]
    exact evaluateAll_failsByCondition hour state members
  | object fields =>
    rw [evaluateNode]
    split
    · rename_i members found
      have := sizeOf_lt_of_lookup found
      exact evaluateAll_failsByCondition hour state members
    · exact .throw rfl
    · split
      · rename_i members found
        have := sizeOf_lt_of_lookup found
        exact evaluateAny_failsByCondition hour state members
      · exact .throw rfl
      · split
        · rename_i inner found
          have := sizeOf_lt_of_lookup found
          exact .bind (evaluateNode_failsByCondition hour state (.object inner)) fun _ => .pure _
        · exact .throw rfl
        · split
          · exact .pure true
          · exact leaf_failsByCondition hour state fields
  | null | bool _ | number _ | text _ =>
    unfold evaluateNode
    exact .throw rfl
termination_by sizeOf node
decreasing_by all_goals simp_all <;> omega

theorem evaluateAll_failsByCondition (hour : Nat) (state : GameState) (members : List Document) :
    Result.FailsByCondition (evaluateAll hour state members) := by
  cases members with
  | nil =>
    rw [evaluateAll]
    exact .pure true
  | cons member members =>
    rw [evaluateAll]
    refine .bind (evaluateNode_failsByCondition hour state member) fun holds => ?_
    cases holds
    · exact .pure false
    · exact evaluateAll_failsByCondition hour state members
termination_by sizeOf members

theorem evaluateAny_failsByCondition (hour : Nat) (state : GameState) (members : List Document) :
    Result.FailsByCondition (evaluateAny hour state members) := by
  cases members with
  | nil =>
    rw [evaluateAny]
    exact .pure false
  | cons member members =>
    rw [evaluateAny]
    refine .bind (evaluateNode_failsByCondition hour state member) fun holds => ?_
    cases holds
    · exact evaluateAny_failsByCondition hour state members
    · exact .pure true
termination_by sizeOf members

end

theorem evaluate_failsByCondition (hour : Nat) (state : GameState) (condition : Document) :
    Result.FailsByCondition (evaluate hour state condition) := by
  unfold evaluate
  split
  · exact evaluateNode_failsByCondition hour state condition
  · exact .pure true

theorem evaluate_mild (hour : Nat) (state : GameState) (condition : Document) :
    Result.Mild (evaluate hour state condition) :=
  (evaluate_failsByCondition hour state condition).weaken fun _ => Fault.isMild_of_conditions

end Condition

/-! ## Questions to the library -/

namespace Repository

variable (repository : Repository) (story : Document)

/-- A search fails for an id that cannot be one, or as it is told to fail. -/
theorem find_failsIn {α : Type} {faults : Fault → Prop} (record? : Document → Option α)
    {missing : Fault} (id : Document)
    (odd : id.isKey = false → faults (.mistyped (.notAnId id.kind))) (missed : faults missing) :
    Result.FailsIn faults (find record? missing id) := by
  unfold find
  cases record? id with
  | some record => exact .pure record
  | none => exact .bind (Document.checkKey_failsIn odd) fun _ => .throw missed

theorem find_of_record {α : Type} {record? : Document → Option α} {id : Document} {record : α}
    (isRecord : record? id = some record) (missing : Fault) :
    find record? missing id = .ok record := by
  rw [find, isRecord]
  rfl

theorem record_of_find {α : Type} {record? : Document → Option α} {missing : Fault} {id : Document}
    {record : α} (found : find record? missing id = .ok record) : record? id = some record := by
  unfold find at found
  cases isRecord : record? id with
  | some other =>
    rw [isRecord] at found
    exact congrArg some (Except.ok.inj found)
  | none =>
    rw [isRecord] at found
    obtain ⟨_, _, raised⟩ := Result.ok_of_bind found
    cases raised

/-- A gathering fails only for an id that cannot be one. -/
theorem collect_failsIn {α : Type} {faults : Fault → Prop} (record? : Document → Option α)
    {ids : List Document}
    (odd : ∀ id ∈ ids, id.isKey = false → faults (.mistyped (.notAnId id.kind))) :
    Result.FailsIn faults (collect record? ids) := by
  induction ids with
  | nil => exact .pure []
  | cons id ids ih =>
    have others := ih fun other mem => odd other (List.mem_cons_of_mem id mem)
    unfold collect
    cases record? id with
    | some record => exact .bind others fun _ => .pure _
    | none => exact .bind (Document.checkKey_failsIn (odd id List.mem_cons_self)) fun _ => others

theorem records_of_collect {α : Type} {record? : Document → Option α} {ids : List Document}
    {records : List α} (collected : collect record? ids = .ok records) :
    records = ids.filterMap record? := by
  induction ids generalizing records with
  | nil => exact (Except.ok.inj collected).symm
  | cons id ids ih =>
    unfold collect at collected
    cases isRecord : record? id with
    | some record =>
      rw [isRecord] at collected
      obtain ⟨others, isOthers, whole⟩ := Result.ok_of_bind collected
      rw [List.filterMap_cons_some isRecord, ← ih isOthers]
      exact (Except.ok.inj whole).symm
    | none =>
      rw [isRecord] at collected
      obtain ⟨_, _, isOthers⟩ := Result.ok_of_bind collected
      rw [List.filterMap_cons_none isRecord, ih isOthers]

/-- A story that was found is one of the library. -/
theorem volume_of_story {repository : Repository} {id : Document} {story : Story}
    (found : repository.story id = .ok story) :
    ∃ volume ∈ repository.volumes, volume.story = story ∧ story.id = id := by
  obtain ⟨volume, isVolume, rfl⟩ := Option.map_eq_some_iff.1 (record_of_find found)
  have named := List.find?_some isVolume
  exact ⟨volume, List.mem_of_find?_eq_some isVolume, rfl, by simpa using named⟩

theorem story_mild : Result.Mild (repository.story story) :=
  find_failsIn _ story (fun _ => rfl) rfl

theorem sceneCount_mild : Result.Mild (repository.sceneCount story) :=
  .bind (repository.story_mild story) fun _ => .pure _

theorem achievements_mild : Result.Mild (repository.achievements story) :=
  .bind (repository.story_mild story) fun _ => .pure _

theorem choices_mild (ids : List Document) : Result.Mild (repository.choices story ids) :=
  .bind (repository.story_mild story) fun _ => collect_failsIn _ fun _ _ _ => rfl

/-- A scene that was found is found again under its own id. -/
theorem scene_of_ok {repository : Repository} {story id : Document} {scene : Scene}
    (found : repository.scene story id = .ok scene) : scene.id = id := by
  unfold Repository.scene at found
  cases hs : repository.story story with
  | error fault => simp [hs, bind, Except.bind] at found
  | ok s =>
    simp only [hs, bind, Except.bind] at found
    have := List.find?_some (record_of_find found)
    simpa using this

/-- Whoever is in a scene that is there can be told. -/
theorem characters_mild {repository : Repository} {story id : Document} {scene : Scene}
    (found : repository.scene story id = .ok scene) :
    Result.Mild (repository.characters story id) := by
  unfold Repository.characters
  refine .bind (repository.story_mild story) fun s => ?_
  rw [found]
  exact collect_failsIn _ fun _ _ _ => rfl

end Repository

/-! ## Rendering -/

theorem Template.authored_mild (d : Document) : Result.Mild (Template.authored d) := by
  unfold Template.authored
  split
  · exact .pure _
  · split
    · exact .throw rfl
    · exact .pure _

theorem Template.write_failsByNumber (state : GameState) (text : String) :
    Result.FailsByNumber (Template.write state text) := by
  unfold Template.write
  split
  · exact .pure _
  · exact .throw rfl

theorem Template.write_mild (state : GameState) (text : String) :
    Result.Mild (Template.write state text) :=
  (Template.write_failsByNumber state text).weaken fun _ number =>
    (Fault.isAccident_of_numbers number).isMild

namespace Scene

variable (now : Instant) (state : GameState)

theorem presentChoices_mild (choices : List Choice) :
    Result.Mild (presentChoices now state choices) := by
  induction choices with
  | nil => exact .pure []
  | cons choice choices ih =>
    unfold presentChoices
    refine .bind (Condition.evaluate_mild _ _ _) fun visible => ?_
    split
    · have presents : Result.Mild (choice.present state) :=
        .bind (Template.authored_mild _) fun _ => .bind (Template.write_mild _ _) fun _ => .pure _
      exact .bind presents fun _ => .bind ih fun _ => .pure _
    · exact ih

theorem render_mild (choices : List Choice) (scene : Scene) :
    Result.Mild (scene.render now state choices) :=
  .bind (Template.authored_mild _) fun _ => .bind (Template.write_mild _ _) fun _ =>
    .bind (presentChoices_mild now state choices) fun _ => .pure _

/-- What is rendered is the scene itself, with the choices that are presented. -/
theorem parts_of_render {now : Instant} {state : GameState} {choices : List Choice} {scene : Scene}
    {presented : PresentedScene} (h : scene.render now state choices = .ok presented) :
    presented.scene = scene ∧ presentChoices now state choices = .ok presented.choices := by
  obtain ⟨authored, -, h⟩ := Result.ok_of_bind h
  obtain ⟨content, -, h⟩ := Result.ok_of_bind h
  obtain ⟨visible, visibles, h⟩ := Result.ok_of_bind h
  cases h
  exact ⟨rfl, visibles⟩

theorem scene_of_render {now : Instant} {state : GameState} {choices : List Choice} {scene : Scene}
    {presented : PresentedScene} (h : scene.render now state choices = .ok presented) :
    presented.scene = scene :=
  (parts_of_render h).1

end Scene

end InteractiveFiction
