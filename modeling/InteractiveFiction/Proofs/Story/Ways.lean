import InteractiveFiction.Proofs.Effect.Teleport
import InteractiveFiction.Proofs.Story.Requirement
import InteractiveFiction.Proofs.Story.WellFormed

/-!
The ways through a story that was accepted.

* A choice leads to its target, or to where one of its teleports goes (`Choice.LeadsTo`).  In an
  accepted story these are scenes of the story (`hasScene_of_leadsTo`), and they count as reachable
  (`reachable_of_leadsTo`).
* The check warns of exactly those scenes that do not count as reachable
  (`unreachableLine_mem_warnings_iff`).
* A library of stories that are checked when they are added holds accepted stories only
  (`accepted_of_ofStories`).
-/

set_option autoImplicit false

namespace InteractiveFiction

open Course

/-- Where a choice may lead: to its own target, or to that of one of its teleports. -/
def Choice.LeadsTo (choice : Choice) (target : Document) : Prop :=
  choice.target = target ∨ choice.effects.Teleports target

namespace Story

open StoryCheck

variable {story : Story} {check : StoryCheck} {choice : Choice} {target : Document}

/-! ## Targets -/

theorem hasScene_of_checkTeleport {place : String}
    (clean : (story.checkTeleport place target).errors = []) :
    target.isTruthy = true ∧ story.hasScene target = true := by
  unfold checkTeleport at clean
  split at clean
  · cases clean
  · rename_i truthy
    unfold StoryCheck.when at clean
    split at clean
    · cases clean
    · rename_i known
      simp_all

theorem hasScene_of_checkEffect {place : String} {effect : Effect}
    (clean : (story.checkEffect place effect).errors = []) (teleports : effect.Teleports target) :
    target.isTruthy = true ∧ story.hasScene target = true := by
  obtain ⟨custom, mem, type, isTarget⟩ := teleports
  have own := errors_of_mem_join clean (List.mem_map_of_mem mem)
  unfold checkCustom at own
  rw [errors_append, List.append_eq_nil_iff, if_pos type, isTarget] at own
  exact hasScene_of_checkTeleport own.2

theorem hasScene_of_teleports (accepted : story.ensureValid = .ok check)
    (mem : choice ∈ story.choices) (teleports : choice.effects.Teleports target) :
    target.isTruthy = true ∧ story.hasScene target = true := by
  have clean := errors_of_checkChoice (errors_of_ensureValid accepted) mem
  unfold checkChoice at clean
  simp only [errors_append, List.append_eq_nil_iff] at clean
  obtain ⟨⟨⟨⟨⟨⟨-, effects⟩, -⟩, -⟩, -⟩, -⟩, -⟩ := clean
  exact hasScene_of_checkEffect effects teleports

theorem hasScene_of_target (accepted : story.ensureValid = .ok check)
    (mem : choice ∈ story.choices) (truthy : choice.target.isTruthy = true) :
    story.hasScene choice.target = true := by
  have clean := errors_of_checkChoice (errors_of_ensureValid accepted) mem
  unfold checkChoice at clean
  simp only [errors_append, List.append_eq_nil_iff] at clean
  obtain ⟨⟨⟨⟨⟨-, targets⟩, -⟩, -⟩, -⟩, -⟩ := clean
  unfold StoryCheck.when at targets
  split at targets
  · cases targets
  · rename_i known
    simp_all

theorem hasScene_starting (accepted : story.ensureValid = .ok check) :
    story.hasScene story.startingSceneId = true := by
  have clean := errors_of_ensureValid accepted
  unfold Story.check at clean
  simp only [errors_append, List.append_eq_nil_iff] at clean
  obtain ⟨⟨⟨⟨⟨⟨⟨starts, -⟩, -⟩, -⟩, -⟩, -⟩, -⟩, -⟩ := clean
  unfold StoryCheck.when at starts
  split at starts
  · cases starts
  · rename_i known
    simp_all

theorem hasScene_of_leadsTo (accepted : story.ensureValid = .ok check)
    (mem : choice ∈ story.choices) (leads : choice.LeadsTo target)
    (truthy : target.isTruthy = true) : story.hasScene target = true := by
  rcases leads with rfl | teleports
  · exact hasScene_of_target accepted mem truthy
  · exact (hasScene_of_teleports accepted mem teleports).2

/-! ## Reachable scenes -/

theorem starting_reachable (story : Story) : story.startingSceneId ∈ story.reachable := by
  simp [reachable]

theorem mem_teleportTargets {effect : Effect} (teleports : effect.Teleports target)
    (truthy : target.isTruthy = true) (known : story.hasScene target = true) :
    target ∈ story.teleportTargets effect := by
  obtain ⟨custom, mem, type, isTarget⟩ := teleports
  unfold teleportTargets
  refine List.mem_filter.2 ⟨List.mem_filterMap.2 ⟨custom, mem, ?_⟩, ?_⟩
  · rw [if_pos type, isTarget]
  · rw [truthy, known]
    rfl

/-- Wherever a choice leads counts as reachable, whether anybody can make that choice or not. -/
theorem reachable_of_leadsTo (accepted : story.ensureValid = .ok check)
    (mem : choice ∈ story.choices) (leads : choice.LeadsTo target)
    (truthy : target.isTruthy = true) : target ∈ story.reachable := by
  have known := hasScene_of_leadsTo accepted mem leads truthy
  have counted : target ∈ story.teleportTargets choice.effects ++
      if choice.target.isTruthy then [choice.target] else [] := by
    rcases leads with rfl | teleports
    · simp [truthy]
    · exact List.mem_append_left _ (mem_teleportTargets teleports truthy known)
  unfold reachable
  exact List.mem_append_right _ (List.mem_flatMap.2 ⟨choice, mem, counted⟩)

end Story

/-! ## Warnings of unreachable scenes -/

/-- The line that warns of a scene nobody reaches. -/
def unreachableLine (scene : Document) : String :=
  s!"scene '{scene.display}' is unreachable"

theorem display_of_unreachableLine {scene other : Document}
    (h : unreachableLine scene = unreachableLine other) : scene.display = other.display := by
  have letters := congrArg String.toList h
  apply String.toList_inj.1
  simpa [unreachableLine, toString] using letters

namespace StoryCheck

/-- A check that warns of other things than scenes nobody reaches. -/
def SaysElse (check : StoryCheck) : Prop :=
  ∀ line ∈ check.warnings, ∀ scene, line ≠ unreachableLine scene

theorem mem_warnings_append {a b : StoryCheck} {line : String} :
    line ∈ (a ++ b).warnings ↔ line ∈ a.warnings ∨ line ∈ b.warnings :=
  List.mem_append

theorem mem_warnings_join {checks : List StoryCheck} {line : String} :
    line ∈ (join checks).warnings ↔ ∃ check ∈ checks, line ∈ check.warnings := by
  have folded : ∀ first : StoryCheck, line ∈ (checks.foldl append first).warnings ↔
      line ∈ first.warnings ∨ ∃ check ∈ checks, line ∈ check.warnings := by
    induction checks with
    | nil => simp
    | cons check checks ih =>
      intro first
      rw [List.foldl_cons, ih]
      simp [append, or_assoc]
  unfold join
  simpa using folded {}

namespace SaysElse

variable {a b : StoryCheck}

theorem of_nil (h : a.warnings = []) : SaysElse a := by
  intro line mem
  rw [h] at mem
  cases mem

theorem error (message : String) : SaysElse (error message) :=
  of_nil rfl

theorem warning {message : String} (h : ∀ scene, message ≠ unreachableLine scene) :
    SaysElse (warning message) := by
  intro line mem
  rw [List.mem_singleton.1 mem]
  exact h

theorem append (ha : SaysElse a) (hb : SaysElse b) : SaysElse (a ++ b) := by
  intro line mem
  rcases mem_warnings_append.1 mem with mem | mem
  · exact ha line mem
  · exact hb line mem

theorem join {checks : List StoryCheck} (h : ∀ check ∈ checks, SaysElse check) :
    SaysElse (join checks) := by
  intro line mem
  obtain ⟨check, among, own⟩ := mem_warnings_join.1 mem
  exact h check among line own

theorem when {found : Bool} (h : SaysElse a) : SaysElse (when found a) := by
  unfold StoryCheck.when
  split
  · exact h
  · exact of_nil rfl

theorem join_map {α : Type} {f : α → StoryCheck} {items : List α} (h : ∀ item, SaysElse (f item)) :
    SaysElse (StoryCheck.join (items.map f)) := by
  refine join fun check mem => ?_
  obtain ⟨item, -, rfl⟩ := List.mem_map.1 mem
  exact h item

theorem join_mapIdx {α : Type} {f : Nat → α → StoryCheck} {items : List α}
    (h : ∀ index item, SaysElse (f index item)) : SaysElse (StoryCheck.join (items.mapIdx f)) := by
  refine join fun check mem => ?_
  obtain ⟨index, bound, rfl⟩ := List.mem_mapIdx.1 mem
  exact h index _

end SaysElse

end StoryCheck

namespace Story

open StoryCheck

variable (story : Story)

/-- What begins with another letter says something else. -/
theorem ne_unreachableLine_of_first {line : String} (h : line.toList.head? ≠ some 's')
    (scene : Document) : line ≠ unreachableLine scene := by
  rintro rfl
  exact h (by simp [unreachableLine, toString])

theorem noChoicesLine_ne (id : String) (scene : Document) :
    s!"scene '{id}'" ++ " has no choices" ≠ unreachableLine scene := by
  intro same
  have letter := congrArg (fun line : String => line.toList.reverse.head?) same
  simp [unreachableLine, toString] at letter

theorem checkEffect_saysElse (place : String) (effect : Effect) :
    (story.checkEffect place effect).SaysElse := by
  refine .join_map fun custom => .append (.when (.error _)) ?_
  split
  · unfold checkTeleport
    split
    · exact .error _
    · exact .when (.error _)
  · exact .of_nil rfl

theorem checkScene_saysElse (scene : Scene) : (story.checkScene scene).SaysElse := by
  unfold checkScene
  dsimp only
  refine .append (.append (.append (.append (.append ?_ ?_) ?_) ?_) ?_) ?_
  · exact .of_nil rfl
  · exact checkEffect_saysElse _ _ _
  · split
    · exact checkEffect_saysElse _ _ _
    · exact .of_nil rfl
  · exact .join_map fun _ => .when (.error _)
  · exact .join_map fun _ => .when (.error _)
  · exact .when (.warning fun other => noChoicesLine_ne _ other)

theorem checkChoice_saysElse (choice : Choice) : (story.checkChoice choice).SaysElse := by
  have warned : ∀ rest : String,
      SaysElse (StoryCheck.warning (s!"choice '{choice.id.display}'" ++ rest)) :=
    fun rest => .warning (ne_unreachableLine_of_first (by simp [toString]))
  unfold checkChoice checkConditional checkRequirement
  dsimp only
  refine .append (.append (.append (.append (.append (.append ?_ ?_) ?_) ?_) ?_) ?_) ?_
  · exact .of_nil rfl
  · exact checkEffect_saysElse _ _ _
  · exact .when (.error _)
  · refine .join_mapIdx fun index requirement => ?_
    split
    · exact .of_nil rfl
    · exact .error _
  · split
    · exact .append (.when (warned _)) (.of_nil rfl)
    · exact .of_nil rfl
  · exact .when (warned _)
  · exact .when (warned _)

theorem mem_warnings_checkReachable {scene : Scene} {line : String} :
    line ∈ (story.checkReachable scene).warnings ↔
      scene.id ∉ story.reachable ∧ line = unreachableLine scene.id := by
  unfold checkReachable StoryCheck.when unreachableLine
  by_cases counted : scene.id ∈ story.reachable
  · simp [counted]
  · simp [counted, warning]

/-- The check warns of a scene exactly if that scene, or one that is shown alike, does not count as
reachable. -/
theorem unreachableLine_mem_warnings_iff (id : Document) :
    unreachableLine id ∈ story.check.warnings ↔
      ∃ scene ∈ story.scenes, scene.id ∉ story.reachable ∧ scene.id.display = id.display := by
  have silent : ∀ {check : StoryCheck}, check.SaysElse → unreachableLine id ∉ check.warnings :=
    fun other mem => other _ mem id rfl
  have characters : ∀ character, (checkCharacter character).SaysElse :=
    fun character => .join_mapIdx fun _ _ => .when (.error _)
  have plain : ∀ message : String, message.toList.head? = some 'N' →
      SaysElse (StoryCheck.warning message) :=
    fun message first => .warning (ne_unreachableLine_of_first (by simp [first]))
  constructor
  · intro warned
    unfold Story.check at warned
    simp only [mem_warnings_append] at warned
    rcases warned with ((((((mem | mem) | mem) | mem) | mem) | mem) | mem) | mem
    · exact absurd mem (silent (.when (.error _)))
    · exact absurd mem (silent (.join_map story.checkScene_saysElse))
    · exact absurd mem (silent (.join_map story.checkChoice_saysElse))
    · exact absurd mem (silent (.join_map characters))
    · exact absurd mem (silent (.join_map fun _ => .of_nil rfl))
    · obtain ⟨check, among, own⟩ := mem_warnings_join.1 mem
      obtain ⟨scene, isScene, rfl⟩ := List.mem_map.1 among
      obtain ⟨unreached, same⟩ := story.mem_warnings_checkReachable.1 own
      exact ⟨scene, isScene, unreached, (display_of_unreachableLine same).symm⟩
    · exact absurd mem (silent (.when (plain _ (by simp))))
    · exact absurd mem (silent (.when (plain _ (by simp))))
  · rintro ⟨scene, isScene, unreached, same⟩
    have own : unreachableLine id ∈ (story.checkReachable scene).warnings := by
      refine story.mem_warnings_checkReachable.2 ⟨unreached, ?_⟩
      rw [unreachableLine, unreachableLine, same]
    have mem : unreachableLine id ∈ (join (story.scenes.map story.checkReachable)).warnings :=
      mem_warnings_join.2 ⟨_, List.mem_map_of_mem isScene, own⟩
    unfold Story.check
    simp only [mem_warnings_append]
    exact .inl (.inl (.inr mem))

end Story

/-! ## Libraries -/

namespace Repository

variable {content : Repository}

/-- Every story of the library passes its check. -/
def Accepted (content : Repository) : Prop :=
  ∀ volume ∈ content.volumes, ∃ check, volume.story.ensureValid = .ok check

theorem accepted_of_ofStories {stories : List Story}
    (h : ofStories stories true = .ok content) : content.Accepted := by
  refine Result.ok_of_foldlM (P := Accepted) ?_ ?_ h
  · intro volume mem
    cases mem
  · intro known accepted story _ next added
    obtain ⟨check, passed, put⟩ := Result.ok_of_bind added
    obtain ⟨_, _, put⟩ := Result.ok_of_bind put
    cases put
    have passes : ∃ check, story.ensureValid = .ok check := ⟨check, passed⟩
    exact forall_stories_put (P := fun story => ∃ check, story.ensureValid = .ok check)
      accepted passes _

theorem Accepted.story (h : content.Accepted) {id : Document} {story : Story}
    (found : content.story id = .ok story) : ∃ check, story.ensureValid = .ok check := by
  obtain ⟨volume, among, rfl, -⟩ := volume_of_story found
  exact h volume among

end Repository

end InteractiveFiction
