import InteractiveFiction.Proofs.Engine.Mishaps
import InteractiveFiction.Proofs.Engine.Visited
import Mathlib.Data.List.Forall2

/-!
The log of the choices that were made in a game, and what was announced of them.

* `Sitting.Logs s t made told`: from `s` to `t`, `made` was written down behind the choices of the
  game, and `told` was announced.  A choice that returns writes itself down and is announced
  (`logs_of_makeChoice`).
* A choice that fails leaves the log as it was, unless a condition raises or a number overflows or
  is too long (`unlogged_of_makeChoice`); nothing else that is done in a game touches it.
* `choices_along_run`: so along the runs of a game of a typed library, the log has the choices that
  returned, as they were announced.  Where a text is no text, a choice that fails can stay in the
  log (`unreturned_choice_on_record`).
-/

set_option autoImplicit false

namespace InteractiveFiction

open Course

/-! ## Choices that are on record -/

/-- What is announced of a choice that is on record. -/
def ChoiceRecord.announcement (record : ChoiceRecord) : Event :=
  .choiceMade record.choice record.scene record.text

/-- What is written down of a choice. -/
def Commitment.record (commitment : Commitment) (id : Document) (now : Instant) : ChoiceRecord :=
  ⟨id, commitment.before.currentSceneId, commitment.choice.text, Timestamp.text now⟩

namespace Sitting

/-- What was announced of choices. -/
abbrev tellings (s : Sitting) : List Event :=
  s.announced "choiceMade"

/-! ## What is added to the log -/

structure Logs (s t : Sitting) (made told : List ChoiceRecord) : Prop where
  content : t.engine.content = s.engine.content
  made : ∀ state, s.engine.state = some state → ∃ left, t.engine.state = some left ∧
    left.storyId = state.storyId ∧
    left.progress.choicesMade = state.progress.choicesMade ++ made
  told : t.tellings = s.tellings ++ told.map ChoiceRecord.announcement

/-- The log is left as it was. -/
abbrev Unlogged (s t : Sitting) : Prop :=
  s.Logs t [] []

variable {s t u : Sitting} {made told made' told' : List ChoiceRecord}

theorem Logs.trans (h : s.Logs t made told) (h' : t.Logs u made' told') :
    s.Logs u (made ++ made') (told ++ told') where
  content := h'.content.trans h.content
  made state isState := by
    obtain ⟨left, isLeft, story, choices⟩ := h.made state isState
    obtain ⟨last, isLast, story', choices'⟩ := h'.made left isLeft
    refine ⟨last, isLast, story'.trans story, ?_⟩
    rw [choices', choices, List.append_assoc]
  told := by rw [h'.told, h.told, List.map_append, List.append_assoc]

theorem Logs.of_record (h : t.record = s.record) : s.Unlogged t where
  content := congrArg Prod.fst h
  made state isState := by
    have annals : t.engine.state.map GameState.annals = some state.annals := by
      have same : t.engine.state.map GameState.annals = s.engine.state.map GameState.annals :=
        congrArg (fun record => record.2.1) h
      rw [same, isState]
      rfl
    obtain ⟨left, isLeft, same⟩ := Option.map_eq_some_iff.1 annals
    refine ⟨left, isLeft, congrArg Annals.story same, ?_⟩
    rw [List.append_nil]
    exact congrArg Annals.choices same
  told := (announced_of_record h (by decide)).trans (List.append_nil _).symm

instance : Std.Refl Unlogged where
  refl _ := .of_record rfl

instance : Trans Unlogged Unlogged Unlogged where
  trans := Logs.trans

end Sitting

namespace Turn

/-! ## Turns that leave the log as it was -/

theorem publish_unlogged {event : Event} (h : event.name ≠ "choiceMade") :
    Leads Sitting.Unlogged (publish event) := by
  intro s
  refine ⟨rfl, fun state isState => ⟨state, isState, rfl, (List.append_nil _).symm⟩, ?_⟩
  exact (s.announced_announce_of_ne h).trans (List.append_nil _).symm

theorem report_unlogged (operation : String) (fault : Fault) :
    Leads Sitting.Unlogged (report operation fault) :=
  publish_unlogged (by decide : "error" ≠ "choiceMade")

theorem recording_unlogged : Recording Sitting.Unlogged where
  keeps _ _ same := .of_record same
  tells event routine := by
    refine publish_unlogged fun named => ?_
    rw [Event.isRoutine, named] at routine
    cases routine
  fails operation _ fault := report_unlogged operation fault
  checks := by
    refine leads_checkAchievements fun {s state _ unlocked _} isState _ _ played => ?_
    refine ⟨rfl, fun state' isState' => ⟨state'.unlocking unlocked, ?_, rfl, ?_⟩, ?_⟩
    · exact congrArg (Option.map _) isState'
    · exact (List.append_nil _).symm
    · exact (s.announced_unlocking (by decide) unlocked played).trans (List.append_nil _).symm

theorem endGame_unlogged : Leads Sitting.Unlogged endGame :=
  recording_unlogged.endGame fun _ _ _ => publish_unlogged (by decide : "gameEnded" ≠ _)

/-! ## Choices that return -/

variable {id : Document} {s t : Sitting}

theorem world_onStage {α : Type} {action : Action α} {r : Except Fault α}
    (ends : outcome (onStage action) s = (r, t)) : t.world = s.world := by
  cases isState : s.engine.state with
  | none =>
    rw [outcome_onStage_of_none isState] at ends
    cases ends
    rfl
  | some state =>
    rw [outcome_onStage_of_some isState] at ends
    cases ends
    rfl

/-- What is committed is written down. -/
theorem logs_of_commit {commitment : Commitment}
    (committed : outcome (commit id) s = (.ok commitment, t)) :
    s.Logs t [commitment.record id s.world.now] [] := by
  obtain ⟨⟨choice, result, before⟩, s₁, weighed, afterWeigh⟩ := ok_of_outcome_bind committed
  have same := (weigh_reads id).after_eq s
  rw [after, weighed] at same
  obtain rfl : s₁ = s := same
  obtain ⟨effects, s₂, applied, afterEffects⟩ := ok_of_outcome_bind afterWeigh
  have clock : s₂.world.now = s₁.world.now := congrArg World.now (world_onStage applied)
  have record := ((inFront_unrecorded result.effects.process_inFront).of_outcome applied).1
  obtain ⟨_, s₃, recorded, gives⟩ := ok_of_outcome_bind afterEffects
  unfold recordChoice at recorded
  rw [outcome_bind_of_ok (outcome_now s₂), outcome_modifyState] at recorded
  cases recorded
  cases gives
  have goes : s₁.Unlogged s₂ := .of_record record
  refine ⟨goes.content, fun state isState => ?_, goes.told⟩
  obtain ⟨left, isLeft, story, choices⟩ := goes.made state isState
  refine ⟨_, congrArg (Option.map _) isLeft, story, ?_⟩
  rw [List.append_nil] at choices
  dsimp only
  rw [choices, clock]
  rfl

/-- What is not committed is not written down. -/
theorem unlogged_of_commit {fault : Fault} (failed : outcome (commit id) s = (.error fault, t)) :
    s.Unlogged t := by
  refine .of_record ?_
  have applies : ∀ weighed : Choice × ChoiceResult × GameState,
      Unrecorded (onStage weighed.2.1.effects.process) :=
    fun weighed => inFront_unrecorded weighed.2.1.effects.process_inFront
  have weighs : Unrecorded (weigh id) := unrecorded_of_reads (weigh_reads id)
  rcases error_of_outcome_bind failed with refused | ⟨weighed, s₁, weighing, afterWeigh⟩
  · exact (weighs.of_outcome refused).1
  have kept := (weighs.of_outcome weighing).1
  rcases error_of_outcome_bind afterWeigh with spoilt | ⟨effects, s₂, -, afterEffects⟩
  · exact ((applies weighed).of_outcome spoilt).1.trans kept
  · -- To write a choice down never fails.
    obtain ⟨_, recorded⟩ : ∃ s₃, outcome (recordChoice id weighed.2.2.currentSceneId
        weighed.1.text) s₂ = (.ok (), s₃) := ⟨_, rfl⟩
    rw [outcome_bind_of_ok recorded] at afterEffects
    cases afterEffects

theorem logs_of_makeChoice {made : ChoiceOutcome}
    (chosen : outcome (makeChoice id) s = (.ok made, t)) :
    ∃ commitment : Commitment, s.engine.state = some commitment.before ∧ s.HoldsOut id commitment.choice ∧
      s.Logs t [commitment.record id s.world.now] [commitment.record id s.world.now] := by
  obtain ⟨running, commitment, s₁, committed, conclusion⟩ := conclusion_of_makeChoice chosen
  have commits := logs_of_commit committed
  have tells : ∀ u : Sitting, u.Logs (u.announce (commitment.announcement id)) []
      [commitment.record id s.world.now] := fun u =>
    ⟨rfl, fun state isState => ⟨state, isState, rfl, (List.append_nil _).symm⟩,
      u.announced_announce _⟩
  refine ⟨commitment, (commit_ends committed).2, holdsOut_of_commit committed, ?_⟩
  cases conclusion with
  | @led s₂ presented truthy entered =>
    have enters := (recording_unlogged.enterScene _ _).of_outcome entered
    exact (commits.trans enters).trans (tells s₂)
  | ended closed => exact (commits.trans (tells s₁)).trans (endGame_unlogged.of_outcome closed)

end Turn

/-! ## Choices that fail -/

/-- A game of a story of a typed library that was made here. -/
structure Sitting.Hosts (s : Sitting) (story : Story) : Prop where
  typed : s.engine.content.Typed
  keyed : s.WellKeyed
  drawn : Drawn s.engine.content s.scenery
  plays : Plays story s.scenery
  charted : s.Charted

namespace Sitting

/-- A game whose route is charted in a typed library is of a story and has visited scenes that are
named by keys. -/
theorem Charted.named {s : Sitting} (charted : s.Charted) (typed : s.engine.content.Typed)
    {state : GameState} (isState : s.engine.state = some state) : state.Named := by
  obtain ⟨story, isStory, -, known⟩ := (charted state isState).told
  have own : story.Typed := typed.story isStory
  obtain ⟨-, -, -, byId⟩ := Repository.volume_of_story isStory
  refine ⟨?_, fun id mem => ?_⟩
  · have isId : story.id = state.storyId := byId
    exact isId ▸ own.id
  · obtain ⟨scene, found⟩ := Option.isSome_iff_exists.1 (known id mem)
    have byId : scene.id = id := by simpa using List.find?_some found
    exact byId ▸ (own.scenes scene (List.mem_of_find?_eq_some found)).id

theorem Charted.ready {s : Sitting} (charted : s.Charted) (typed : s.engine.content.Typed)
    {state : GameState} (isState : s.engine.state = some state) : s.Ready :=
  ⟨typed, by rw [isState]; rfl, fun _ isOther => charted.named typed isOther⟩

end Sitting

namespace Turn

variable {id : Document} {s t : Sitting} {story : Story} {fault : Fault}

/-- What is offered in a typed library leads to where a key names. -/
theorem isKey_of_commit (hosts : s.Hosts story) {commitment : Commitment} {s₁ : Sitting}
    (committed : outcome (commit id) s = (.ok commitment, s₁)) :
    commitment.target.isKey = true := by
  have leads := (leads_of_commit committed).2
  obtain ⟨own, ⟨place, -, isOwn⟩, authored, -⟩ :=
    (holdsOut_of_commit committed).authored hosts.drawn
  exact ((hosts.typed.story isOwn).choices _ authored).ways _ leads

/-- An entry that fails by the rules is put back, and with it what was written down of the choice. -/
theorem unlogged_of_putBack {s₁ : Sitting} {commitment : Commitment} {made : List ChoiceRecord}
    (isBefore : s.engine.state = some commitment.before) (commits : s.Logs s₁ made [])
    (isKey : commitment.target.isKey = true) (ready : s₁.Ready) (keyed : s₁.WellKeyed)
    (spared : fault.isMishap = false)
    (unentered : outcome (enterScene commitment.target {}) s₁ = (.error fault, t)) :
    s.Unlogged (if fault.isOfGame then t.putBack commitment.before else t) := by
  have ofGame : fault.isOfGame = true := by
    rcases foreseen_of_enterScene isKey ready keyed unentered with ofGame | mishap
    · exact ofGame
    · rw [spared] at mishap
      cases mishap
  have enters := commits.trans ((recording_unlogged.enterScene _ _).of_outcome unentered)
  obtain ⟨last, isLast, -⟩ := enters.made _ isBefore
  rw [if_pos ofGame]
  refine ⟨enters.content, fun state isState => ?_, enters.told⟩
  obtain rfl : commitment.before = state := Option.some.inj (isBefore.symm.trans isState)
  refine ⟨commitment.before, ?_, rfl, (List.append_nil _).symm⟩
  rw [Sitting.putBack, isLast]
  rfl

/-- A choice that fails leaves the log as it was, unless by a condition that raises or a number that
overflows or is too long. -/
theorem unlogged_of_makeChoice (hosts : s.Hosts story) (spared : fault.isMishap = false)
    (failed : outcome (makeChoice id) s = (.error fault, t)) : s.Unlogged t := by
  obtain ⟨s', unmade, rfl⟩ := unmade_of_makeChoice failed
  have blames := Recording.blame report_unlogged s' "make_choice" fault
  suffices s.Unlogged s' from this.trans blames
  cases unmade with
  | idle other fault => exact .of_record rfl
  | uncommitted running uncommitted => exact unlogged_of_commit uncommitted
  | @unconcluded commitment s₁ _ _ running committed conclusion =>
    have commits := logs_of_commit committed
    obtain ⟨kept, isBefore⟩ := commit_ends committed
    obtain ⟨left, isLeft, -⟩ := commits.made _ isBefore
    have typed : s₁.engine.content.Typed := by
      rw [commits.content]
      exact hosts.typed
    have charted : s₁.Charted :=
      ((commit_unmoved id).journeys.of_outcome committed hosts.charted).charted
    cases conclusion with
    | unfollowed truthy unentered =>
      have keyed : s₁.WellKeyed := (commit_keepsKeys id).of_outcome committed hosts.keyed
      exact unlogged_of_putBack isBefore commits (isKey_of_commit hosts committed)
        (charted.ready typed isLeft) keyed spared unentered
    | unended unclosed =>
      -- The story is of the library, so that only a condition can raise at its end.
      have plays : Plays story s₁.scenery := by
        rw [scenery_of_footing (congrArg Prod.fst kept)]
        exact hosts.plays
      have inGame := inGame_of_commit running committed
      have raised : fault.isOfConditions = true := by
        refine condition_of_endGame ?_ ?_ ?_ unclosed
        · exact inGame
        · exact ⟨story, plays⟩
        · intro visited isVisited
          obtain ⟨state, isState, rfl⟩ := Option.map_eq_some_iff.1 isVisited
          exact (charted.named typed isState).visited
      rw [Fault.isMishap_of_conditions raised] at spared
      cases spared

end Turn

/-! ## Runs -/

/-- The choice that an operation makes and that returns, with the sitting in which it is made. -/
def Operation.making? (s : Sitting) : Operation → Option (Sitting × Document)
  | .choose id => if fault? (Turn.makeChoice id) s = none then some (s, id) else none
  | _ => none

namespace Sitting

/-- The choices of a run that return, in their order. -/
def makings (s : Sitting) : List Operation → List (Sitting × Document)
  | [] => []
  | operation :: operations => (operation.making? s).toList ++ (s.step operation).makings operations

theorem makings_of_failed {s : Sitting} {id : Document} {fault : Fault}
    (failed : fault? (Turn.makeChoice id) s = some fault) : s.makings [.choose id] = [] := by
  have unmade : (Operation.choose id).making? s = none :=
    if_neg (by rw [failed]; exact Option.some_ne_none fault)
  rw [makings, unmade]
  rfl

/-- A record tells of a choice of the story as it was made: by which id, in which scene, and when. -/
structure Recalls (story : Story) (making : Sitting × Document) (record : ChoiceRecord) : Prop where
  choice : record.choice = making.2
  scene : ∃ state, making.1.engine.state = some state ∧ record.scene = state.currentSceneId
  text : ∃ choice ∈ story.choices, (choice.id == making.2) = true ∧ record.text = choice.text
  timestamp : record.timestamp = Timestamp.text making.1.world.now

variable {s t : Sitting} {story : Story} {operation : Operation} {operations : List Operation}

theorem Hosts.recalls (hosts : s.Hosts story) {id : Document} {commitment : Commitment}
    (isBefore : s.engine.state = some commitment.before) (held : s.HoldsOut id commitment.choice) :
    Recalls story (s, id) (commitment.record id s.world.now) := by
  obtain ⟨own, ⟨place, isPlace, isOwn⟩, authored, byId⟩ := held.authored hosts.drawn
  obtain ⟨place', isPlace', isStory⟩ := hosts.plays
  obtain rfl : place = place' := Option.some.inj (isPlace.symm.trans isPlace')
  obtain rfl : own = story := Except.ok.inj (isOwn.symm.trans isStory)
  exact ⟨rfl, ⟨commitment.before, isBefore, rfl⟩, ⟨commitment.choice, authored, byId, rfl⟩, rfl⟩

/-- What an operation in a game adds to the log is the choice that it makes. -/
theorem Hosts.logs_of_step (hosts : s.Hosts story) (stays : operation.staysIn = true)
    (spared : operation.Evades Fault.isMishap s) :
    ∃ records, List.Forall₂ (Recalls story) (operation.making? s).toList records ∧
      s.Logs (s.step operation) records records := by
  cases unchosen : operation.isChoice with
  | false =>
    have unlogged := Turn.Recording.step Turn.report_unlogged Turn.recording_unlogged stays unchosen s
    have nothing : operation.making? s = none := by
      cases operation <;> first | rfl | cases unchosen
    rw [nothing]
    exact ⟨[], .nil, unlogged⟩
  | true =>
    cases operation with
    | choose id =>
      rw [step_choose]
      cases failed : fault? (Turn.makeChoice id) s with
      | none =>
        obtain ⟨made, chosen⟩ := ok_of_no_fault failed
        obtain ⟨commitment, isBefore, held, logs⟩ := Turn.logs_of_makeChoice chosen
        have isMaking : (Operation.choose id).making? s = some (s, id) := if_pos failed
        rw [isMaking]
        exact ⟨_, .cons (hosts.recalls isBefore held) .nil, logs⟩
      | some fault =>
        have nothing : (Operation.choose id).making? s = none :=
          if_neg (by rw [failed]; exact Option.some_ne_none fault)
        rw [nothing]
        have unlogged :=
          Turn.unlogged_of_makeChoice hosts (spared fault failed) (outcome_of_fault? failed)
        exact ⟨[], .nil, unlogged⟩
    | _ => cases unchosen

/-- What is done in a game goes on along its route. -/
theorem Charted.step (charted : s.Charted) (stays : operation.staysIn = true) :
    (s.step operation).Charted := by
  cases outside : operation.isOutside with
  | true =>
    cases operation with
    | outside world => exact charted
    | _ => cases outside
  | false =>
    refine (journeys_of_step outside (fun opening isOpening => ?_) charted).charted
    rw [isOpening] at stays
    cases stays

theorem Hosts.step (hosts : s.Hosts story) (stays : operation.staysIn = true)
    {made told : List ChoiceRecord} (logs : s.Logs (s.step operation) made told) :
    (s.step operation).Hosts story := by
  obtain ⟨place, isPlace, isStory⟩ := hosts.plays
  obtain ⟨state, isState, rfl⟩ := Engine.state_of_place isPlace
  obtain ⟨left, isLeft, same, -⟩ := logs.made state isState
  refine ⟨?_, keepsKeys_of_step stays s hosts.keyed, ?_, ⟨left.place, ?_, ?_⟩, ?_⟩
  · exact logs.content ▸ hosts.typed
  · exact logs.content ▸ drawn_step hosts.drawn operation
  · rw [scenery, Engine.place, isLeft]
    rfl
  · have content : (s.step operation).scenery.1.content = s.engine.content := logs.content
    rw [content, GameState.place, same]
    exact isStory
  · exact hosts.charted.step stays

theorem Hosts.logs_of_run (hosts : s.Hosts story)
    (stays : ∀ operation ∈ operations, operation.staysIn = true)
    (spared : s.Evades Fault.isMishap operations) :
    (s.run operations).Hosts story ∧
      ∃ records, List.Forall₂ (Recalls story) (s.makings operations) records ∧
        s.Logs (s.run operations) records records := by
  induction operations generalizing s with
  | nil => exact ⟨hosts, [], .nil, .of_record rfl⟩
  | cons operation operations ih =>
    obtain ⟨own, others⟩ := List.forall_mem_cons.1 stays
    obtain ⟨first, recalled, logs⟩ := hosts.logs_of_step own spared.1
    obtain ⟨hosts', rest, recalled', logs'⟩ := ih (hosts.step own logs) others spared.2
    exact ⟨hosts', first ++ rest, List.rel_append recalled recalled', logs.trans logs'⟩

end Sitting

/-! ### From the start of a game -/

/-- A game that was made has been where it starts, which was found before it ran. -/
theorem Opening.charted_of_start {story player : Document} {s t : Sitting}
    {presented : PresentedScene}
    (opened : outcome (Opening.newGame story player).turn s = (.ok presented, t)) : t.Charted := by
  obtain ⟨state, s₁, s₂, game, found, entered, rfl⟩ := Opening.entered_of_turn opened
  obtain ⟨-, now, id, start, settings, rfl⟩ := Opening.starting_of_find found
  have charted : (s₁.found (.starting now id story start player settings)).Charted := by
    intro left isLeft
    obtain rfl := Option.some.inj isLeft
    refine ⟨rfl, fun other mem => ?_⟩
    obtain ⟨isStart, told, ⟨place, isPlace, isStory⟩, isOf⟩ :=
      (Turn.entry_of_enterScene entered).presents
    obtain rfl := Option.some.inj isPlace
    have known : (told.scene? other).isSome = true := by
      rw [List.mem_singleton.1 mem, Story.scene?, List.find?_isSome]
      exact ⟨presented.scene, isOf.scene, beq_iff_eq.2 isStart⟩
    obtain ⟨scene, isScene⟩ := Option.isSome_iff_exists.1 known
    exact ⟨scene, (Result.bind_of_ok isStory _).trans (Repository.find_of_record isScene _)⟩
  have goes : (s₁.found (.starting now id story start player settings)).Journeys s₂ := by
    have left : after (Turn.enterScene start (Opening.newGame story player).mode)
        (s₁.found (.starting now id story start player settings)) = s₂ := congrArg Prod.snd entered
    rw [← left]
    refine Turn.enterScene_journeys (.inr fun game isGame => ?_)
    rw [← Option.some.inj isGame]
    rfl
  have there := (goes charted).charted
  refine there.of_route ?_ ?_
  · exact (congrArg Engine.content s₂.untimed_begun :)
  · exact congrArg (Option.map GameState.route) s₂.state_begun

theorem Opening.hosts_of_start {story player : Document} {s t : Sitting} {presented : PresentedScene}
    (typed : s.engine.content.Typed)
    (opened : outcome (Opening.newGame story player).turn s = (.ok presented, t)) :
    ∃ told, s.engine.content.story story = .ok told ∧ t.Hosts told ∧
      (∃ state, t.engine.state = some state ∧ state.progress.choicesMade = []) ∧
      t.tellings = s.tellings := by
  obtain ⟨state, s₁, found, begins⟩ := Turn.recording_unlogged.opening opened
  obtain ⟨state', s₁', found', keyed⟩ := Opening.wellKeyed_of_turn opened
  cases found.symm.trans found'
  have kept := ((Opening.newGame story player).find_keeps_engine.of_outcome found).1
  have content : s₁.engine.content = s.engine.content := (congrArg Engine.content kept :)
  have tellings : s₁.tellings = s.tellings := by
    unfold Sitting.tellings Sitting.announced
    rw [(congrArg Engine.published kept : s₁.engine.published = s.stopped.engine.published)]
    rfl
  obtain ⟨⟨told, isStory⟩, now, id, scene, settings, rfl⟩ := Opening.starting_of_find found
  obtain ⟨left, isLeft, same, choices⟩ := begins.made _ rfl
  have content' : t.engine.content = s.engine.content := begins.content.trans content
  refine ⟨told, isStory, ⟨?_, keyed nofun, ?_, ⟨left.place, ?_, ?_⟩, charted_of_start opened⟩,
    ⟨left, isLeft, choices⟩, ?_⟩
  · exact content' ▸ typed
  · cases Opening.starting_of_turn opened with
    | @started _ u state presented event found entry =>
      have drawn : Drawn s.engine.content u.scenery := (entry.drawn (.of_not_shown rfl rfl)).1
      exact content' ▸ drawn.of_sight (sight_of_view u.view_begun)
  · rw [Sitting.scenery, Engine.place, isLeft]
    rfl
  · have kept : t.scenery.1.content = s.engine.content := content'
    rw [kept, GameState.place, same]
    exact isStory
  · exact begins.told.trans ((List.append_nil _).trans tellings)

/-- Along every run of a game of a typed library, from its start and until another is opened or it
is shut down, and unless a choice comes to a condition that raises or to a number that overflows or
is too long: the log has the choices that returned, in their order and as they were made, and so has
what was announced of choices since the start.  Nothing else changes it. -/
theorem choices_along_run {story player : Document} {s : Sitting} (typed : s.engine.content.Typed)
    (started : fault? (Operation.begin (.newGame story player)).turn s = none)
    {operations : List Operation} (stays : ∀ operation ∈ operations, operation.staysIn = true)
    (spared : (s.step (.begin (.newGame story player))).Evades Fault.isMishap operations) :
    let begun := s.step (.begin (.newGame story player))
    ∃ state told, (begun.run operations).engine.state = some state ∧
      s.engine.content.story story = .ok told ∧
      List.Forall₂ (Sitting.Recalls told) (begun.makings operations) state.progress.choicesMade ∧
      (begun.run operations).tellings =
        s.tellings ++ state.progress.choicesMade.map ChoiceRecord.announcement ∧
      ∀ past operation, past ++ [operation] <+: operations →
        operation.making? (begun.run past) = none →
        (begun.run past).Unlogged (begun.run (past ++ [operation])) := by
  intro begun
  obtain ⟨_, ends⟩ := ok_of_no_fault started
  obtain ⟨presented, t, opened, gives⟩ := ok_of_outcome_bind ends
  obtain rfl : t = begun := (Prod.mk.inj gives).2
  obtain ⟨told, isStory, hosts, ⟨first, isFirst, none⟩, tellings⟩ :=
    Opening.hosts_of_start typed opened
  obtain ⟨-, records, recalled, logs⟩ := hosts.logs_of_run stays spared
  obtain ⟨state, isState, -, choices⟩ := logs.made first isFirst
  rw [none, List.nil_append] at choices
  refine ⟨state, told, isState, isStory, ?_, ?_, fun past operation sub unmade => ?_⟩
  · rw [choices]
    exact recalled
  · rw [choices, logs.told, tellings]
  · obtain ⟨rest, rfl⟩ := sub
    obtain ⟨staysPast, stays'⟩ :=
      List.forall_mem_append.1 (fun operation mem => stays operation (List.mem_append_left rest mem))
    obtain ⟨sparedPast, spared'⟩ :=
      Sitting.throughout_append.1 (Sitting.throughout_append.1 spared).1
    obtain ⟨there, -⟩ := hosts.logs_of_run staysPast sparedPast
    obtain ⟨records, recalled, logs⟩ :=
      there.logs_of_step (stays' operation (List.mem_singleton.2 rfl)) spared'.1
    rw [unmade] at recalled
    cases recalled
    rw [Sitting.run_append]
    exact logs

/-! ### In the gallery -/

namespace Gallery

theorem typed_awake : awake.engine.content.Typed := by
  have textual : ∀ text : String, Document.IsTextual (.text text) := fun text _ => ⟨text, rfl⟩
  have plain : ∀ scene ∈ [hall, attic], scene.effects = {} := by decide +kernel
  have calm : ∀ choice ∈ [look, climb], choice.effects = {} := by decide +kernel
  have called : ∀ scene ∈ [hall, attic], scene.id.isKey = true ∧
      (∀ id ∈ scene.choiceIds, id.isKey = true) ∧ ∀ id ∈ scene.characterIds, id.isKey = true := by
    decide +kernel
  have named : ∀ choice ∈ [look, climb], choice.target.isKey = true := by decide +kernel
  intro volume mem
  obtain rfl := List.mem_singleton.1 mem
  refine ⟨rfl, fun scene among => ?_, fun choice among => ⟨?_, ?_⟩⟩
  · obtain ⟨id, choices, characters⟩ := called scene among
    refine ⟨id, ?_, ?_, choices, characters⟩
    · rcases List.mem_pair.1 among with rfl | rfl <;> exact textual _
    · rw [plain scene among]
      exact ⟨nofun, nofun, nofun⟩
  · rcases List.mem_pair.1 among with rfl | rfl <;> exact textual _
  · rintro target (isTarget | ⟨custom, among', -⟩)
    · exact isTarget ▸ named choice among
    · rw [calm choice among] at among'
      cases among'

/-- What it holds was never written out. -/
def unfinishedAttic : Scene where
  id := "attic"
  title := "Attic"
  content := .int 5

def unfinished : Sitting :=
  (Sitting.fresh { now := 1000000.0 }
    { volumes := [⟨{ story with scenes := [hall, unfinishedAttic] }, none⟩] } {} {}).step .wake

end Gallery

/-- To climb is refused, and only the look is on record. -/
theorem look_on_record :
    Gallery.awake.engine.content.Typed ∧ fault? Gallery.start.turn Gallery.awake = none ∧
      (∀ operation ∈ [Operation.choose "climb", .choose "look"], operation.staysIn = true) ∧
      (Gallery.awake.step Gallery.start).Evades Fault.isMishap [.choose "climb", .choose "look"] ∧
      ∃ state, ((Gallery.awake.step Gallery.start).run
          [.choose "climb", .choose "look"]).engine.state = some state ∧
        state.progress.choicesMade = [⟨"look", "hall", "Look", "1970-01-12T13:46:40+00:00"⟩] ∧
        ((Gallery.awake.step Gallery.start).run [.choose "climb", .choose "look"]).tellings =
          Gallery.awake.tellings ++ [.choiceMade "look" "hall" "Look"] := by
  have started : fault? Gallery.start.turn Gallery.awake = none := by decide +kernel
  have stays : ∀ operation ∈ [Operation.choose "climb", .choose "look"],
      operation.staysIn = true := by
    simp [Operation.staysIn]
  have climbs : fault? (Turn.makeChoice "climb") (Gallery.awake.step Gallery.start) =
      some (.sceneInaccessible "attic") := by
    decide +kernel
  have looks : fault? (Turn.makeChoice "look")
      ((Gallery.awake.step Gallery.start).step (.choose "climb")) = none := by
    decide +kernel
  have spared : (Gallery.awake.step Gallery.start).Evades Fault.isMishap
      [.choose "climb", .choose "look"] := by
    refine ⟨fun fault failed => ?_, fun fault failed => ?_, trivial⟩
    · rw [climbs] at failed
      obtain rfl := Option.some.inj failed
      rfl
    · rw [looks] at failed
      cases failed
  have choices : ((Gallery.awake.step Gallery.start).run
      [.choose "climb", .choose "look"]).engine.state.map (fun state =>
        state.progress.choicesMade) =
          some [⟨"look", "hall", "Look", "1970-01-12T13:46:40+00:00"⟩] := by
    decide +kernel
  have begins : Gallery.awake.step (.begin (.newGame "gallery" "Ada")) =
      Gallery.awake.step Gallery.start := rfl
  obtain ⟨state, told, isState, -, -, tellings, -⟩ :=
    choices_along_run Gallery.typed_awake started stays spared
  rw [begins] at isState tellings
  rw [isState] at choices
  have made : state.progress.choicesMade = [⟨"look", "hall", "Look", "1970-01-12T13:46:40+00:00"⟩] :=
    Option.some.inj choices
  rw [made] at tellings
  exact ⟨Gallery.typed_awake, started, stays, spared, state, isState, made, tellings⟩

/-- Where the content of a scene is no text, the choice that leads there does not return, and stays
on record; nothing is announced of it. -/
theorem unreturned_choice_on_record :
    fault? Gallery.start.turn Gallery.unfinished = none ∧
      (Gallery.unfinished.step Gallery.start).Evades Fault.isMishap [.choose "climb"] ∧
      (Gallery.unfinished.step Gallery.start).makings [.choose "climb"] = [] ∧
      ∃ state, ((Gallery.unfinished.step Gallery.start).run [.choose "climb"]).engine.state =
          some state ∧
        state.progress.choicesMade = [⟨"climb", "hall", "Climb", "1970-01-12T13:46:40+00:00"⟩] ∧
        ((Gallery.unfinished.step Gallery.start).run [.choose "climb"]).tellings = [] := by
  have started : fault? Gallery.start.turn Gallery.unfinished = none := by decide +kernel
  have climbs : fault? (Turn.makeChoice "climb") (Gallery.unfinished.step Gallery.start) =
      some (.mistyped (.operand "expected string or bytes-like object, got 'int'")) := by
    decide +kernel
  have spared :
      (Gallery.unfinished.step Gallery.start).Evades Fault.isMishap [.choose "climb"] := by
    refine ⟨fun fault failed => ?_, trivial⟩
    rw [climbs] at failed
    obtain rfl := Option.some.inj failed
    rfl
  have nothing : (Gallery.unfinished.step Gallery.start).makings [.choose "climb"] = [] :=
    Sitting.makings_of_failed climbs
  have choices : ((Gallery.unfinished.step Gallery.start).run [.choose "climb"]).engine.state.map
      (fun state => state.progress.choicesMade) =
        some [⟨"climb", "hall", "Climb", "1970-01-12T13:46:40+00:00"⟩] := by
    decide +kernel
  have silent : ((Gallery.unfinished.step Gallery.start).run [.choose "climb"]).tellings = [] := by
    decide +kernel
  obtain ⟨state, isState, made⟩ := Option.map_eq_some_iff.1 choices
  exact ⟨started, spared, nothing, state, isState, made, silent⟩

end InteractiveFiction
