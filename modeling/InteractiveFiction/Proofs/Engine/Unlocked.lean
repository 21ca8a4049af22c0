import InteractiveFiction.Proofs.Engine.Achievements
import InteractiveFiction.Proofs.Engine.Record

/-!
Achievements along the runs of a game.

* `unlockings published`: the achievements of which it was announced that they are unlocked.
* `Sitting.Earns s t`: from `s` to `t` the same game goes on, and whatever was unlocked in between
  is written down behind what was unlocked before, was announced in that order, is of the story and
  is new.  All that is done in a game goes along (`earns_of_step`), but for choices that are taken
  back after achievements were unlocked: where a condition of an achievement raises
  (`Sitting.Answerable`).
* `unlocked_along_run`: so after every run of a game, the achievements that are written down are
  those that were announced since its start.
-/

set_option autoImplicit false

namespace InteractiveFiction

open Course

/-! ## What is announced of achievements -/

namespace Event

/-- The achievement that an event announces to be unlocked. -/
def unlocked? (event : Event) : Option Document :=
  if event.name = "achievementUnlocked" then event.payload.lookup "achievement_id" else none

theorem unlocked?_of_name {event : Event} (h : event.name ≠ "achievementUnlocked") :
    event.unlocked? = none :=
  if_neg h

theorem unlocked?_announcement (achievement : Achievement) :
    achievement.announcement.unlocked? = some achievement.id := rfl

end Event

def unlockings (published : List EventRecord) : List Document :=
  published.filterMap fun record => record.event.unlocked?

/-- No bundle announces that an achievement is unlocked. -/
theorem unlockings_announcements (published : List EventRecord) :
    unlockings (announcements published) = unlockings published := by
  unfold unlockings announcements
  rw [List.filterMap_filter]
  refine congrArg (fun f => published.filterMap f) (funext fun record => ?_)
  cases ofBundle : record.event.isOfBundle with
  | false => rfl
  | true => exact (Event.unlocked?_of_name (Event.name_ne_of_isOfBundle ofBundle (by decide))).symm

namespace Sitting

def unlockings (s : Sitting) : List Document :=
  InteractiveFiction.unlockings s.engine.published

theorem unlockings_announce {event : Event} (h : event.name ≠ "achievementUnlocked") (s : Sitting) :
    (s.announce event).unlockings = s.unlockings := by
  unfold unlockings InteractiveFiction.unlockings announce
  rw [List.filterMap_append]
  simp [Event.unlocked?_of_name h]

theorem unlockings_unlocking (s : Sitting) (achievements : List Achievement)
    (played : List AudioCall) :
    (s.unlocking achievements played).unlockings =
      s.unlockings ++ achievements.map Achievement.id := by
  unfold unlockings InteractiveFiction.unlockings unlocking
  rw [List.filterMap_append, List.filterMap_map]
  simp [Function.comp_def, Event.unlocked?_announcement]

/-- What there is to play, and what was announced of achievements. -/
def glory (s : Sitting) : Repository × List Document :=
  (s.engine.content, s.unlockings)

theorem glory_of_record {s t : Sitting} (h : t.record = s.record) : t.glory = s.glory := by
  have content : t.engine.content = s.engine.content := congrArg Prod.fst h
  unfold glory unlockings
  rw [content, ← unlockings_announcements, announcements_of_record h, unlockings_announcements]

end Sitting

/-! ## A game that goes on -/

/-- The ids are of achievements that a story has. -/
def Repository.Awards (content : Repository) (story : Document) (ids : List Document) : Prop :=
  ∀ id ∈ ids, ∃ achievements, content.achievements story = .ok achievements ∧
    ∃ achievement ∈ achievements, achievement.id = id

/-- What was unlocked of a game on the way from one sitting to another. -/
structure Earning (s t : Sitting) (state left : GameState) (more : List Document) : Prop where
  content : t.engine.content = s.engine.content
  story : left.storyId = state.storyId
  unlocked : left.progress.achievementsUnlocked = state.progress.achievementsUnlocked ++ more
  told : t.unlockings = s.unlockings ++ more
  authored : s.engine.content.Awards state.storyId more
  once : state.UnlockedOnce → left.UnlockedOnce

/-- Where there is a game, it goes on, and achievements are only added. -/
def Sitting.Earns (s t : Sitting) : Prop :=
  ∀ state, s.engine.state = some state →
    ∃ left more, t.engine.state = some left ∧ Earning s t state left more

namespace Sitting

/-- Nothing was unlocked where the achievements that are written down and announced are the same. -/
theorem earning_of_same {s t : Sitting} {state left : GameState} (glory : t.glory = s.glory)
    (story : left.storyId = state.storyId)
    (same : left.progress.achievementsUnlocked = state.progress.achievementsUnlocked) :
    Earning s t state left [] where
  content := congrArg Prod.fst glory
  story := story
  unlocked := same.trans (List.append_nil _).symm
  told := (congrArg Prod.snd glory).trans (List.append_nil _).symm
  authored := nofun
  once h := by rwa [GameState.UnlockedOnce, same]

theorem Earns.of_record {s t : Sitting} (h : t.record = s.record) : s.Earns t := by
  intro state isState
  have annals : t.engine.state.map GameState.annals = some state.annals := by
    have same : t.engine.state.map GameState.annals = s.engine.state.map GameState.annals :=
      congrArg (fun record => record.2.1) h
    rw [same, isState]
    rfl
  obtain ⟨left, isLeft, same⟩ := Option.map_eq_some_iff.1 annals
  refine ⟨left, [], isLeft, earning_of_same (glory_of_record h) ?_ ?_⟩
  · exact congrArg Annals.story same
  · exact congrArg Annals.achievements same

instance : Std.Refl Earns where
  refl _ := .of_record rfl

theorem Earns.trans {s t u : Sitting} (h : s.Earns t) (h' : t.Earns u) : s.Earns u := by
  intro state isState
  obtain ⟨left, more, isLeft, first⟩ := h state isState
  obtain ⟨last, further, isLast, second⟩ := h' left isLeft
  refine ⟨last, more ++ further, isLast, ?_⟩
  exact {
    content := second.content.trans first.content
    story := second.story.trans first.story
    unlocked := by rw [second.unlocked, first.unlocked, List.append_assoc]
    told := by rw [second.told, first.told, List.append_assoc]
    authored := fun id mem => by
      rcases List.mem_append.1 mem with mem | mem
      · exact first.authored id mem
      · have authored := second.authored id mem
        rwa [first.content, first.story] at authored
    once := fun once => second.once (first.once once) }

instance : Trans Earns Earns Earns where
  trans := .trans

theorem earns_unlocking {s : Sitting} {state : GameState} {achievements unlocked : List Achievement}
    {failure : Option Fault} (isState : s.engine.state = some state)
    (authored : s.engine.content.achievements state.storyId = .ok achievements)
    (pass : Achievement.unlocks (Timestamp.hour s.world.now) state achievements =
      (unlocked, failure))
    (played : List AudioCall) : s.Earns (s.unlocking unlocked played) := by
  intro state' isState'
  obtain rfl : state = state' := Option.some.inj (isState.symm.trans isState')
  have isUnlocked :
      unlocked = (Achievement.unlocks (Timestamp.hour s.world.now) state achievements).1 := by
    rw [pass]
  refine ⟨state.unlocking unlocked, unlocked.map Achievement.id, ?_, ?_⟩
  · exact congrArg (Option.map _) isState
  · exact {
      content := rfl
      story := rfl
      unlocked := rfl
      told := s.unlockings_unlocking unlocked played
      authored := fun id mem => by
        obtain ⟨achievement, isUnlocked', rfl⟩ := List.mem_map.1 mem
        have sub := Achievement.unlocks_sublist (Timestamp.hour s.world.now) state achievements
        rw [← isUnlocked] at sub
        exact ⟨achievements, authored, achievement, sub.subset isUnlocked', rfl⟩
      once := fun once => by
        rw [isUnlocked]
        exact Achievement.unlockedOnce_unlocks once achievements }

end Sitting

/-- Every condition that a check of the achievements would come to now can be evaluated. -/
def Sitting.Answers (s : Sitting) : Prop :=
  ∀ state achievements, s.engine.state = some state →
    s.engine.content.achievements state.storyId = .ok achievements →
      (Achievement.unlocks (Timestamp.hour s.world.now) state achievements).2 = none

theorem Sitting.answers_of_checked {s : Sitting}
    (h : fault? Turn.checkAchievements s = none) : s.Answers := by
  intro state achievements isState authored
  obtain ⟨played, ends⟩ := Turn.checkAchievements_ends isState authored rfl
  obtain ⟨_, checked⟩ := ok_of_no_fault h
  rw [ends] at checked
  cases failure : (Achievement.unlocks (Timestamp.hour s.world.now) state achievements).2 with
  | none => rfl
  | some fault =>
    rw [failure] at checked
    cases checked

namespace Turn

variable {α : Type}

/-! ## Turns along which a game goes on -/

theorem publish_earns {event : Event} (h : event.name ≠ "achievementUnlocked") :
    Leads Sitting.Earns (publish event) := by
  intro s state isState
  have glory : (s.announce event).glory = s.glory :=
    Prod.ext rfl (Sitting.unlockings_announce h s)
  exact ⟨state, [], isState, Sitting.earning_of_same glory rfl rfl⟩

theorem report_earns (operation : String) (fault : Fault) :
    Leads Sitting.Earns (report operation fault) :=
  publish_earns (by decide : "error" ≠ "achievementUnlocked")

theorem recording_earns : Recording Sitting.Earns where
  keeps _ _ same := .of_record same
  tells event routine := by
    refine publish_earns fun named => ?_
    rw [Event.isRoutine, named] at routine
    cases routine
  fails operation _ fault := report_earns operation fault
  checks := leads_checkAchievements Sitting.earns_unlocking

theorem recordChoice_earns (id scene text : Document) :
    Leads Sitting.Earns (recordChoice id scene text) := by
  refine .bind (.of_reads confined_now) fun now => .modify fun s state isState => ?_
  refine ⟨_, [], congrArg (Option.map _) isState, Sitting.earning_of_same ?_ rfl rfl⟩
  rfl

theorem endGame_earns : Leads Sitting.Earns endGame :=
  recording_earns.endGame fun _ _ _ => publish_earns (by decide : "gameEnded" ≠ _)

/-! ## Choices -/

abbrev KeepsGlory (turn : Turn α) : Prop :=
  Confined Sitting.glory AnyFault turn

theorem keepsGlory_of_unrecorded {turn : Turn α} (h : Unrecorded turn) : KeepsGlory turn :=
  h.through fun _ _ same => Sitting.glory_of_record same

theorem modifyState_keepsGlory (change : GameState → GameState) : KeepsGlory (modifyState change) :=
  .modify fun _ => rfl

theorem updateProgress_keepsGlory : KeepsGlory updateProgress := by
  refine .bind (confined_state trivial) fun state => .bind confined_engine fun engine => ?_
  refine .bind (confined_lift (Result.anyFault _)) fun total => ?_
  refine .bind (confined_lift (Result.anyFault _)) fun visited => ?_
  refine .branch (.bind ?_ fun _ => ?_) (.pure ())
  · exact modifyState_keepsGlory _
  · refine .intro fun s => ⟨?_, Result.anyFault _⟩
    exact Prod.ext rfl (Sitting.unlockings_announce (by decide : "progressUpdated" ≠ _) s)

theorem commit_keepsGlory (id : Document) : KeepsGlory (commit id) := by
  refine .bind (keepsGlory_of_unrecorded (unrecorded_of_reads (weigh_reads id))) fun weighed => ?_
  have applies := inFront_unrecorded weighed.2.1.effects.process_inFront
  refine .bind (keepsGlory_of_unrecorded applies) fun effects => .bind ?_ fun _ => .pure _
  exact .bind confined_now fun now => modifyState_keepsGlory _

theorem glory_of_unchecked {s s' : Sitting} {fault : Fault}
    (failed : outcome checkAchievements s = (.error fault, s')) :
    s'.glory = s.glory ∨ ¬s.Answers := by
  rcases checkAchievements_cases s with ⟨fault', nothing⟩ |
    ⟨state, achievements, unlocked, failure, played, isState, authored, pass, ends⟩
  · rw [nothing] at failed
    cases failed
    exact .inl rfl
  · refine .inr fun answers => ?_
    have through := answers state achievements isState authored
    rw [pass] at through
    obtain rfl : failure = none := through
    rw [ends] at failed
    cases failed

/-- What is made of a choice until achievements are checked. -/
def chooseUntilCheck (id : Document) : Turn Unit := do
  requireStatus .running "make_choice"
  let commitment ← commit id
  if commitment.target.isTruthy then
    let _ ← enterUntilCheck commitment.target {}

theorem enterUntilCheck_keepsGlory (id : Document) (mode : EntryMode) :
    KeepsGlory (enterUntilCheck id mode) := by
  refine .bind (keepsGlory_of_unrecorded (approach_unrecorded id mode)) fun scene => ?_
  refine .bind (keepsGlory_of_unrecorded (arrive_unrecorded id mode scene)) fun presented => ?_
  exact .bind updateProgress_keepsGlory fun _ => .pure _

/-- An entry fails before anything is unlocked, or where a condition of an achievement raises. -/
theorem glory_of_unentered {id : Document} {mode : EntryMode} {s s' : Sitting} {fault : Fault}
    (failed : outcome (enterScene id mode) s = (.error fault, s')) :
    s'.glory = s.glory ∨ ∃ entry t, outcome (enterUntilCheck id mode) s = (.ok entry, t) ∧
      ¬t.Answers := by
  have before := enterUntilCheck_keepsGlory id mode
  rw [enterScene_eq_check] at failed
  rcases error_of_outcome_bind failed with lost | ⟨entry, t, reached, failed⟩
  · exact .inl (before.of_outcome lost).1
  rcases error_of_outcome_bind failed with unchecked | ⟨_, t', -, concluded⟩
  · rcases glory_of_unchecked unchecked with same | raises
    · exact .inl (same.trans (before.of_outcome reached).1)
    · exact .inr ⟨entry, t, reached, raises⟩
  · obtain ⟨t'', returns⟩ := concludeEntry_returns id mode entry.1 entry.2 t'
    rw [returns] at concluded
    cases concluded

/-- Where no condition of an achievement raises, a choice that is taken back had unlocked none. -/
theorem earns_of_follow {target : Document} {s t : Sitting} {before : GameState}
    (isBefore : s.engine.state = some before) (going : s.Earns t) (glory : t.glory = s.glory)
    (answered : ∀ entry u, outcome (enterUntilCheck target {}) t = (.ok entry, u) → u.Answers) :
    s.Earns (after (follow target before) t) := by
  rcases entered : outcome (enterScene target {}) t with ⟨r, u⟩
  have further : s.Earns u :=
    Trans.trans going ((recording_earns.enterScene target {}).of_outcome entered)
  cases r with
  | ok presented =>
    rw [after, outcome_follow_of_ok entered]
    exact further
  | error fault =>
    rw [after, outcome_follow_of_error entered]
    dsimp only
    split
    · intro state isState
      obtain rfl : before = state := Option.some.inj (isBefore.symm.trans isState)
      obtain ⟨left, more, isLeft, -⟩ := further before isBefore
      have back : (u.putBack before).engine.state = some before := by
        rw [Sitting.putBack, isLeft]
        rfl
      refine ⟨before, [], back, Sitting.earning_of_same ?_ rfl rfl⟩
      rcases glory_of_unentered entered with same | ⟨entry, v, reached, raises⟩
      · exact same.trans glory
      · exact absurd (answered entry v reached) raises
    · exact further

theorem makeChoice_earns {id : Document} {s : Sitting}
    (answered : fault? (chooseUntilCheck id) s = none → (after (chooseUntilCheck id) s).Answers) :
    s.Earns (after (makeChoice id) s) := by
  by_cases running : s.engine.status = .running
  · have same := makeChoice_of_running running id
    rw [after, same]
    refine Recording.of_reporting report_earns ?_ _
    rcases committed : outcome (commit id) s with ⟨r, s₁⟩
    have commits := (recording_earns.commit recordChoice_earns id).of_outcome committed
    cases r with
    | error fault =>
      rw [after, outcome_bind_of_error committed]
      exact commits
    | ok commitment =>
      rw [after, outcome_bind_of_ok committed]
      have announces : Leads Sitting.Earns
          (publish (.choiceMade id commitment.before.currentSceneId commitment.choice.text)) :=
        publish_earns (by decide : "choiceMade" ≠ _)
      unfold conclude
      dsimp only
      split
      · rename_i leads
        have answers {entry : Scene × PresentedScene} {u : Sitting}
            (reached : outcome (enterUntilCheck commitment.target {}) s₁ = (.ok entry, u)) :
            u.Answers := by
          have through : outcome (chooseUntilCheck id) s = (.ok (), u) := by
            unfold chooseUntilCheck
            rw [outcome_bind_of_ok (outcome_requireStatus_of_eq running _)]
            rw [outcome_bind_of_ok committed, if_pos leads, outcome_bind_of_ok reached]
            rfl
          rw [fault?, result, after, through] at answered
          exact answered rfl
        have glory := ((commit_keepsGlory id).of_outcome committed).1
        have followed := earns_of_follow (commit_ends committed).2 commits glory
          fun _ _ reached => answers reached
        exact Leads.after_bind followed fun _ => .bind announces fun _ => .pure _
      · refine Trans.trans commits (Leads.bind announces (fun _ => ?_) s₁)
        exact .bind endGame_earns fun _ => .pure _
  · obtain ⟨fault, idle⟩ := makeChoice_of_idle running id
    rw [after, idle]
    exact Recording.blame report_earns s _ _

end Turn

/-! ## Runs -/

namespace Operation

/-- A choice comes to no achievement whose condition raises. -/
def Answerable (s : Sitting) : Operation → Prop
  | .choose id => fault? (Turn.chooseUntilCheck id) s = none →
      (after (Turn.chooseUntilCheck id) s).Answers
  | _ => True

end Operation

theorem Sitting.earns_of_step {operation : Operation} (stays : operation.staysIn = true)
    {s : Sitting} (answered : operation.Answerable s) : s.Earns (s.step operation) := by
  cases unchosen : operation.isChoice with
  | false => exact Turn.Recording.step Turn.report_earns Turn.recording_earns stays unchosen s
  | true =>
    cases operation with
    | choose id =>
      rw [Sitting.step_choose]
      exact Turn.makeChoice_earns answered
    | _ => cases unchosen

namespace Sitting

/-- None of the choices of a run comes to an achievement whose condition raises. -/
def Answerable (s : Sitting) : List Operation → Prop
  | [] => True
  | operation :: operations =>
    operation.Answerable s ∧ (s.step operation).Answerable operations

theorem answerable_append {s : Sitting} {past rest : List Operation} :
    s.Answerable (past ++ rest) ↔ s.Answerable past ∧ (s.run past).Answerable rest := by
  induction past generalizing s with
  | nil => exact (and_iff_right trivial).symm
  | cons operation past ih =>
    change operation.Answerable s ∧ (s.step operation).Answerable (past ++ rest) ↔
      (operation.Answerable s ∧ (s.step operation).Answerable past) ∧
        ((s.step operation).run past).Answerable rest
    rw [ih, and_assoc]

theorem earns_of_run {s : Sitting} {operations : List Operation}
    (stays : ∀ operation ∈ operations, operation.staysIn = true)
    (answered : s.Answerable operations) : s.Earns (s.run operations) := by
  induction operations generalizing s with
  | nil => exact Std.Refl.refl s
  | cons operation operations ih =>
    obtain ⟨own, others⟩ := List.forall_mem_cons.1 stays
    exact (earns_of_step own answered.1).trans (ih others answered.2)

end Sitting

/-! ### From the start of a game -/

/-- The achievements of a game of a story that was started at `s` are those that were announced from
then on, in that order; they are of the story, and none is there twice. -/
structure Sitting.Honours (s t : Sitting) (id : Document) (state : GameState) : Prop where
  content : t.engine.content = s.engine.content
  story : state.storyId = id
  told : t.unlockings = s.unlockings ++ state.progress.achievementsUnlocked
  authored : s.engine.content.Awards id state.progress.achievementsUnlocked
  once : state.UnlockedOnce

namespace Sitting

theorem Honours.of_earns {s t u : Sitting} {id : Document} {state : GameState}
    (h : s.Honours t id state) (isState : t.engine.state = some state) (goes : t.Earns u) :
    ∃ left, u.engine.state = some left ∧ s.Honours u id left ∧
      state.progress.achievementsUnlocked <+: left.progress.achievementsUnlocked := by
  obtain ⟨left, more, isLeft, earning⟩ := goes state isState
  have authored := earning.authored
  rw [h.content, h.story] at authored
  refine ⟨left, isLeft, ?_, more, earning.unlocked.symm⟩
  exact {
    content := earning.content.trans h.content
    story := earning.story.trans h.story
    told := by rw [earning.told, h.told, earning.unlocked, List.append_assoc]
    authored := fun ach mem => by
      rw [earning.unlocked] at mem
      exact (List.mem_append.1 mem).elim (h.authored ach) (authored ach)
    once := earning.once h.once }

end Sitting

/-- A game that is made is of a story of the library. -/
theorem Opening.starting_of_find {story player : Document} {s t : Sitting} {state : GameState}
    (found : outcome (Opening.newGame story player).find s = (.ok state, t)) :
    (∃ told, s.engine.content.story story = .ok told) ∧
      ∃ now id scene settings, state = GameState.starting now id story scene player settings := by
  obtain ⟨engine, s₁, isEngine, afterEngine⟩ := ok_of_outcome_bind found
  cases isEngine
  obtain ⟨start, s₂, isStart, afterStart⟩ := ok_of_outcome_bind afterEngine
  rw [Turn.outcome_lift] at isStart
  obtain ⟨told, isStory, -⟩ := Result.ok_of_bind (Prod.mk.inj isStart).1
  obtain ⟨_, s₃, -, afterIssue⟩ := ok_of_outcome_bind afterStart
  obtain ⟨world, s₄, -, afterWorld⟩ := ok_of_outcome_bind afterIssue
  obtain ⟨engine', s₅, -, made⟩ := ok_of_outcome_bind afterWorld
  cases made
  exact ⟨⟨told, isStory⟩, _, _, _, _, rfl⟩

theorem Opening.honours_of_start {story player : Document} {s t : Sitting}
    {presented : PresentedScene}
    (opened : outcome (Opening.newGame story player).turn s = (.ok presented, t)) :
    ∃ state, t.engine.state = some state ∧ s.Honours t story state := by
  obtain ⟨state, s₁, found, goes⟩ := Turn.recording_earns.opening opened
  have kept := ((Opening.newGame story player).find_keeps_engine.of_outcome found).1
  obtain ⟨-, now, id, scene, settings, rfl⟩ := Opening.starting_of_find found
  have made : s.Honours (s₁.found (.starting now id story scene player settings)) story
      (.starting now id story scene player settings) :=
    { content := (congrArg Engine.content kept :)
      story := rfl
      told := by
        rw [GameState.starting, List.append_nil]
        exact (congrArg (fun engine : Engine =>
          InteractiveFiction.unlockings engine.published) kept :)
      authored := nofun
      once := .nil }
  obtain ⟨left, isLeft, honours, -⟩ := made.of_earns rfl goes
  exact ⟨left, isLeft, honours⟩

/-- Along every run of a game, from its start and until another is opened or it is shut down, and
unless a condition of an achievement raises when a choice is made: no achievement is unlocked twice
or lost, and the achievements of the game are those that were announced since its start. -/
theorem unlocked_along_run {story player : Document} {s : Sitting}
    (started : fault? (Operation.begin (.newGame story player)).turn s = none)
    {operations : List Operation} (stays : ∀ operation ∈ operations, operation.staysIn = true)
    (answered : (s.step (.begin (.newGame story player))).Answerable operations) :
    let begun := s.step (.begin (.newGame story player))
    ∃ state, (begun.run operations).engine.state = some state ∧
      s.Honours (begun.run operations) story state ∧
      ∀ past, past <+: operations → ∃ earlier, (begun.run past).engine.state = some earlier ∧
        earlier.progress.achievementsUnlocked <+: state.progress.achievementsUnlocked := by
  intro begun
  obtain ⟨_, ends⟩ := ok_of_no_fault started
  obtain ⟨presented, t, opened, gives⟩ := ok_of_outcome_bind ends
  obtain rfl : t = begun := (Prod.mk.inj gives).2
  obtain ⟨first, isFirst, honours⟩ := Opening.honours_of_start opened
  obtain ⟨state, isState, honours', -⟩ := honours.of_earns isFirst (Sitting.earns_of_run stays answered)
  refine ⟨state, isState, honours', ?_⟩
  rintro past ⟨rest, rfl⟩
  obtain ⟨before, behind⟩ := List.forall_mem_append.1 stays
  obtain ⟨answeredBefore, answeredBehind⟩ := Sitting.answerable_append.1 answered
  obtain ⟨earlier, isEarlier, honoured, -⟩ :=
    honours.of_earns isFirst (Sitting.earns_of_run before answeredBefore)
  obtain ⟨left, isLeft, -, kept⟩ :=
    honoured.of_earns isEarlier (Sitting.earns_of_run behind answeredBehind)
  have whole : begun.run (past ++ rest) = (begun.run past).run rest := List.foldl_append
  rw [whole, isLeft] at isState
  cases isState
  exact ⟨earlier, isEarlier, kept⟩

/-! ## A gallery -/

namespace Gallery

def look : Choice where
  id := "look"
  text := "Look"
  target := "hall"

/-- Leads to a scene that is closed. -/
def climb : Choice where
  id := "climb"
  text := "Climb"
  target := "attic"

def hall : Scene where
  id := "hall"
  title := "Hall"
  content := "A hall."
  choiceIds := ["look", "climb"]

def attic : Scene where
  id := "attic"
  title := "Attic"
  conditions := .object [("playerGold", .int 1000)]

/-- Guests are listed twice, and collectors before them. -/
def story : Story where
  id := "gallery"
  title := "The gallery"
  startingSceneId := "hall"
  scenes := [hall, attic]
  choices := [look, climb]
  achievements := [Trophies.collector, Trophies.guest, Trophies.guest]

def awake : Sitting :=
  (Sitting.fresh { now := 1000000.0 } { volumes := [⟨story, none⟩] } {} {}).step .wake

def start : Operation :=
  .begin (.newGame "gallery" "Ada")

end Gallery

/-- A guest cannot climb, and is a collector after a look. -/
theorem guest_then_collector :
    fault? Gallery.start.turn Gallery.awake = none ∧
      fault? (Operation.choose "climb").turn (Gallery.awake.step Gallery.start) =
        some (.sceneInaccessible "attic") ∧
      (∀ operation ∈ [Operation.choose "climb", .choose "look"], operation.staysIn = true) ∧
      (Gallery.awake.step Gallery.start).Answerable [.choose "climb", .choose "look"] ∧
      ∃ state, ((Gallery.awake.step Gallery.start).run
          [.choose "climb", .choose "look"]).engine.state = some state ∧
        state.progress.achievementsUnlocked = [.text "guest", .text "collector"] ∧
        Gallery.awake.Honours ((Gallery.awake.step Gallery.start).run
          [.choose "climb", .choose "look"]) "gallery" state := by
  have started : fault? Gallery.start.turn Gallery.awake = none := by decide +kernel
  have refused : fault? (Operation.choose "climb").turn (Gallery.awake.step Gallery.start) =
      some (.sceneInaccessible "attic") := by
    decide +kernel
  have stays : ∀ operation ∈ [Operation.choose "climb", .choose "look"],
      operation.staysIn = true := by
    simp [Operation.staysIn]
  have answered : (Gallery.awake.step Gallery.start).Answerable [.choose "climb", .choose "look"] := by
    have climbs : fault? (Turn.chooseUntilCheck "climb") (Gallery.awake.step Gallery.start) =
        some (.sceneInaccessible "attic") := by
      decide +kernel
    have looks : fault? Turn.checkAchievements (after (Turn.chooseUntilCheck "look")
        ((Gallery.awake.step Gallery.start).step (.choose "climb"))) = none := by
      decide +kernel
    refine ⟨fun through => ?_, fun _ => Sitting.answers_of_checked looks, trivial⟩
    rw [climbs] at through
    cases through
  have unlocked : ((Gallery.awake.step Gallery.start).run
      [.choose "climb", .choose "look"]).engine.state.map (fun state =>
        state.progress.achievementsUnlocked) = some [.text "guest", .text "collector"] := by
    decide +kernel
  have begins : Gallery.awake.step (.begin (.newGame "gallery" "Ada")) =
      Gallery.awake.step Gallery.start := rfl
  obtain ⟨state, isState, honours, -⟩ := unlocked_along_run started stays answered
  rw [begins] at isState
  rw [isState] at unlocked
  exact ⟨started, refused, stays, answered, state, isState, Option.some.inj unlocked, honours⟩

end InteractiveFiction
