import InteractiveFiction.Proofs.Engine.Shown

/-!
The delayed effects of a scene, from the entry that has them wait to the moment they apply.

Operations and the firings of timers may come in any order (`Occurrence`), and a timer may fire
whether it is set or not; the passing of time is no more than some of these orders
(`exists_occurs_of_run`).

What waits in a game in progress was made to wait by an entry, and since then nobody left the scene
and nothing was applied (`Sitting.Owes`).  One occurrence keeps that (`awaits_of_occur`,
`owes_occur`), and so does a course of them (`owes_occurs`).  So what an entry has wait applies at
most once, only while the game runs, and never after the scene was left
(`delayed_effects_apply_once`).
-/

set_option autoImplicit false

namespace InteractiveFiction

open Course

/-! ## Occurrences -/

/-- Operations that let no time pass. -/
def Operation.isInstant : Operation → Bool
  | .pass _ => false
  | _ => true

/-- What happens at one moment: an operation that lets no time pass, or the firing of a timer. -/
inductive Occurrence where
  | does (operation : Operation) (instant : operation.isInstant = true)
  | fires (timer : Timer)

namespace Sitting

def occur (s : Sitting) : Occurrence → Sitting
  | .does operation _ => s.step operation
  | .fires timer => s.fire timer

def occurs (s : Sitting) (occurrences : List Occurrence) : Sitting :=
  occurrences.foldl occur s

theorem occurs_append (s : Sitting) (past future : List Occurrence) :
    s.occurs (past ++ future) = (s.occurs past).occurs future :=
  List.foldl_append

theorem exists_occurs_of_step (s : Sitting) (operation : Operation) :
    ∃ occurrences, s.step operation = s.occurs occurrences := by
  cases operation with
  | pass seconds =>
    refine Turn.pass_induction (P := fun t => ∃ occurrences, t = s.occurs occurrences) ?_ ?_
      seconds ⟨[], rfl⟩
    · rintro t time ⟨past, rfl⟩
      refine ⟨past ++ [.does (.outside ((s.occurs past).world.advanceTo time)) rfl], ?_⟩
      rw [occurs_append]
      rfl
    · rintro t ⟨past, rfl⟩ timer -
      refine ⟨past ++ [.fires timer], ?_⟩
      rw [occurs_append]
      rfl
  | _ => exact ⟨[.does _ rfl], rfl⟩

/-- The passing of time is a course of firings and of changes of the world. -/
theorem exists_occurs_of_run (s : Sitting) (operations : List Operation) :
    ∃ occurrences, s.run operations = s.occurs occurrences := by
  induction operations generalizing s with
  | nil => exact ⟨[], rfl⟩
  | cons operation operations ih =>
    obtain ⟨first, stepped⟩ := s.exists_occurs_of_step operation
    obtain ⟨rest, ran⟩ := ih (s.step operation)
    refine ⟨first ++ rest, ?_⟩
    rw [occurs_append, ← stepped]
    exact ran

/-! ## Entering, leaving and applying -/

/-- The scene that is entered, if one is and that does not fail. -/
def entered? (s : Sitting) : Occurrence → Option PresentedScene
  | .does (.begin opening) _ => (result opening.turn s).toOption
  | .does (.choose id) _ => (result (Turn.makeChoice id) s).toOption.bind ChoiceOutcome.scene
  | .does (.navigate id) _ => (result (Turn.navigate id) s).toOption
  | _ => none

/-- A scene is entered that has effects which are to wait.  Those of a scene that is shown again
when its game is loaded are not repeated. -/
def Arms (s : Sitting) (o : Occurrence) (bundle : DelayedEffect) : Prop :=
  (∀ slot instant, o ≠ .does (.begin (.savedGame slot)) instant) ∧
    ∃ presented, s.entered? o = some presented ∧ presented.scene.timeEffects = some bundle

/-- A scene is entered, be it the same again, the engine is shut down, or the game ends. -/
def Leaves (s : Sitting) (o : Occurrence) : Prop :=
  (∃ presented, s.entered? o = some presented) ∨ (∃ instant, o = .does .shutdown instant) ∨
    s.engine.status ≠ .ended ∧ (s.occur o).engine.status = .ended

/-- A bundle that waits is taken up when the timer is fired. -/
def Applies (s : Sitting) (timer : Timer) (bundle : DelayedEffect) : Prop :=
  s.engine.delayed = some bundle ∧ (s.fire timer).engine.delayed = none

/-- The scene is not left, and nothing is applied. -/
def Undisturbed (s : Sitting) (o : Occurrence) : Prop :=
  ¬ s.Leaves o ∧ ∀ timer bundle, o = .fires timer → ¬ s.Applies timer bundle

end Sitting

/-- What becomes of effects that have waited; a fault of the game is reported. -/
def Turn.takeUp (effect : Effect) : Turn Unit :=
  tryCatch
    (do
      let _ ← onStage effect.process
      checkAchievements)
    fun fault => do
      if fault.isOfGame then report "scene_time_effects" fault

theorem Engine.delayed_fired (engine : Engine) (timer : Timer) (elapsed : Float) :
    (engine.fired timer elapsed).delayed =
      if timer.kind = .delayedEffects ∧ engine.status = .running then none else engine.delayed := by
  unfold fired
  cases timer.kind with
  | playtime => rfl
  | autosave => exact (engine.dropTimer timer).delayed_startAutosave elapsed
  | delayedEffects =>
    by_cases running : engine.status = .running
    · simp [running]
    · simp [running, dropTimer]

namespace Sitting

variable {s : Sitting} {timer : Timer} {bundle : DelayedEffect}

theorem delayed_fire (s : Sitting) (timer : Timer) : (s.fire timer).engine.delayed =
    if timer.kind = .delayedEffects ∧ s.engine.status = .running then none
    else s.engine.delayed := by
  obtain ⟨elapsed, frame⟩ := Turn.frame_of_fire timer s
  have same : (s.fire timer).engine.delayed = (s.engine.fired timer elapsed).delayed :=
    (congrArg (fun frame : Scenery × Option Settings => frame.1.1.delayed) frame :)
  rw [same, Engine.delayed_fired]

/-- What waits is taken up only while the game runs. -/
theorem applies_iff : s.Applies timer bundle ↔ timer.kind = .delayedEffects ∧
    s.engine.status = .running ∧ s.engine.delayed = some bundle := by
  unfold Applies
  rw [delayed_fire]
  constructor
  · rintro ⟨waits, gone⟩
    split at gone
    · rename_i both
      exact ⟨both.1, both.2, waits⟩
    · rw [waits] at gone
      cases gone
  · rintro ⟨kind, running, waits⟩
    exact ⟨waits, if_pos ⟨kind, running⟩⟩

theorem fire_of_applies (applies : s.Applies timer bundle) :
    s.fire timer = after (Turn.takeUp bundle.effect)
      (s.withEngine { s.engine.dropTimer timer with delayed := none }) := by
  obtain ⟨kind, running, waits⟩ := applies_iff.1 applies
  have isRunning : (s.engine.dropTimer timer).status = .running := running
  have isWaiting : (s.engine.dropTimer timer).delayed = some bundle := waits
  unfold fire Turn.fire Turn.applyDelayed
  rw [after, outcome_bind_of_ok (Turn.outcome_modifyEngine _ _), kind]
  dsimp only
  rw [outcome_bind_of_ok (Turn.outcome_engine _)]
  dsimp only
  rw [isWaiting]
  dsimp only
  rw [if_pos isRunning, outcome_bind_of_ok (Turn.outcome_modifyEngine _ _)]
  rfl

/-- A timer of delayed effects that takes up nothing changes nothing but that it was set. -/
theorem fire_of_not_applies (kind : timer.kind = .delayedEffects)
    (never : ∀ bundle, ¬ s.Applies timer bundle) :
    s.fire timer = s.withEngine (s.engine.dropTimer timer) := by
  unfold fire Turn.fire Turn.applyDelayed
  rw [after, outcome_bind_of_ok (Turn.outcome_modifyEngine _ _), kind]
  dsimp only
  rw [outcome_bind_of_ok (Turn.outcome_engine _)]
  dsimp only
  have same : (s.engine.dropTimer timer).delayed = s.engine.delayed := rfl
  cases waiting : s.engine.delayed with
  | none =>
    rw [same, waiting]
    rfl
  | some bundle =>
    have idle : (s.engine.dropTimer timer).status ≠ .running := fun running =>
      never bundle (applies_iff.2 ⟨kind, running, waiting⟩)
    rw [same, waiting]
    dsimp only
    rw [if_neg idle]
    rfl

end Sitting

/-! ## What a game in progress awaits -/

/-- A game is in progress in which the bundle waits. -/
structure Awaits (scenery : Scenery) (bundle : DelayedEffect) : Prop where
  inProgress : scenery.1.status = .running ∨ scenery.1.status = .paused
  waits : scenery.1.delayed = some bundle

theorem not_awaits {scenery : Scenery} {bundle : DelayedEffect}
    (running : scenery.1.status ≠ .running) (paused : scenery.1.status ≠ .paused) :
    ¬ Awaits scenery bundle := by
  rintro ⟨runs | pauses, -⟩
  · exact running runs
  · exact paused pauses

theorem Entry.delayed {id : Document} {mode : Turn.EntryMode} {before after : Scenery}
    {presented : PresentedScene} (entry : Entry id mode before (.ok presented) after) :
    after.1.delayed = mode.delayed presented := by
  cases entry with
  | arrived _ now elapsed presents =>
    exact Engine.delayed_arm _ elapsed

/-- What is awaited after an entry was made to wait by it, or the entry failed and the scene from
before was not left. -/
theorem Entry.awaits {id : Document} {mode : Turn.EntryMode} {before after : Scenery}
    {r : Except Fault PresentedScene} (entry : Entry id mode before r after)
    {bundle : DelayedEffect} (h : Awaits after bundle) :
    (∃ presented, r = .ok presented ∧ mode.delayed presented = some bundle) ∨
      (∃ fault, r = .error fault) ∧ Awaits before bundle := by
  cases r with
  | ok presented => exact .inl ⟨presented, rfl, entry.delayed.symm.trans h.waits⟩
  | error fault =>
    refine .inr ⟨⟨fault, rfl⟩, ?_⟩
    cases entry with
    | turnedAway => exact h
    | stranded => cases h.waits
    | unsettled _ presented now presents => cases h.waits

namespace Sitting

variable {s t : Sitting} {bundle : DelayedEffect}

theorem awaits_begun (h : Awaits s.begun.scenery bundle) : s.engine.delayed = some bundle :=
  s.delayed_begun.symm.trans h.waits

theorem not_awaits_shutdown (s : Sitting) (bundle : DelayedEffect) :
    ¬ Awaits (s.step .shutdown).scenery bundle := by
  intro awaits
  rw [s.scenery_of_shutdown] at awaits
  cases awaits.waits

/-- Operations that enter no scene make nothing wait that did not wait before. -/
theorem awaits_of_isStill {operation : Operation} (still : operation.isStill = true)
    (instant : operation.isInstant = true) (h : Awaits (s.step operation).scenery bundle) :
    Awaits s.scenery bundle := by
  have like : ∀ {t : Sitting}, (s.step operation).frame = t.frame → Awaits t.scenery bundle := by
    intro t same
    have scenery : (s.step operation).scenery = t.scenery := congrArg Prod.fst same
    exact scenery ▸ h
  cases operation with
  | wake =>
    rcases s.frame_of_wake with kept | ⟨-, woken⟩
    · exact like kept
    · refine absurd (like woken) (not_awaits ?_ ?_)
      · exact fun running => by cases running
      · exact fun paused => by cases paused
  | pause =>
    rcases s.frame_of_pause with kept | ⟨running, halted⟩
    · exact like kept
    · exact ⟨.inl running, (like halted).waits⟩
  | resume =>
    rcases s.frame_of_resume with kept | ⟨paused, begun⟩
    · exact like kept
    · exact ⟨.inr paused, awaits_begun (like begun)⟩
  | updateSettings changes =>
    rcases s.frame_of_updateSettings changes with kept | changed
    · exact like kept
    · split at changed
      · rename_i restarts
        have waits : (s.adjusted changes).stopped.engine.delayed = some bundle :=
          awaits_begun (like changed)
        exact ⟨.inl restarts.1, waits⟩
      · exact ⟨(like changed).inProgress, (like changed).waits⟩
  | pass seconds => cases instant
  | useItem | interact | applyBundle | autosave | manualSave | listSlots | outside =>
    exact like (s.step_of_isQuiet rfl)
  | begin _ | shutdown | choose _ | navigate _ => cases still

theorem undisturbed_of_awaits {o : Occurrence} (h : Awaits (s.occur o).scenery bundle)
    (enters : s.entered? o = none)
    (applies : ∀ timer other, o = .fires timer → ¬ s.Applies timer other) : s.Undisturbed o := by
  refine ⟨?_, applies⟩
  rintro (⟨presented, entered⟩ | ⟨instant, rfl⟩ | ⟨-, ended⟩)
  · rw [enters] at entered
    cases entered
  · exact not_awaits_shutdown s bundle h
  · refine not_awaits (fun running => ?_) (fun paused => ?_) h
    · cases ended.symm.trans running
    · cases ended.symm.trans paused

theorem awaits_fire {timer : Timer} (h : Awaits (s.fire timer).scenery bundle) :
    Awaits s.scenery bundle ∧ ∀ other, ¬ s.Applies timer other := by
  have waits : (s.fire timer).engine.delayed = some bundle := h.waits
  have inProgress : (s.fire timer).engine.status = .running ∨
      (s.fire timer).engine.status = .paused := h.inProgress
  rw [status_fire] at inProgress
  refine ⟨⟨inProgress, ?_⟩, fun other applies => ?_⟩
  · rw [delayed_fire] at waits
    split at waits
    · cases waits
    · exact waits
  · rw [applies.2] at waits
    cases waits

end Sitting

theorem Choosing.awaits {id : Document} {s : Sitting} {r : Except Fault ChoiceOutcome}
    {after : Scenery} (choosing : Choosing id s r after) {bundle : DelayedEffect}
    (h : Awaits after bundle) :
    (∃ made presented, r = .ok made ∧ made.scene = some presented ∧
      presented.scene.timeEffects = some bundle) ∨
      (∃ fault, r = .error fault) ∧ Awaits s.scenery bundle := by
  cases choosing with
  | refused fault => exact .inr ⟨⟨fault, rfl⟩, h⟩
  | ended r running leaves =>
    exact absurd h (not_awaits (fun running => by cases running) fun paused => by cases paused)
  | led made running committed truthy entry leads =>
    exact .inl ⟨made, _, rfl, leads, entry.delayed.symm.trans h.waits⟩
  | failed fault running committed truthy entry =>
    rcases entry.awaits h with ⟨presented, shown, -⟩ | ⟨-, waits⟩
    · cases shown
    · exact .inr ⟨⟨fault, rfl⟩, waits⟩
  | putBack fault running committed truthy entry =>
    rcases entry.awaits ⟨h.inProgress, h.waits⟩ with ⟨presented, shown, -⟩ | ⟨-, waits⟩
    · cases shown
    · exact .inr ⟨⟨fault, rfl⟩, waits⟩

theorem Starting.awaits {opening : Opening} {s t : Sitting} {r : Except Fault PresentedScene}
    (starting : Starting opening s r t) {bundle : DelayedEffect} (h : Awaits t.scenery bundle) :
    (∃ presented, r = .ok presented ∧ opening.mode.delayed presented = some bundle) ∨
      (∃ fault, r = .error fault) ∧ Awaits s.scenery bundle := by
  cases starting with
  | refused fault asleep kept =>
    rw [kept] at h
    exact .inr ⟨⟨fault, rfl⟩, h⟩
  | notFound fault missing kept =>
    rw [kept] at h
    exact .inr ⟨⟨fault, rfl⟩, h.inProgress, h.waits⟩
  | failed fault found entry =>
    rcases entry.awaits h with ⟨presented, shown, -⟩ | ⟨-, waits⟩
    · cases shown
    · exact .inr ⟨⟨fault, rfl⟩, waits.inProgress, waits.waits⟩
  | @started _ u state presented event found entry =>
    have waits : u.scenery.1.delayed = some bundle := Sitting.awaits_begun h
    exact .inl ⟨presented, rfl, entry.delayed.symm.trans waits⟩

/-! ## Courses of occurrences -/

namespace Sitting

variable {s : Sitting} {bundle : DelayedEffect}

/-- What one occurrence does: what is awaited after it is made to wait by it, or was awaited before
and is left undisturbed. -/
theorem awaits_of_occur {o : Occurrence} (h : Awaits (s.occur o).scenery bundle) :
    s.Arms o bundle ∨ Awaits s.scenery bundle ∧ s.Undisturbed o := by
  cases o with
  | fires timer =>
    obtain ⟨waits, never⟩ := awaits_fire h
    refine .inr ⟨waits, undisturbed_of_awaits h rfl fun other bundle same => ?_⟩
    cases same
    exact never bundle
  | does operation instant =>
    have calm : s.entered? (.does operation instant) = none →
        s.Undisturbed (.does operation instant) :=
      fun enters => undisturbed_of_awaits h enters fun timer other same => by cases same
    cases operation with
    | begin opening =>
      rcases (s.starting_step opening).awaits h with
        ⟨presented, shown, waits⟩ | ⟨⟨fault, failed⟩, waits⟩
      · have entered : s.entered? (.does (.begin opening) instant) = some presented := by
          rw [entered?, shown]
          rfl
        cases opening with
        | newGame story player =>
          refine .inl ⟨fun slot instant same => ?_, presented, entered, waits⟩
          cases same
        | savedGame slot => cases waits
      · refine .inr ⟨waits, calm ?_⟩
        rw [entered?, failed]
        rfl
    | choose id =>
      rcases (s.choosing_step id).awaits h with
        ⟨made, presented, shown, leads, waits⟩ | ⟨⟨fault, failed⟩, waits⟩
      · refine .inl ⟨fun slot instant same => ?_, presented, ?_, waits⟩
        · cases same
        · rw [entered?, shown]
          exact leads
      · refine .inr ⟨waits, calm ?_⟩
        rw [entered?, failed]
        rfl
    | navigate id =>
      rcases (s.entry_step id).1.awaits h with
        ⟨presented, shown, waits⟩ | ⟨⟨fault, failed⟩, waits⟩
      · refine .inl ⟨fun slot instant same => ?_, presented, ?_, waits⟩
        · cases same
        · rw [entered?, shown]
          rfl
      · refine .inr ⟨waits, calm ?_⟩
        rw [entered?, failed]
        rfl
    | shutdown => exact absurd h (not_awaits_shutdown s bundle)
    | wake | pause | resume | useItem | interact | updateSettings | applyBundle | autosave
    | manualSave | listSlots | pass | outside =>
      exact .inr ⟨awaits_of_isStill rfl instant h, calm rfl⟩

/-- The bundle waits because of the entry, after which the scene was not left and nothing was
applied. -/
structure Owed (start : Sitting) (earlier : List Occurrence) (entry : Occurrence)
    (since : List Occurrence) (bundle : DelayedEffect) : Prop where
  arms : (start.occurs earlier).Arms entry bundle
  undisturbed : ∀ mid o, mid ++ [o] <+: since →
    (start.occurs (earlier ++ entry :: mid)).Undisturbed o

/-- What is awaited at any point of a course is owed to an entry before it. -/
def Owes (start : Sitting) (past : List Occurrence) : Prop :=
  ∀ bundle, Awaits (start.occurs past).scenery bundle →
    ∃ earlier entry since, past = earlier ++ entry :: since ∧ start.Owed earlier entry since bundle

theorem owes_occur {start : Sitting} {past : List Occurrence} (h : start.Owes past)
    (o : Occurrence) : start.Owes (past ++ [o]) := by
  intro bundle awaits
  rw [occurs_append] at awaits
  rcases awaits_of_occur awaits with arms | ⟨waits, calm⟩
  · refine ⟨past, o, [], rfl, arms, fun mid other among => ?_⟩
    have impossible := List.prefix_nil.1 among
    simp at impossible
  · obtain ⟨earlier, entry, since, rfl, arms, undisturbed⟩ := h bundle waits
    refine ⟨earlier, entry, since ++ [o], by simp, arms, fun mid other among => ?_⟩
    rcases List.prefix_concat_iff.1 among with same | among
    · obtain ⟨rfl, isLast⟩ := List.append_inj' same rfl
      cases isLast
      exact calm
    · exact undisturbed mid other among

theorem owes_occurs {start : Sitting} {past : List Occurrence} (h : start.Owes past)
    (future : List Occurrence) : start.Owes (past ++ future) := by
  -- On the future, for every past: its first occurrence becomes the last of the past.
  induction future generalizing past with
  | nil =>
    rw [List.append_nil]
    exact h
  | cons o future ih =>
    have stepped := ih (owes_occur h o)
    rw [List.append_assoc] at stepped
    exact stepped

theorem not_arms_fires (s : Sitting) (timer : Timer) (bundle : DelayedEffect) :
    ¬ s.Arms (.fires timer) bundle := by
  rintro ⟨-, presented, entered, -⟩
  cases entered

/-- Between what is applied twice lies an entry that makes wait what is applied the second time. -/
theorem armed_between {start : Sitting} {before between earlier since : List Occurrence}
    {timer : Timer} {first bundle : DelayedEffect} {entry : Occurrence}
    (applies : (start.occurs before).Applies timer first)
    (owed : start.Owed earlier entry since bundle)
    (same : before ++ .fires timer :: between = earlier ++ entry :: since) :
    ∃ middle rest, between = middle ++ entry :: rest ∧
      (start.occurs (before ++ .fires timer :: middle)).Arms entry bundle := by
  -- Either the entry comes after the earlier application, or that application disturbs it.
  rcases List.append_eq_append_iff.1 same with ⟨later, rfl, tail⟩ | ⟨later, rfl, tail⟩
  · cases later with
    | nil =>
      obtain ⟨rfl, -⟩ := List.cons.inj tail
      exact absurd owed.arms (not_arms_fires _ timer bundle)
    | cons other later =>
      obtain ⟨rfl, isBetween⟩ := List.cons.inj tail
      exact ⟨later, since, isBetween, owed.arms⟩
  · cases later with
    | nil =>
      obtain ⟨rfl, -⟩ := List.cons.inj tail
      exact absurd owed.arms (not_arms_fires _ timer bundle)
    | cons other later =>
      obtain ⟨rfl, rfl⟩ := List.cons.inj tail
      have among : later ++ [.fires timer] <+: later ++ .fires timer :: between := by simp
      exact absurd applies ((owed.undisturbed later _ among).2 timer first rfl)

/-- What there is to say of a bundle that a timer applies after what has happened. -/
structure Due (start : Sitting) (past : List Occurrence) (timer : Timer) (bundle : DelayedEffect) :
    Prop where
  running : (start.occurs past).engine.status = .running
  takenUp : (start.occurs past).fire timer = after (Turn.takeUp bundle.effect)
    ((start.occurs past).withEngine
      { (start.occurs past).engine.dropTimer timer with delayed := none })
  owed : ∃ earlier entry since, past = earlier ++ entry :: since ∧
    start.Owed earlier entry since bundle
  /-- Since any earlier application another entry has made the bundle wait. -/
  armed : ∀ before other first between, past = before ++ .fires other :: between →
    (start.occurs before).Applies other first → ∃ middle entry rest,
      between = middle ++ entry :: rest ∧
      (start.occurs (before ++ .fires other :: middle)).Arms entry bundle

theorem due_of_applies {start : Sitting} {past : List Occurrence} (owes : start.Owes past)
    {timer : Timer} {bundle : DelayedEffect} (applies : (start.occurs past).Applies timer bundle) :
    start.Due past timer bundle := by
  obtain ⟨-, running, waits⟩ := applies_iff.1 applies
  obtain ⟨earlier, entry, since, isPast, owed⟩ := owes bundle ⟨.inl running, waits⟩
  refine ⟨running, fire_of_applies applies, ⟨earlier, entry, since, isPast, owed⟩, ?_⟩
  intro before other first between split applied
  obtain ⟨middle, rest, isBetween, arms⟩ := armed_between applied owed (split.symm.trans isPast)
  exact ⟨middle, entry, rest, isBetween, arms⟩

end Sitting

/-- Whatever is done with an engine and whichever timers are fired in between, a bundle that waits
is applied only while the game runs, and it is owed to an entry since which nobody left the scene and
nothing was applied; what is applied a second time was made to wait by another entry.  A timer that
applies nothing leaves everything else as it is. -/
theorem delayed_effects_apply_once (world : World) (content : Repository) (config : EngineConfig)
    (audio : AudioSink) :
    let start := Sitting.fresh world content config audio
    (∀ operations, ∃ occurrences, start.run operations = start.occurs occurrences) ∧
    ∀ past timer, let s := start.occurs past
      (∀ bundle, s.Applies timer bundle → start.Due past timer bundle) ∧
      (timer.kind = .delayedEffects → (∀ bundle, ¬ s.Applies timer bundle) →
        s.fire timer = s.withEngine (s.engine.dropTimer timer)) := by
  intro start
  have fresh : start.Owes [] := fun bundle awaits =>
    absurd awaits (not_awaits (fun running => by cases running) fun paused => by cases paused)
  refine ⟨start.exists_occurs_of_run, fun past timer => ⟨?_, Sitting.fire_of_not_applies⟩⟩
  exact fun bundle applies => Sitting.due_of_applies (Sitting.owes_occurs fresh past) applies

namespace Harbour

def arrival : List Occurrence :=
  [.does .wake rfl, .does (.begin (.newGame "ferry" "Ada")) rfl]

def rest : List Occurrence :=
  [.does .pause rfl, .does .resume rfl]

/-- What is paid to those who wait on the pier. -/
def wage : DelayedEffect :=
  { effect := { gold := some 1 }, delay := 5.0 }

def payday : Timer :=
  ⟨.delayedEffects, 5.0⟩

def offshore : Sitting :=
  Sitting.fresh { now := 1000000.0 } library {} {}

end Harbour

open Harbour in
theorem wage_paid_once_however_often_paused :
    (offshore.occurs (arrival ++ rest)).Applies payday wage ∧
      (offshore.occurs (arrival ++ rest)).engine.status = .running ∧
      ∀ timer bundle,
        ¬ (offshore.occurs (arrival ++ rest ++ .fires payday :: rest)).Applies timer bundle := by
  have applies : (offshore.occurs (arrival ++ rest)).Applies payday wage := by
    constructor <;> decide +kernel
  unfold offshore at applies ⊢
  obtain ⟨-, always⟩ := delayed_effects_apply_once { now := 1000000.0 } library {} {}
  refine ⟨applies, ((always (arrival ++ rest) payday).1 wage applies).running, ?_⟩
  intro timer bundle again
  obtain ⟨middle, entry, later, split, -, presented, entered, -⟩ :=
    ((always _ timer).1 bundle again).armed (arrival ++ rest) payday wage rest rfl applies
  have among : entry ∈ rest := by simp [split]
  simp only [rest, List.mem_cons, List.not_mem_nil, or_false] at among
  rcases among with rfl | rfl <;> cases entered

end InteractiveFiction
