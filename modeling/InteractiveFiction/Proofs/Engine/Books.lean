import InteractiveFiction.Proofs.Effect.Heedless
import InteractiveFiction.Proofs.Engine.Route
import InteractiveFiction.Proofs.Engine.Timing

/-!
Engines whose games differ in their books.

* `Engine.steady`: the timers of play, which are all but the one that saves.
* `Sitting.Akin`: sittings whose games differ in their books at most, with the same timers of play,
  whatever was saved and announced.
* `Bookless turn`: on such sittings the turn gives the same, and leaves such sittings.
* `Turn.Abreast`: they are left akin, whatever is answered.

A game that saves itself leaves the sitting akin to what it was (`saveByItself_akin`).  The save of
a player leaves akin what was akin, though the stores may answer differently (`save_abreast`).
-/

set_option autoImplicit false

namespace InteractiveFiction

open Course

/-! ## Timers of play -/

def Timer.isSteady (timer : Timer) : Bool :=
  timer.kind ≠ .autosave

def steadyOf (timers : List Timer) : List Timer :=
  timers.filter Timer.isSteady

def Engine.steady (engine : Engine) : List Timer :=
  steadyOf engine.timers

theorem steadyOf_erase (timers : List Timer) (timer : Timer) :
    steadyOf (timers.erase timer) = (steadyOf timers).erase timer :=
  (List.erase_filter ..).symm

theorem steadyOf_append (timers others : List Timer) :
    steadyOf (timers ++ others) = steadyOf timers ++ steadyOf others :=
  List.filter_append ..

/-! ## Sittings -/

/-- The engine with other books, timers and events. -/
abbrev Engine.rebooked (engine : Engine) (books : Books) (timers : List Timer)
    (published : List EventRecord) : Engine :=
  { engine with state := engine.state.map fun state => state.booked books, timers, published }

theorem Engine.rebooked_rebooked (engine : Engine) (books others : Books)
    (timers timers' : List Timer) (published published' : List EventRecord) :
    (engine.rebooked books timers published).rebooked others timers' published' =
      engine.rebooked others timers' published' := by
  simp [Option.map_map, Function.comp_def]

section

variable {engine : Engine} {state : GameState} (books : Books) (timers : List Timer)
  (published : List EventRecord)

theorem Engine.rebooked_of_none (nothing : engine.state = none) :
    (engine.rebooked books timers published).state = none := by
  rw [rebooked, nothing]
  rfl

theorem Engine.rebooked_of_some (playing : engine.state = some state) :
    (engine.rebooked books timers published).state = some (state.booked books) := by
  rw [rebooked, playing]
  rfl

end

/-- An engine with books of its own, whatever its timers and events are. -/
theorem Engine.exists_rebooked (engine : Engine) : ∃ books, ∀ timers published,
    { engine with timers, published } = engine.rebooked books timers published := by
  have own : ∃ books, engine.state = engine.state.map fun state => state.booked books := by
    cases engine.state with
    | none => exact ⟨⟨.null, .null, .null, .null⟩, rfl⟩
    | some state => exact ⟨state.books, rfl⟩
  obtain ⟨books, same⟩ := own
  refine ⟨books, fun timers published => ?_⟩
  rw [Engine.rebooked, ← same]

inductive Sitting.Akin : Sitting → Sitting → Prop where
  | intro {world : World} {engine : Engine} {store : SaveStore} {books : Books}
      {timers : List Timer} {published : List EventRecord}
      (faults : store.savingFault = world.store.savingFault)
      (steady : (steadyOf timers).Perm engine.steady) :
      Akin ⟨world, engine⟩ ⟨{ world with store }, engine.rebooked books timers published⟩

namespace Sitting.Akin

variable {s t u : Sitting}

/-- Two sittings are akin if their parts are. -/
theorem of_parts (world : t.world = { s.world with store := t.world.store })
    (faults : t.world.store.savingFault = s.world.store.savingFault) (books : Books)
    (engine : t.engine = s.engine.rebooked books t.engine.timers t.engine.published)
    (steady : t.engine.steady.Perm s.engine.steady) : s.Akin t := by
  obtain ⟨world', engine'⟩ := t
  dsimp only at world engine
  rw [world, engine]
  exact .intro faults steady

theorem refl (s : Sitting) : s.Akin s := by
  obtain ⟨books, own⟩ := s.engine.exists_rebooked
  exact .of_parts rfl rfl books (own _ _) (.refl _)

theorem symm (h : s.Akin t) : t.Akin s := by
  cases h with
  | @intro world engine store books timers published faults steady =>
    obtain ⟨own, same⟩ := engine.exists_rebooked
    refine .of_parts rfl faults.symm own ?_ steady.symm
    rw [Engine.rebooked_rebooked]
    exact same _ _

theorem trans (h : s.Akin t) (h' : t.Akin u) : s.Akin u := by
  cases h with
  | intro faults steady =>
    cases h' with
    | @intro _ _ _ books _ _ faults' steady' =>
      refine .of_parts rfl (faults'.trans faults) books ?_ (steady'.trans steady)
      rw [Engine.rebooked_rebooked]

theorem steady (h : s.Akin t) : t.engine.steady.Perm s.engine.steady := by
  cases h with
  | intro _ steady => exact steady

instance : Std.Refl Sitting.Akin := ⟨refl⟩

instance : Trans Sitting.Akin Sitting.Akin Sitting.Akin := ⟨trans⟩

end Sitting.Akin

/-! ## Changes of an engine -/

namespace Engine

/-- A change of an engine that does the same whatever its books say. -/
def Bookless (change : Engine → Engine) : Prop :=
  ∀ (e : Engine) books timers published, (steadyOf timers).Perm e.steady →
    ∃ others left,
      change (e.rebooked books timers published) = (change e).rebooked others left published ∧
        (steadyOf left).Perm (change e).steady

namespace Bookless

variable {change next : Engine → Engine}

theorem comp (first : Bookless change) (second : Bookless next) :
    Bookless fun e => next (change e) := by
  intro e books timers published steady
  obtain ⟨others, timers', changed, steady'⟩ := first e books timers published steady
  dsimp only
  rw [changed]
  exact second _ _ _ _ steady'

/-- A change that has nothing to do with books, timers and events. -/
theorem of_commutes (h : ∀ (e : Engine) books timers published,
      change (e.rebooked books timers published) = (change e).rebooked books timers published) :
    Bookless change := by
  intro e books timers published steady
  obtain ⟨own, same⟩ := e.exists_rebooked
  -- An engine is itself with its own books, so the change cannot set its timers.
  have kept : change e = (change e).rebooked own e.timers e.published :=
    (congrArg change (same e.timers e.published)).trans (h e own e.timers e.published)
  have timers' : (change e).timers = e.timers := (congrArg Engine.timers kept :)
  refine ⟨books, timers, h _ _ _ _, ?_⟩
  rw [Engine.steady, timers']
  exact steady

/-- A change of no timers but those that save. -/
theorem of_saving
    (h : ∀ e, ∃ left, change e = { e with timers := left } ∧ steadyOf left = e.steady) :
    Bookless change := by
  intro e books timers published steady
  obtain ⟨own, changed, same⟩ := h e
  obtain ⟨left, changed', same'⟩ := h (e.rebooked books timers published)
  rw [changed, changed']
  refine ⟨books, left, rfl, ?_⟩
  change (steadyOf left).Perm (steadyOf own)
  rw [same, same']
  exact steady

end Bookless

variable (elapsed : Float)

theorem bookless_stopTimers : Bookless stopTimers :=
  fun _ books _ _ _ => ⟨books, [], rfl, .refl _⟩

theorem bookless_dropTimer (timer : Timer) : Bookless fun e => e.dropTimer timer := by
  intro e books timers published steady
  refine ⟨books, timers.erase timer, rfl, ?_⟩
  change (steadyOf (timers.erase timer)).Perm (steadyOf (e.timers.erase timer))
  rw [steadyOf_erase, steadyOf_erase]
  exact steady.erase timer

theorem bookless_forgetDelayed : Bookless forgetDelayed := by
  intro e books timers published steady
  let stays : Timer → Bool := fun timer => timer.kind ≠ .delayedEffects
  refine ⟨books, timers.filter stays, rfl, ?_⟩
  change (steadyOf (timers.filter stays)).Perm (steadyOf (e.timers.filter stays))
  have commutes (all : List Timer) : steadyOf (all.filter stays) = (steadyOf all).filter stays := by
    rw [steadyOf, steadyOf, List.filter_comm]
  rw [commutes, commutes]
  exact steady.filter stays

/-- A game that is put in the place of another brings its books. -/
theorem bookless_replace (state : GameState) :
    Bookless fun e => { e with state := some state }.resetScene :=
  fun _ _ timers _ steady => ⟨state.books, timers, rfl, steady⟩

theorem steadyOf_withTimer {e : Engine} {timers : List Timer}
    (steady : (steadyOf timers).Perm e.steady) (kind : TimerKind) (due : Float) :
    (steadyOf (timers ++ [⟨kind, due⟩])).Perm (e.withTimer kind due).steady := by
  change List.Perm _ (steadyOf (e.timers ++ [⟨kind, due⟩]))
  rw [steadyOf_append, steadyOf_append]
  exact steady.append_right _

theorem bookless_startPlaytime : Bookless fun e => e.startPlaytime elapsed := by
  intro e books timers published steady
  exact ⟨books, _, rfl, steadyOf_withTimer steady _ _⟩

theorem steadyOf_startAutosave (e : Engine) : ∃ left,
    e.startAutosave elapsed = { e with timers := left } ∧ steadyOf left = e.steady := by
  unfold startAutosave
  cases e.state.bind autosaveInterval? with
  | none => exact ⟨e.timers, rfl, rfl⟩
  | some seconds =>
    refine ⟨e.timers ++ [⟨.autosave, elapsed + seconds⟩], rfl, ?_⟩
    rw [steadyOf_append]
    exact List.append_nil _

/-- Whether effects wait does not depend on timers that save. -/
theorem isArmed_eq (e : Engine) :
    e.isArmed = e.steady.any fun timer => timer.kind = .delayedEffects := by
  rw [Engine.isArmed, Engine.steady, steadyOf, List.any_filter]
  refine List.any_congr rfl fun timer => ?_
  unfold Timer.isSteady
  cases timer.kind <;> rfl

theorem bookless_arm : Bookless fun e => e.arm elapsed := by
  intro e books timers published steady
  have armed : (e.rebooked books timers published).isArmed = e.isArmed := by
    rw [isArmed_eq, isArmed_eq]
    exact steady.any_eq
  unfold arm
  dsimp only
  rw [armed]
  cases e.delayed with
  | none => exact ⟨books, timers, rfl, steady⟩
  | some delayed =>
    dsimp only
    split
    · exact ⟨books, timers, rfl, steady⟩
    · exact ⟨books, _, rfl, steadyOf_withTimer steady _ _⟩

theorem steadyOf_savingItself (e : Engine) : ∃ left,
    e.savingItself elapsed = { e with timers := left } ∧ steadyOf left = e.steady := by
  unfold savingItself
  split
  · exact e.steadyOf_startAutosave elapsed
  · exact ⟨e.timers, rfl, rfl⟩

theorem bookless_startTimers : Bookless fun e => e.startTimers elapsed := by
  have saving : Bookless fun e => e.savingItself elapsed :=
    .of_saving (steadyOf_savingItself elapsed)
  exact (bookless_startPlaytime elapsed).comp (saving.comp (bookless_arm elapsed))

end Engine

/-! ## Stores -/

theorem SaveStore.savingFault_saveAs (store : SaveStore) (slot : SaveSlot) (state : GameState) :
    (store.saveAs slot state).2.savingFault = store.savingFault := by
  unfold saveAs
  split <;> rfl

/-- A store issues an identity for each save of a player, unless it is broken. -/
def SaveStore.issues (store : SaveStore) (autosave : Bool) (issued : Nat) : Nat :=
  if store.savingFault.isSome || autosave then issued else issued + 1

theorem SaveStore.save_leaves (store : SaveStore) (now : Instant) (issued : Nat)
    (state : GameState) (name : Document) (autosave : Bool) :
    (store.save now issued state name autosave).2.1 = store.issues autosave issued ∧
      (store.save now issued state name autosave).2.2.savingFault = store.savingFault := by
  unfold save issues
  cases broken : store.savingFault with
  | some fault => exact ⟨rfl, broken⟩
  | none =>
    cases autosave with
    | true => exact ⟨rfl, (store.savingFault_saveAs _ _).trans broken⟩
    | false => exact ⟨rfl, (store.savingFault_saveAs _ _).trans broken⟩

/-- A turn that does the same whatever the books of the game say. -/
abbrev Bookless {α : Type} (turn : Turn α) : Prop :=
  Tracks Sitting.Akin turn turn

namespace Turn

variable {α β : Type}

/-! ## Reading -/

/-- What looks at the engine, but not at its books, timers and events. -/
theorem engine_akin {val : α → β → Prop} {f : Engine → Turn α} {f' : Engine → Turn β}
    (impartial : ∀ (e : Engine) books timers published,
      f' (e.rebooked books timers published) = f' e)
    (h : ∀ e, Matches Sitting.Akin val (f e) (f' e)) :
    Matches Sitting.Akin val (engine >>= f) (engine >>= f') := by
  refine .get fun s t akin => ?_
  cases akin with
  | intro faults steady =>
    dsimp only
    rw [impartial]
    exact h _

theorem bookless_engine {f : Engine → Turn α}
    (impartial : ∀ (e : Engine) books timers published,
      f (e.rebooked books timers published) = f e)
    (h : ∀ e, Bookless (f e)) : Bookless (engine >>= f) :=
  .of_matching (engine_akin impartial fun e => (h e).matching)

/-- What looks at the world, but not at what is stored. -/
theorem bookless_world {f : World → Turn α}
    (impartial : ∀ (world : World) store, f { world with store } = f world)
    (h : ∀ world, Bookless (f world)) : Bookless (world >>= f) := by
  refine .get fun s t akin => ?_
  cases akin with
  | @intro world _ store _ _ _ faults steady =>
    have same := impartial world store
    dsimp only
    rw [same]
    exact h world

theorem bookless_now : Bookless now :=
  bookless_world (fun _ _ => rfl) fun _ => .pure _

theorem bookless_lift (r : Result α) : Bookless (liftM r : Turn α) :=
  .intro fun s t akin => ⟨r, s, t, outcome_lift r s, outcome_lift r t, akin⟩

theorem state_akin :
    Matches Sitting.Akin (fun state other => ∃ books, other = GameState.booked state books)
      Turn.state Turn.state := by
  intro s t akin
  rw [result, after, result, after, outcome_state, outcome_state]
  refine ⟨?_, akin⟩
  cases akin with
  | @intro world engine store books timers published faults steady =>
    dsimp only [Engine.rebooked]
    cases engine.state with
    | none => exact .error _
    | some state => exact .ok ⟨books, rfl⟩

/-- What looks at the game, but not at its books. -/
theorem bookless_state {f : GameState → Turn α}
    (impartial : ∀ state books, f (GameState.booked state books) = f state)
    (h : ∀ state, Bookless (f state)) : Bookless (state >>= f) := by
  refine .bind_of_matches state_akin fun state other same => ?_
  obtain ⟨books, rfl⟩ := same
  rw [impartial]
  exact h state

/-! ## Writing -/

theorem bookless_modifyEngine {change : Engine → Engine} (h : Engine.Bookless change) :
    Bookless (modifyEngine change) := by
  refine .modify fun s t akin => ?_
  cases akin with
  | intro faults steady =>
    obtain ⟨others, left, changed, steady'⟩ := h _ _ _ _ steady
    dsimp only
    rw [changed]
    exact .intro faults steady'

theorem bookless_modifyState {change : GameState → GameState}
    (impartial : GameState.Impartial change) : Bookless (modifyState change) := by
  refine .modify fun s t akin => ?_
  cases akin with
  | @intro world engine store books timers published faults steady =>
    cases playing : engine.state with
    | none =>
      refine .of_parts rfl faults books ?_ steady
      simp [playing]
    | some state =>
      obtain ⟨left, same⟩ := impartial state books
      refine .of_parts rfl faults left ?_ steady
      simp [playing, same]

theorem bookless_modifyWorld {change : World → World}
    (impartial : ∀ (world : World) store, change { world with store } =
      { change world with store }) : Bookless (modifyWorld change) := by
  refine .modify fun s t akin => ?_
  cases akin with
  | @intro world engine store books timers published faults steady =>
    have kept : (change world).store = world.store :=
      (congrArg World.store (impartial world world.store) :)
    refine .of_parts ?_ ?_ books rfl steady
    · dsimp only
      rw [impartial]
    · dsimp only
      rw [impartial, kept]
      exact faults

/-- What is announced does not matter. -/
theorem bookless_publish (event event' : Event) :
    Tracks Sitting.Akin (publish event) (publish event') := by
  intro s t akin
  cases akin with
  | intro faults steady => exact ⟨rfl, .intro faults steady⟩

theorem bookless_play (call : AudioCall) : Bookless (play call) :=
  bookless_modifyEngine (.of_commutes fun _ _ _ _ => rfl)

theorem bookless_onStage {action : Action α} (h : action.Bookless) : Bookless (onStage action) := by
  intro s t akin
  cases akin with
  | @intro world engine store books timers published faults steady =>
    cases playing : engine.state with
    | none =>
      have nothing := Engine.rebooked_of_none books timers published playing
      rw [result, after, result, after, outcome_onStage_of_none playing,
        outcome_onStage_of_none (s := ⟨{ world with store }, _⟩) nothing]
      exact ⟨rfl, .intro faults steady⟩
    | some state =>
      have other := Engine.rebooked_of_some books timers published playing
      rcases ends : outcome action (Sitting.stage ⟨world, engine⟩ state) with ⟨r, left⟩
      have start : (Sitting.stage ⟨world, engine⟩ state).Akin
          (Sitting.stage ⟨{ world with store }, engine.rebooked books timers published⟩
            (state.booked books)) := .intro books published
      obtain ⟨left', ends', akin⟩ := h.of_outcome start ends
      rw [result, after, result, after, outcome_onStage_of_some playing,
        outcome_onStage_of_some (s := ⟨{ world with store }, _⟩) other, result, after, result,
        after, ends, ends']
      refine ⟨rfl, ?_⟩
      cases akin with
      | intro books' published' => exact .of_parts rfl faults books' rfl steady

/-! ## Faults -/

theorem bookless_report (operation : String) (fault : Fault) : Bookless (report operation fault) :=
  bookless_publish _ _

theorem bookless_reject (operation : String) (fault : Fault) :
    Bookless (reject operation fault : Turn α) :=
  .bind (bookless_report operation fault) fun _ => .throw fault

theorem bookless_reporting {turn : Turn α} (operation : String) (h : Bookless turn) :
    Bookless (reporting operation turn) :=
  .tryCatch h fun fault =>
    .branch (.bind (bookless_report operation fault) fun _ => .throw fault) (.throw fault)

theorem bookless_requireStatus (status : EngineStatus) (operation : String) :
    Bookless (requireStatus status operation) :=
  bookless_engine (fun _ _ _ _ => rfl) fun _ => .branch (.throw _) (.pure _)

theorem bookless_requireInitialized (operation : String) :
    Bookless (requireInitialized operation) :=
  bookless_engine (fun _ _ _ _ => rfl) fun _ => .branch (bookless_reject _ _) (.pure _)

theorem bookless_requireGame (operation : String) : Bookless (requireGame operation) :=
  bookless_engine
    (fun e _ _ _ => by dsimp only [Engine.rebooked]; rw [Option.isNone_map])
    fun _ => .branch (bookless_reject _ _) (.pure _)

/-! ## Timers -/

theorem bookless_stopTimers : Bookless stopTimers :=
  bookless_modifyEngine Engine.bookless_stopTimers

theorem bookless_startTimers : Bookless startTimers :=
  bookless_world (fun _ _ => rfl) fun world =>
    bookless_modifyEngine (Engine.bookless_startTimers world.elapsed)

/-! ## Saves -/

/-- Timers that save, and what is announced, leave a sitting akin. -/
theorem akin_of_engine {change : Engine → Engine}
    (h : ∀ e, ∃ timers published, change e = { e with timers, published } ∧
      steadyOf timers = e.steady) : Leads Sitting.Akin (modifyEngine change) := by
  refine .modify fun s => ?_
  obtain ⟨own, same⟩ := s.engine.exists_rebooked
  obtain ⟨timers, published, changed, steady⟩ := h s.engine
  refine .of_parts rfl rfl own ?_ ?_
  · dsimp only
    rw [changed]
    exact same _ _
  · dsimp only
    rw [changed, ← steady]
    exact .refl _

theorem akin_of_publish (event : Event) : Leads Sitting.Akin (publish event) :=
  .bind (.of_reads confined_now) fun _ => akin_of_engine fun e => ⟨e.timers, _, rfl, rfl⟩

/-- To write into the books of a game leaves the sitting akin. -/
theorem akin_of_books {change : GameState → GameState}
    (h : ∀ state, ∃ books, change state = GameState.booked state books) :
    Leads Sitting.Akin (modifyState change) := by
  refine .modify fun s => ?_
  cases playing : s.engine.state with
  | none =>
    obtain ⟨own, same⟩ := s.engine.exists_rebooked
    refine .of_parts rfl rfl own ?_ (.refl _)
    simp [playing]
  | some state =>
    obtain ⟨books, same⟩ := h state
    refine .of_parts rfl rfl books ?_ (.refl _)
    simp [playing, same]

theorem setLastSaved_akin (lastSaved : Document) : Leads Sitting.Akin (setLastSaved lastSaved) :=
  akin_of_books fun state => ⟨{ state.books with lastSaved }, rfl⟩

theorem touch_akin (now : Instant) :
    Leads Sitting.Akin (modifyState fun state => state.touch now) :=
  akin_of_books fun state => ⟨{ state.books with lastModified := Timestamp.text now }, rfl⟩

theorem stow_akin (now : Instant) (name : Document) (autosave : Bool) :
    Matches Sitting.Akin (fun _ _ => True) (stow now name autosave) (stow now name autosave) := by
  intro s t akin
  cases akin with
  | @intro world engine store books timers published faults steady =>
    cases playing : engine.state with
    | none =>
      have nothing := Engine.rebooked_of_none books timers published playing
      rw [result, after, result, after, outcome_stow_of_none playing,
        outcome_stow_of_none (s := ⟨{ world with store }, _⟩) nothing]
      exact ⟨.error _, .intro faults steady⟩
    | some state =>
      have other := Engine.rebooked_of_some books timers published playing
      have left := world.store.save_leaves now world.issued state name autosave
      have left' := store.save_leaves now world.issued (state.booked books) name autosave
      rw [result, after, result, after, outcome_stow_of_some playing,
        outcome_stow_of_some (s := ⟨{ world with store }, _⟩) other]
      refine ⟨.ok trivial, .of_parts ?_ ?_ books rfl steady⟩
      · dsimp only
        rw [left.1, left'.1, SaveStore.issues, SaveStore.issues, faults]
      · dsimp only
        rw [left.2, left'.2, faults]

/-- A game that saves itself leaves the sitting akin. -/
theorem stow_itself_akin (now : Instant) (name : Document) :
    Leads Sitting.Akin (stow now name true) := by
  intro s
  cases playing : s.engine.state with
  | none =>
    rw [after, outcome_stow_of_none playing]
    exact .refl s
  | some state =>
    obtain ⟨own, same⟩ := s.engine.exists_rebooked
    have left := s.world.store.save_leaves now s.world.issued state name true
    rw [after, outcome_stow_of_some playing]
    refine .of_parts ?_ left.2 own (same _ _) (.refl _)
    dsimp only
    rw [left.1, SaveStore.issues, Bool.or_true, if_pos rfl]

/-- What follows when the store has answered. -/
theorem answer_akin (autosave : Bool) (previous : Document) (answer : Result SaveSlot) :
    Leads Sitting.Akin (match answer with
      | .ok slot => do
        publish (.gameSaved slot.toDocument autosave)
        pure slot
      | .error fault => do
        setLastSaved previous
        throw (savingFault fault)) := by
  cases answer with
  | ok slot => exact .bind (akin_of_publish _) fun _ => .pure _
  | error fault => exact .bind (setLastSaved_akin _) fun _ => .throw _

theorem save_itself_akin (name : Document) : Leads Sitting.Akin (save name true) := by
  rw [save_eq]
  refine .bind (.of_reads (confined_state trivial)) fun _ => ?_
  refine .bind (.of_reads confined_now) fun now => ?_
  refine .bind (setLastSaved_akin _) fun _ => .bind (touch_akin now) fun _ => ?_
  exact .bind (stow_itself_akin now name) fun answer => answer_akin true _ answer

theorem autosave_akin : Leads Sitting.Akin autosave := by
  refine .bind (.of_reads confined_engine) fun engine => .branch ?_ (.pure false)
  refine .tryCatch (.bind (save_itself_akin _) fun _ => .pure true) fun fault => ?_
  exact .bind (akin_of_publish _) fun _ => .pure false

theorem saveByItself_akin : Leads Sitting.Akin saveByItself := by
  have restarts : Leads Sitting.Akin startAutosave := by
    refine .bind (.of_reads confined_world) fun world => akin_of_engine fun e => ?_
    obtain ⟨left, started, steady⟩ := e.steadyOf_startAutosave world.elapsed
    exact ⟨left, e.published, started, steady⟩
  refine .bind (.of_reads confined_engine) fun engine => ?_
  exact .branch (.bind autosave_akin fun _ => restarts) restarts

/-! ### Saves of players -/

/-- Two turns that leave akin what was akin, whatever they give. -/
def Abreast (turn : Turn α) (turn' : Turn β) : Prop :=
  ∀ s t, s.Akin t → (after turn s).Akin (after turn' t)

theorem Abreast.of_leads {turn : Turn α} {turn' : Turn β} (h : Leads Sitting.Akin turn)
    (h' : Leads Sitting.Akin turn') : Abreast turn turn' :=
  fun s t akin => ((h s).symm.trans akin).trans (h' t)

theorem Abreast.of_matches {val : α → β → Prop} {turn : Turn α} {turn' : Turn β}
    (h : Matches Sitting.Akin val turn turn') : Abreast turn turn' :=
  fun s t akin => (h s t akin).2

theorem Abreast.of_tracks {turn turn' : Turn α} (h : Tracks Sitting.Akin turn turn') :
    Abreast turn turn' :=
  fun s t akin => (h s t akin).2

theorem Abreast.bind {γ δ : Type} {val : α → β → Prop} {turn : Turn α} {turn' : Turn β}
    {f : α → Turn γ} {f' : β → Turn δ} (first : Matches Sitting.Akin val turn turn')
    (next : ∀ a b, val a b → Abreast (f a) (f' b)) : Abreast (turn >>= f) (turn' >>= f') := by
  intro s t akin
  rcases ends : outcome turn s with ⟨r, s₁⟩
  obtain ⟨r', t₁, ends', alike, related⟩ := first.of_outcome akin ends
  cases alike with
  | ok h =>
    rw [after, after, outcome_bind_of_ok ends, outcome_bind_of_ok ends']
    exact next _ _ h s₁ t₁ related
  | error fault =>
    rw [after, after, outcome_bind_of_error ends, outcome_bind_of_error ends']
    exact related

/-- What is answered does not matter. -/
theorem Abreast.discard {turn : Turn α} {turn' : Turn β} (h : Abreast turn turn') :
    Abreast (do let _ ← turn) (do let _ ← turn') := by
  intro s t akin
  rw [after_discard, after_discard]
  exact h s t akin

/-- What is done about faults may not show. -/
theorem Abreast.tryCatch {turn : Turn α} {handle : Fault → Turn α} (h : Abreast turn turn)
    (handles : ∀ fault, Leads Sitting.Akin (handle fault)) :
    Abreast (tryCatch turn handle) (tryCatch turn handle) := by
  have caught (s : Sitting) : (after turn s).Akin (after (MonadExcept.tryCatch turn handle) s) := by
    rw [after, after, outcome_tryCatch]
    rcases outcome turn s with ⟨r, s'⟩
    cases r with
    | ok a => exact .refl s'
    | error fault => exact handles fault s'
  exact fun s t akin => ((caught s).symm.trans (h s t akin)).trans (caught t)

theorem save_abreast (name : Document) (autosave : Bool) :
    Abreast (save name autosave) (save name autosave) := by
  rw [save_eq]
  refine .bind state_akin fun state other _ => .bind bookless_now.matching fun now _ same => ?_
  subst same
  have marks : Bookless (setLastSaved (Timestamp.text now)) := bookless_modifyState fun _ books =>
    ⟨{ books with lastSaved := Timestamp.text now }, rfl⟩
  refine .bind marks.matching fun _ _ _ => ?_
  refine .bind (bookless_modifyState (GameState.impartial_touch now)).matching fun _ _ _ => ?_
  -- What the stores answer may differ from here on, and so does what is written back.
  refine .bind (stow_akin now name autosave) fun answer answer' _ => ?_
  exact .of_leads (answer_akin autosave _ answer) (answer_akin autosave _ answer')

end Turn

end InteractiveFiction
