import InteractiveFiction.Proofs.Engine.Achievements
import InteractiveFiction.Proofs.Engine.Record

/-!
Who is told that an operation failed.

* `blamings operation published`: the errors that were announced of an operation.
* `Operation.blamings_of_failure`: an operation that fails by the rules is blamed once, with the
  family and the message of its fault, after whatever else it announced.  Pausing and resuming are
  not: they refuse in silence.
-/

set_option autoImplicit false

namespace InteractiveFiction

open Course

/-! ## Errors of an operation -/

/-- The operation that an error is announced of. -/
def Event.blamed? (event : Event) : Option Document :=
  if event.name = "error" then event.payload.lookup "operation" else none

theorem Event.blamed?_error (operation family message : String) :
    (Event.error operation family message).blamed? = some (.text operation) := rfl

def blamings (operation : String) (published : List EventRecord) : List Event :=
  (published.map EventRecord.event).filter fun event => event.blamed? = some (.text operation)

section

variable {operation : String}

theorem blamings_append (published others : List EventRecord) :
    blamings operation (published ++ others) =
      blamings operation published ++ blamings operation others := by
  simp [blamings]

theorem blamings_concat (published : List EventRecord) (event : Event) (now : Instant) :
    blamings operation (published ++ [⟨event, now⟩]) =
      blamings operation published ++
        if event.blamed? = some (.text operation) then [event] else [] := by
  rw [blamings_append]
  by_cases own : event.blamed? = some (.text operation)
  · simp [blamings, own]
  · simp [blamings, own]

/-- No bundle is blamed. -/
theorem blamings_announcements (published : List EventRecord) :
    blamings operation (announcements published) = blamings operation published := by
  unfold blamings announcements
  rw [List.filter_map, List.filter_map, List.filter_filter]
  refine congrArg _ (List.filter_congr fun record _ => ?_)
  cases ofBundle : record.event.isOfBundle with
  | false => exact Bool.and_true _
  | true =>
    have named : record.event.name ≠ "error" := Event.name_ne_of_isOfBundle ofBundle (by decide)
    simp [Event.blamed?, named]

end

def Sitting.blamings (operation : String) (s : Sitting) : List Event :=
  InteractiveFiction.blamings operation s.engine.published

namespace Turn

variable {α : Type} {operation : String}

theorem publish_keeps_blamings {event : Event} (h : event.blamed? ≠ some (.text operation)) :
    Leads (Keeps (Sitting.blamings operation)) (publish event) := by
  refine .bind (.of_reads confined_now) fun now => .modify fun s => ?_
  refine (blamings_concat _ event now).trans ?_
  rw [if_neg h, List.append_nil]
  rfl

theorem report_keeps_blamings {other : String} (h : other ≠ operation) (fault : Fault) :
    Leads (Keeps (Sitting.blamings operation)) (report other fault) := by
  refine publish_keeps_blamings fun same => h ?_
  rw [Event.blamed?_error] at same
  injection Option.some.inj same

/-- Achievements are announced, and nobody is blamed for them. -/
theorem blamings_unlocking (s : Sitting) (achievements : List Achievement)
    (played : List AudioCall) :
    (s.unlocking achievements played).blamings operation = s.blamings operation := by
  have silent : blamings operation (achievements.map fun achievement =>
      ⟨achievement.announcement, s.world.now⟩) = [] := by
    unfold blamings
    rw [List.filter_eq_nil_iff]
    intro event mem
    obtain ⟨record, told, rfl⟩ := List.mem_map.1 mem
    obtain ⟨achievement, -, rfl⟩ := List.mem_map.1 told
    exact Bool.eq_false_iff.1 rfl
  refine (blamings_append _ _).trans ?_
  rw [silent, List.append_nil]
  rfl

/-- Nothing that is announced before an operation fails blames it, unless it does so itself. -/
theorem recording_blamings (h : operation ∉ besides) :
    Recording (Keeps (Sitting.blamings operation)) where
  keeps s t same := by
    change blamings operation t.engine.published = blamings operation s.engine.published
    rw [← blamings_announcements, Sitting.announcements_of_record same, blamings_announcements]
  tells event routine := by
    refine publish_keeps_blamings fun blames => ?_
    have named : event.name = "error" := by
      unfold Event.blamed? at blames
      split at blames
      · assumption
      · cases blames
    rw [Event.isRoutine, named] at routine
    cases routine
  fails other mem fault := report_keeps_blamings (ne_of_mem_of_not_mem mem h) fault
  checks := leads_checkAchievements fun _ _ _ => blamings_unlocking _ _

/-! ## What is blamed by a failure -/

theorem blamings_announce (s : Sitting) (fault : Fault) :
    (s.announce (.error operation fault.family fault.message)).blamings operation =
      s.blamings operation ++ [.error operation fault.family fault.message] := by
  refine (blamings_concat s.engine.published _ s.world.now).trans ?_
  rw [if_pos (Event.blamed?_error _ _ _)]
  rfl

theorem blamings_blame (s : Sitting) {fault : Fault} (ofGame : fault.isOfGame = true) :
    (s.blame operation fault).blamings operation =
      s.blamings operation ++ [.error operation fault.family fault.message] := by
  rw [Sitting.blame, if_pos ofGame, blamings_announce]

theorem blamings_of_reporting {turn : Turn α}
    (silent : Leads (Keeps (Sitting.blamings operation)) turn) {s s' : Sitting} {fault : Fault}
    (fails : outcome (reporting operation turn) s = (.error fault, s'))
    (ofGame : fault.isOfGame = true) :
    s'.blamings operation =
      s.blamings operation ++ [.error operation fault.family fault.message] := by
  obtain ⟨s₁, failed, rfl⟩ := error_of_reporting fails
  rw [blamings_blame _ ofGame]
  exact congrArg (· ++ _) (silent.of_outcome failed)

/-! ## Choices, items and characters -/

theorem attemptChoice_keeps_blamings (h : operation ∉ besides) (id : Document) :
    Leads (Keeps (Sitting.blamings operation)) (do
      if (← engine).status = .ended then throw (.lifecycle .gameEnded)
      requireStatus .running "make_choice"
      resolveChoice id) := by
  have recording := recording_blamings h
  have follows (target : Document) (before : GameState) :
      Leads (Keeps (Sitting.blamings operation)) (follow target before) := by
    refine .tryCatch (recording.enterScene target {}) fun fault => ?_
    exact .branch (.bind (.modify fun _ => rfl) fun _ => .throw fault) (.throw fault)
  have ends : Leads (Keeps (Sitting.blamings operation)) endGame :=
    recording.endGame fun _ _ _ => publish_keeps_blamings nofun
  have chooses : Leads (Keeps (Sitting.blamings operation)) (do
      requireStatus .running "make_choice"
      resolveChoice id) := by
    refine .bind (.of_reads (requireStatus_reads _ _)) fun _ => ?_
    rw [resolveChoice_eq]
    refine .bind (recording.commit (fun _ _ _ => ?_) id) fun commitment => .branch ?_ ?_
    · exact .bind (.of_reads confined_now) fun _ => .modify fun _ => rfl
    · exact .bind (follows _ _) fun _ => .bind (publish_keeps_blamings nofun) fun _ => .pure _
    · exact .bind (publish_keeps_blamings nofun) fun _ => .bind ends fun _ => .pure _
  exact .bind (.of_reads confined_engine) fun _ => .branch (.bind (.throw _) fun _ => chooses) chooses

theorem attemptMove_keeps_blamings (h : operation ∉ besides) (id : Document) :
    Leads (Keeps (Sitting.blamings operation)) (do
      requireStatus .running "navigate_to_scene"
      enterScene id {}) :=
  .bind (.of_reads (requireStatus_reads _ _)) fun _ => (recording_blamings h).enterScene id {}

/-! ## Settings and saves -/

/-- Where there must be a game and is none, the operation is blamed at once. -/
theorem blamings_of_requireGame {s s' : Sitting} {fault : Fault}
    (fails : outcome (requireGame operation) s = (.error fault, s')) :
    s'.blamings operation =
      s.blamings operation ++ [.error operation fault.family fault.message] := by
  unfold requireGame at fails
  rw [outcome_bind_of_ok (outcome_engine s)] at fails
  split at fails
  · cases fails
    exact blamings_announce s _
  · cases fails

theorem requireGame_of_ok {s s' : Sitting} {u : Unit}
    (passes : outcome (requireGame operation) s = (.ok u, s')) : s' = s := by
  unfold requireGame at passes
  rw [outcome_bind_of_ok (outcome_engine s)] at passes
  split at passes
  · cases passes
  · cases passes
    rfl

theorem putSettings_slips (changes : Fields) {s s' : Sitting} {fault : Fault}
    (fails : outcome (putSettings changes) s = (.error fault, s')) : fault.isOfGame = false := by
  have told : Confined (fun _ : Sitting => ()) Fault.IsAccident tellSettings :=
    .bind (confined_state rfl) fun _ => .bind (.modify fun _ => rfl) fun _ => .pure _
  have slips : Confined (fun _ : Sitting => ()) Fault.IsAccident (putSettings changes) := by
    refine .bind (.modify fun _ => rfl) fun _ => .bind confined_engine fun engine => ?_
    refine .branch (.bind (.modify fun _ => rfl) fun _ => .bind ?_ fun _ => told) told
    exact .bind confined_world fun _ => .modify fun _ => rfl
  exact (slips.of_outcome fails).2 fault rfl

theorem blamings_of_updateSettings {changes : Fields} {s s' : Sitting} {fault : Fault}
    (fails : outcome (updateSettings changes) s = (.error fault, s'))
    (ofGame : fault.isOfGame = true) :
    s'.blamings "update_settings" =
      s.blamings "update_settings" ++ [.error "update_settings" fault.family fault.message] := by
  rw [updateSettings_eq] at fails
  rcases error_of_outcome_bind fails with refused | ⟨_, s₁, passed, rest⟩
  · exact blamings_of_requireGame refused
  · obtain rfl := requireGame_of_ok passed
    split at rest
    · rcases error_of_outcome_bind rest with rejected | ⟨_, s₂, rejected, -⟩
      · cases rejected
        exact blamings_announce s₁ _
      · cases rejected
    · rw [putSettings_slips changes rest] at ofGame
      cases ofGame

theorem blamings_of_manualSave {name : Document} {s s' : Sitting} {fault : Fault}
    (fails : outcome (manualSave name) s = (.error fault, s')) :
    s'.blamings "manual_save" =
      s.blamings "manual_save" ++ [.error "manual_save" fault.family fault.message] := by
  rcases error_of_outcome_bind fails with refused | ⟨_, s₁, passed, rest⟩
  · exact blamings_of_requireGame refused
  · obtain rfl := requireGame_of_ok passed
    rw [outcome_tryCatch] at rest
    rcases saved : outcome (save name false) s₁ with ⟨r, s₂⟩
    rw [saved] at rest
    have recording := recording_blamings (by decide : "manual_save" ∉ besides)
    have kept := (recording.save name false).of_outcome saved
    cases r with
    | ok slot => cases rest
    | error other =>
      cases rest
      exact (blamings_announce s₂ fault).trans (congrArg (· ++ _) kept)

theorem listSlots_fails {s s' : Sitting} {fault : Fault}
    (fails : outcome listSlots s = (.error fault, s')) :
    s.world.store.list = .error fault ∧
      s' = if fault.isOfSaving then s.announce (.error "list_save_slots" fault.family fault.message)
        else s := by
  have world : outcome Turn.world s = (.ok s.world, s) := rfl
  unfold listSlots at fails
  rw [outcome_bind_of_ok world] at fails
  cases lists : s.world.store.list with
  | ok slots =>
    rw [lists] at fails
    cases fails
  | error other =>
    rw [lists] at fails
    dsimp only at fails
    split at fails
    · rename_i ofSaving
      cases fails
      exact ⟨rfl, (if_pos ofSaving).symm⟩
    · rename_i ofSaving
      cases fails
      exact ⟨rfl, (if_neg ofSaving).symm⟩

end Turn

/-! ## Stores that list -/

namespace SaveSlot

theorem ofArchive_slips (archive : Document) : Result.Slips (ofArchive archive) := by
  refine .bind (Document.require_slips _ _) fun slot => .bind (Document.require_slips _ _) fun id => ?_
  refine .bind (Document.toFields_slips _ _) fun fields => .bind (Document.toInt_slips _) fun _ => ?_
  exact .bind (Document.toInt_slips _) fun _ => .bind (Document.toInt_slips _) fun _ => .pure _

theorem newestFirst_slips (slots : List SaveSlot) : Result.Slips (newestFirst slots) := by
  unfold newestFirst
  split
  · exact .pure _
  · exact .throw rfl

end SaveSlot

/-- Files that the store reports are passed over. -/
theorem FolderStore.slotsOf_slips (store : FolderStore) (names : List String) :
    Result.Slips (store.slotsOf names) := by
  induction names with
  | nil => exact .pure []
  | cons name names ih =>
    unfold slotsOf
    split
    · exact .bind ih fun _ => .pure _
    · exact ih
    · exact ih
    · rename_i fault notSaving _ fails
      refine .throw ?_
      cases reads : store.read name with
      | ok archive =>
        rw [reads] at fails
        exact SaveSlot.ofArchive_slips archive fault fails
      | error other =>
        rw [reads] at fails
        cases fails
        unfold read at reads
        split at reads
        · cases reads
        · split at reads
          · cases reads
          · cases reads
            exact absurd rfl (notSaving _)
          · cases reads
            rfl
        · cases reads
          exact absurd rfl (notSaving _)
        · cases reads
          exact absurd rfl (notSaving _)

/-- What a store fails with by the rules, to list, is what it was made to refuse with. -/
theorem SaveStore.refuses_of_list {store : SaveStore} {fault : Fault}
    (fails : store.list = .error fault) (ofGame : fault.isOfGame = true) :
    store.listingFault = some fault := by
  have slips : ∀ slots : Result (List SaveSlot), Result.Slips slots →
      slots >>= SaveSlot.newestFirst ≠ .error fault := by
    intro slots accident failed
    rw [(accident.bind SaveSlot.newestFirst_slips) fault failed] at ofGame
    cases ofGame
  unfold list at fails
  cases refuses : store.listingFault with
  | some refusal =>
    rw [refuses] at fails
    cases fails
    rfl
  | none =>
    rw [refuses] at fails
    cases medium : store.medium with
    | memory m =>
      rw [medium] at fails
      exact absurd fails (slips m.slots (.mapM fun archive _ => SaveSlot.ofArchive_slips archive))
    | folder f =>
      rw [medium] at fails
      exact absurd fails (slips f.slots (f.slotsOf_slips _))

/-! ## Openings -/

theorem Opening.enter_keeps_blamings (opening : Opening) {operation : String}
    (h : operation ∉ Turn.besides) : Leads (Keeps (Sitting.blamings operation)) opening.enter := by
  have replaces : Leads (Keeps (Sitting.blamings operation)) opening.replace := by
    have finds : Leads (Keeps (Sitting.blamings operation)) opening.find := fun s =>
      congrArg (fun engine : Engine => blamings operation engine.published)
        (opening.find_keeps_engine.keeps s)
    exact .bind finds fun _ => .bind (.modify fun _ => rfl) fun _ => .pure _
  exact .bind replaces fun id => (Turn.recording_blamings h).enterScene id opening.mode

theorem Opening.blamings_of_turn {opening : Opening} {s s' : Sitting} {fault : Fault}
    (fails : outcome opening.turn s = (.error fault, s')) (ofGame : fault.isOfGame = true) :
    s'.blamings opening.operation =
      s.blamings opening.operation ++
        [.error opening.operation fault.family fault.message] := by
  have own : opening.operation ∉ Turn.besides := by
    cases opening with
    | newGame story player => exact (by decide : "start_new_game" ∉ Turn.besides)
    | savedGame slot => exact (by decide : "load_game" ∉ Turn.besides)
  by_cases asleep : s.engine.status = .uninitialized
  · obtain ⟨refusal, refused⟩ : ∃ refusal, outcome opening.turn s =
        (.error refusal, s.blame opening.operation refusal) := turn_of_uninitialized asleep
    rw [refused] at fails
    cases fails
    exact Turn.blamings_blame s ofGame
  · rw [turn_eq, outcome_bind_of_ok (Turn.outcome_requireInitialized asleep _)] at fails
    rw [outcome_bind_of_ok (Turn.outcome_stopTimers s)] at fails
    rcases error_of_outcome_bind fails with failed | ⟨scene, s₁, -, fails⟩
    · -- Stopping the timers announces nothing.
      exact Turn.blamings_of_reporting (s := s.stopped) (opening.enter_keeps_blamings own) failed
        ofGame
    · -- Once the game runs, only the absence of its state could be in the way.
      have slips : Confined (fun _ : Sitting => ()) Fault.IsAccident (do
          Turn.setRunning
          Turn.publish (opening.announcement (← Turn.state).id)
          pure scene) := by
        refine .bind (.bind (.modify fun _ => rfl) fun _ => ?_) fun _ => ?_
        · exact .bind Turn.confined_world fun _ => .modify fun _ => rfl
        · exact .bind (Turn.confined_state rfl) fun _ => .bind (.modify fun _ => rfl) fun _ => .pure _
      have accident : fault.isOfGame = false := (slips.of_outcome fails).2 fault rfl
      rw [accident] at ofGame
      cases ofGame

/-! ## Operations -/

namespace Operation

/-- The name under which an operation that players and clients call is blamed. -/
def name? : Operation → Option String
  | begin opening => some opening.operation
  | pause => some "pause_game"
  | resume => some "resume_game"
  | choose _ => some "make_choice"
  | navigate _ => some "navigate_to_scene"
  | useItem _ => some "use_item"
  | interact .. => some "interact"
  | updateSettings _ => some "update_settings"
  | manualSave _ => some "manual_save"
  | listSlots => some "list_save_slots"
  | wake | shutdown | applyBundle _ | autosave | pass _ | outside _ => none

/-- Whether an operation is blamed for a fault of the rules that it fails with. -/
def isBlamed (operation : Operation) (fault : Fault) : Bool :=
  match operation with
  | pause | resume => false
  | listSlots => fault.isOfSaving
  | _ => true

theorem outcome_discard {α : Type} {turn : Turn α} {s s' : Sitting} {fault : Fault}
    (fails : outcome (do let _ ← turn : Turn Unit) s = (.error fault, s')) :
    outcome turn s = (.error fault, s') := by
  rcases error_of_outcome_bind fails with failed | ⟨_, _, -, done⟩
  · exact failed
  · cases done

/-- Where only the status stands in the way of an operation, it is refused with nothing done. -/
theorem same_of_requireStatus {status : EngineStatus} {name : String} {rest : Turn Unit}
    (works : ∀ s, ∃ s', outcome rest s = (.ok (), s')) {s s' : Sitting} {fault : Fault}
    (fails : outcome (do
      Turn.requireStatus status name
      rest) s = (.error fault, s')) : s' = s := by
  by_cases here : s.engine.status = status
  · obtain ⟨s₁, done⟩ := works s
    rw [outcome_bind_of_ok (Turn.outcome_requireStatus_of_eq here _), done] at fails
    cases fails
  · rw [outcome_bind_of_error (Turn.outcome_requireStatus_of_ne here _)] at fails
    cases fails
    rfl

theorem pause_refuses {s s' : Sitting} {fault : Fault}
    (fails : outcome Turn.pauseGame s = (.error fault, s')) : s' = s := by
  unfold Turn.pauseGame at fails
  rw [outcome_bind_of_ok (Turn.outcome_engine s)] at fails
  split at fails
  · exact same_of_requireStatus (fun _ => ⟨_, rfl⟩) fails
  · cases fails

theorem resume_refuses {s s' : Sitting} {fault : Fault}
    (fails : outcome Turn.resumeGame s = (.error fault, s')) : s' = s := by
  unfold Turn.resumeGame at fails
  rw [outcome_bind_of_ok (Turn.outcome_engine s)] at fails
  split at fails
  · exact same_of_requireStatus (fun _ => ⟨_, rfl⟩) fails
  · cases fails

/-- Whatever the engine, the store and what was done before: an operation that players and clients
call, and that fails by the rules, is blamed for that once and last, with the family and the message
of the fault.  The exceptions are pausing and resuming, which change and announce nothing, and a
store that refuses to list with something else than a fault of saving. -/
theorem blamings_of_failure {operation : Operation} {name : String}
    (named : operation.name? = some name) {s : Sitting} {fault : Fault}
    (failed : fault? operation.turn s = some fault) (ofGame : fault.isOfGame = true) :
    (s.step operation).blamings name = s.blamings name ++
        (if operation.isBlamed fault then [.error name fault.family fault.message] else []) ∧
      (operation.isBlamed fault = false → s.step operation = s ∧
        (operation = .listSlots → s.world.store.listingFault = some fault)) := by
  have fails : outcome operation.turn s = (.error fault, s.step operation) :=
    outcome_of_fault? failed
  generalize s.step operation = s' at fails
  have once {name : String} (blamed : s'.blamings name =
      s.blamings name ++ [.error name fault.family fault.message]) :
      s'.blamings name = s.blamings name ++
          (if true then [.error name fault.family fault.message] else []) ∧
        (true = false → s' = s ∧
          (operation = .listSlots → s.world.store.listingFault = some fault)) :=
    ⟨blamed, nofun⟩
  cases operation with
  | begin opening =>
    cases named
    exact once (Opening.blamings_of_turn (outcome_discard fails) ofGame)
  | pause =>
    obtain rfl := pause_refuses fails
    exact ⟨(List.append_nil _).symm, fun _ => ⟨rfl, nofun⟩⟩
  | resume =>
    obtain rfl := resume_refuses fails
    exact ⟨(List.append_nil _).symm, fun _ => ⟨rfl, nofun⟩⟩
  | choose id =>
    cases named
    have silent := Turn.attemptChoice_keeps_blamings (by decide : "make_choice" ∉ Turn.besides) id
    exact once (Turn.blamings_of_reporting silent (outcome_discard fails) ofGame)
  | navigate id =>
    cases named
    have silent := Turn.attemptMove_keeps_blamings
      (by decide : "navigate_to_scene" ∉ Turn.besides) id
    exact once (Turn.blamings_of_reporting silent (outcome_discard fails) ofGame)
  | useItem id =>
    cases named
    have silent := (Turn.recording_blamings (by decide : "use_item" ∉ Turn.besides)).attemptUse id
    exact once (Turn.blamings_of_reporting silent (outcome_discard fails) ofGame)
  | interact character kind =>
    cases named
    have silent := (Turn.recording_blamings
      (by decide : "interact" ∉ Turn.besides)).attemptInteraction character kind
    exact once (Turn.blamings_of_reporting silent (outcome_discard fails) ofGame)
  | updateSettings changes =>
    cases named
    exact once (Turn.blamings_of_updateSettings (outcome_discard fails) ofGame)
  | manualSave slot =>
    cases named
    exact once (Turn.blamings_of_manualSave (outcome_discard fails))
  | listSlots =>
    cases named
    obtain ⟨lists, left⟩ := Turn.listSlots_fails (outcome_discard fails)
    unfold isBlamed
    cases ofSaving : fault.isOfSaving with
    | true =>
      rw [ofSaving] at left
      subst left
      exact once (Turn.blamings_announce s fault)
    | false =>
      rw [ofSaving] at left
      subst left
      refine ⟨(List.append_nil _).symm, fun _ => ⟨rfl, fun _ => ?_⟩⟩
      exact SaveStore.refuses_of_list lists ofGame
  | wake | shutdown | applyBundle _ | autosave | pass _ | outside _ => cases named

/-- The choice is made and leads to a deck that is closed; the state is put back, and the choice is
blamed. -/
theorem boarding_blamed_once :
    (choose "board").name? = some "make_choice" ∧
      fault? (choose "board").turn Harbour.onPier = some (.sceneInaccessible "deck") ∧
      (Fault.sceneInaccessible "deck").isOfGame = true ∧
      (Harbour.onPier.step (.choose "board")).blamings "make_choice" =
        Harbour.onPier.blamings "make_choice" ++
          [.error "make_choice" "SceneInaccessibleError"
            "Scene deck is not accessible under current conditions"] := by
  have failed : fault? (choose "board").turn Harbour.onPier = some (.sceneInaccessible "deck") := by
    decide +kernel
  exact ⟨rfl, failed, rfl, (blamings_of_failure rfl failed rfl).1⟩

/-- An engine with no game refuses to pause, and no error is announced. -/
theorem early_pause_unblamed :
    let awake := (Sitting.fresh { now := 0 } Harbour.library {} {}).run [.wake]
    let fault := Fault.lifecycle (.wrongStatus "pause_game" "running" "initialized")
    pause.name? = some "pause_game" ∧ fault? pause.turn awake = some fault ∧
      fault.isOfGame = true ∧ (awake.step pause).blamings "pause_game" = [] :=
  ⟨rfl, rfl, rfl, rfl⟩

end Operation

end InteractiveFiction
