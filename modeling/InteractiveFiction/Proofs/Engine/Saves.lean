import InteractiveFiction.Proofs.Engine.Aftermath
import InteractiveFiction.Proofs.Engine.Route
import InteractiveFiction.Proofs.Engine.Upkeep
import InteractiveFiction.Proofs.Save.Keeping
import InteractiveFiction.Proofs.State.Writing

/-!
Games that are saved and loaded again, and saves that fail.

What is loaded from a slot is the state that was saved exactly if that state is lasting
(`GameState.Lasting`), none of its integers is too long to be written, and the slot was not dropped
to make room (`SaveStore.has`); this is so for every state that a game of any stories gets into, and
for every store.  An engine whose save did not fail is left in the very state that was saved
(`Turn.saved_of_save`), so that the same is true of its own saves (`Turn.load_of_save_iff`).

* `GameState.marked`: the game as a store gets it, with the time of the save.
* `Sitting.attempt`: what the store of a sitting does with it.
* `Sitting.Untraced turn`: the turn leaves the document of the game as it was.

When the store fails, whatever its fault, the player is told of a fault of saving and a game that
saves itself goes on (`Turn.outcome_save_of_refused`).  The time of the last save is put back, but
not the time of the last change: so the document is as it was exactly if the game was last changed
at that very time (`Sitting.failed_save_untraced_iff`).
-/

set_option autoImplicit false

namespace InteractiveFiction

open Course

/-! ## What is loaded -/

theorem SaveStore.load_of_save_iff {store store' : SaveStore} {now : Instant}
    {issued issued' : Nat} {state : GameState} {name : Document} {autosave : Bool} {slot : SaveSlot}
    (wellFormed : state.WellFormed)
    (ended : store.save now issued state name autosave = (.ok slot, issued', store'))
    (later : Instant) :
    store'.load later slot.id.toKey = .ok state ↔
      state.Lasting ∧ (slot.archive state).isWritable = true ∧
        store'.has slot.id.toKey = true := by
  by_cases kept : store'.has slot.id.toKey = true
  · rw [load_of_save ended kept later, GameState.ofCopy_eq_ok_iff, GameState.ofArchive_eq_ok_iff,
      GameState.ofDocument_toDocument_iff wellFormed, and_iff_left kept, and_comm]
  · obtain ⟨fault, failed⟩ := load_of_gone kept later
    rw [failed]
    exact ⟨nofun, fun ⟨_, _, has⟩ => absurd has kept⟩

/-! ## Saves of an engine -/

/-- After a save that did not fail, the game stands as it was saved. -/
theorem Turn.saved_of_save {name : Document} {autosave : Bool} {s s' : Sitting} {slot : SaveSlot}
    (ends : outcome (save name autosave) s = (.ok slot, s')) :
    ∃ state, s'.engine.state = some state ∧
      s.world.store.save s.world.now s.world.issued state name autosave =
        (.ok slot, s'.world.issued, s'.world.store) := by
  unfold save at ends
  obtain ⟨before, s₁, isState, marked⟩ := ok_of_outcome_bind ends
  obtain ⟨rfl, -⟩ := some_of_outcome_state isState
  dsimp only at marked
  rw [outcome_bind_of_ok (outcome_now _), setLastSaved] at marked
  rw [outcome_bind_of_ok (outcome_modifyState _ _)] at marked
  rw [outcome_bind_of_ok (outcome_modifyState _ _)] at marked
  obtain ⟨world, s₂, isWorld, afterWorld⟩ := ok_of_outcome_bind marked
  cases isWorld
  obtain ⟨state, s₃, isState', stores⟩ := ok_of_outcome_bind afterWorld
  obtain ⟨rfl, stands⟩ := some_of_outcome_state isState'
  rcases stored : s₁.world.store.save s₁.world.now s₁.world.issued state name autosave with
    ⟨result, issued, store⟩
  dsimp only at stores
  rw [stored] at stores
  obtain ⟨_, s₄, wrote, announced⟩ := ok_of_outcome_bind stores
  cases wrote
  cases result with
  | ok slot =>
    rw [outcome_bind_of_ok (outcome_publish _ _)] at announced
    cases announced
    exact ⟨state, stands, stored⟩
  | error fault =>
    rw [setLastSaved, outcome_bind_of_ok (outcome_modifyState _ _)] at announced
    cases announced

theorem Turn.load_of_save_iff {name : Document} {autosave : Bool} {s s' : Sitting}
    {slot : SaveSlot} (wellFormed : s.WellFormed)
    (ends : outcome (save name autosave) s = (.ok slot, s')) :
    ∃ state, s'.engine.state = some state ∧ ∀ later,
      (s'.world.store.load later slot.id.toKey = .ok state ↔
        state.Lasting ∧ (slot.archive state).isWritable = true ∧
          s'.world.store.has slot.id.toKey = true) := by
  obtain ⟨state, stands, stored⟩ := saved_of_save ends
  obtain ⟨kept, -⟩ := (save_upholds name autosave).of_outcome wellFormed ends
  exact ⟨state, stands, SaveStore.load_of_save_iff (kept.state state stands) stored⟩

/-! ## Every game -/

namespace Sitting

/-- Whatever was done with an engine on stories that were read, in whatever order, and whatever of
it failed: a state it is left in is loaded as it was saved exactly if it is lasting, it can be
written, and its slot is still there. -/
theorem load_of_saved_run_iff {d : Document} {validate : Bool} {issued : Nat}
    {content : Repository} (read : result (Repository.ofDocument d validate) issued = .ok content)
    (world : World) (config : EngineConfig) (audio : AudioSink) (operations : List Operation)
    {state : GameState}
    (played : ((fresh world content config audio).run operations).engine.state = some state)
    {store store' : SaveStore} {now : Instant} {count count' : Nat} {name : Document}
    {autosave : Bool} {slot : SaveSlot}
    (saved : store.save now count state name autosave = (.ok slot, count', store'))
    (later : Instant) :
    store'.load later slot.id.toKey = .ok state ↔
      state.Lasting ∧ (slot.archive state).isWritable = true ∧
        store'.has slot.id.toKey = true := by
  have stories := (Repository.ofDocument_gives d validate issued trivial).2 content read
  have wellFormed := wellFormed_run (wellFormed_fresh stories world config audio) operations
  exact SaveStore.load_of_save_iff (wellFormed.state state played) saved later

end Sitting

/-! ## A market -/

namespace Market

def token (quantity : Int) : Document :=
  .object [("id", "token"), ("name", "Token"), ("stackable", .bool true),
    ("quantity", .int quantity)]

/-- One choice, which brings the given items. -/
def tale (items : List Document) : Document :=
  .object [("id", "market"), ("title", "The market"), ("startingSceneId", "stall"),
    ("scenes", .list [.object [("id", "stall"), ("title", "Stall"), ("content", "A stall."),
      ("choiceIds", .list ["trade"])]]),
    ("choices", .list [.object [("id", "trade"), ("text", "Trade"), ("targetSceneId", "stall"),
      ("effects", .object [("addItems", .list items)])]])]

def content (items : List Document) : Repository :=
  ((result (Repository.ofDocument (tale items) true) 0).toOption).getD {}

theorem content_read (items : List Document)
    (h : (result (Repository.ofDocument (tale items) true) 0).toOption.isSome = true) :
    result (Repository.ofDocument (tale items) true) 0 = .ok (content items) := by
  rw [content, ← Option.get_eq_getD _ (h := h)]
  exact Result.eq_ok_get h

/-- The state after the choice. -/
def traded? (items : List Document) : Option GameState :=
  ((Sitting.fresh { now := 1000000.0 } (content items) {} {}).run
    [.wake, .begin (.newGame "market" "Ada"), .choose "trade"]).engine.state

def bought : GameState :=
  (traded? [token 1]).get (by decide +kernel)

/-- A token that was bought and given back: a stack of none. -/
def returned : GameState :=
  (traded? [token 1, token (-1)]).get (by decide +kernel)

def save (state : GameState) : Result SaveSlot × Nat × SaveStore :=
  ({} : SaveStore).save 1000000.0 1 state "Before lunch" false

/-- What is loaded of a state that was saved. -/
def reloaded? (state : GameState) : Option GameState := do
  let slot ← (save state).1.toOption
  ((save state).2.2.load 1000000.0 slot.id.toKey).toOption

def slot : SaveSlot :=
  (save bought).1.toOption.get (by decide +kernel)

/-- What becomes of the stack of none. -/
def restored : GameState :=
  (reloaded? returned).get (by decide +kernel)

theorem bought_lasting : bought.Lasting where
  player := ⟨⟨0, by decide +kernel⟩, by
    have none : bought.player.equipment.entries = [] := by decide +kernel
    unfold Equipment.Lasting
    rw [none]
    exact fun entry mem => by cases mem⟩
  held := by decide +kernel
  settings := by
    have plain : bought.settings = {} := by decide +kernel
    rw [plain]
    exact ⟨⟨_, rfl⟩, ⟨_, rfl⟩, ⟨_, rfl⟩, ⟨_, rfl⟩⟩

end Market

open Market in
/-- A token that was bought is there again. -/
theorem bought_token_restored :
    result (Repository.ofDocument (tale [token 1]) true) 0 = .ok (content [token 1]) ∧
      traded? [token 1] = some bought ∧
      ∃ issued store, save bought = (.ok slot, issued, store) ∧
        store.load 1000000.0 slot.id.toKey = .ok bought := by
  have read := content_read [token 1] (by decide +kernel)
  have played : traded? [token 1] = some bought := (Option.some_get _).symm
  have saved : save bought = (.ok slot, (save bought).2) :=
    Prod.ext (Result.eq_ok_get (by decide +kernel)) rfl
  refine ⟨read, played, _, _, saved, ?_⟩
  rw [Sitting.load_of_saved_run_iff read _ _ _ _ played saved]
  exact ⟨bought_lasting, by decide +kernel, by decide +kernel⟩

open Market in
/-- A token that was given back is there again, too: what is loaded is not what was saved. -/
theorem returned_token_multiplied :
    result (Repository.ofDocument (tale [token 1, token (-1)]) true) 0 =
        .ok (content [token 1, token (-1)]) ∧
      traded? [token 1, token (-1)] = some returned ∧
      reloaded? returned = some restored ∧
      returned.inventory.map Item.quantity = [0] ∧ restored.inventory.map Item.quantity = [1] ∧
      restored.toDocument ≠ returned.toDocument := by
  have read := content_read [token 1, token (-1)] (by decide +kernel)
  refine ⟨read, (Option.some_get _).symm, (Option.some_get _).symm, ?_, ?_, ?_⟩
  · decide +kernel
  · decide +kernel
  · decide +kernel

/-! ## The game after a failed save -/

def GameState.marked (now : Instant) (state : GameState) : GameState :=
  { state with progress := { state.progress with lastSaved := Timestamp.text now } }.touch now

theorem GameState.toDocument_touch_iff (now : Instant) (state : GameState) :
    (state.touch now).toDocument = state.toDocument ↔
      state.metadata.lastModified = Timestamp.text now := by
  simp only [toDocument, touch, StateMetadata.toDocument, Document.object.injEq, List.cons.injEq,
    Prod.mk.injEq, true_and, and_true]
  exact eq_comm

namespace Sitting

variable (s : Sitting)

def attempt (state : GameState) (name : Document) (autosave : Bool) :
    Result SaveSlot × Nat × SaveStore :=
  s.world.store.save s.world.now s.world.issued (state.marked s.world.now) name autosave

/-- The sitting once the store has failed to save the game. -/
def refused (state : GameState) (name : Document) (autosave : Bool) : Sitting where
  world := { s.world with
    issued := (s.attempt state name autosave).2.1, store := (s.attempt state name autosave).2.2 }
  engine := { s.engine with state := some (state.touch s.world.now) }

def Untraced {α : Type} (turn : Turn α) : Prop :=
  (after turn s).engine.state.map GameState.toDocument = s.engine.state.map GameState.toDocument

end Sitting

namespace Turn

variable {s : Sitting} {state : GameState} {name : Document} {byItself : Bool} {fault : Fault}

theorem isOfSaving_savingFault (fault : Fault) : (savingFault fault).isOfSaving = true := by
  unfold savingFault
  split
  · assumption
  · rfl

/-- What the store failed with is told as a fault of saving. -/
theorem outcome_save_of_refused (playing : s.engine.state = some state)
    (fails : (s.attempt state name byItself).1 = .error fault) :
    outcome (save name byItself) s = (.error (savingFault fault), s.refused state name byItself) := by
  let marking : Sitting := { s with engine := { s.engine with
    state := some (state.marked s.world.now) } }
  have stows : outcome (stow s.world.now name byItself) marking = (.ok (.error fault),
      { marking with world := (s.refused state name byItself).world }) := by
    rw [outcome_stow_of_some (s := marking) rfl, ← fails]
    rfl
  rw [save_eq, outcome_bind_of_ok (outcome_state_of_some playing)]
  dsimp only
  rw [outcome_bind_of_ok (outcome_now s), setLastSaved,
    outcome_bind_of_ok (outcome_modifyState _ _), outcome_bind_of_ok (outcome_modifyState _ _)]
  dsimp only
  rw [playing]
  change outcome _ marking = _
  rw [outcome_bind_of_ok stows]
  rfl

theorem outcome_manualSave_of_refused (playing : s.engine.state = some state)
    (fails : (s.attempt state name false).1 = .error fault) :
    outcome (manualSave name) s = (.error (savingFault fault),
      (s.refused state name false).announce
        (.error "manual_save" (savingFault fault).family (savingFault fault).message)) := by
  unfold manualSave
  rw [outcome_bind_of_ok (Sitting.outcome_requireGame_of_some playing _), outcome_tryCatch,
    outcome_save_of_refused playing fails]
  rfl

theorem outcome_autosave_of_refused (playing : s.engine.state = some state)
    (wanted : state.settings.autosave.isTruthy = true)
    (fails : (s.attempt state "Autosave" true).1 = .error fault) :
    outcome autosave s = (.ok false, (s.refused state "Autosave" true).announce
      (.error "autosave" (savingFault fault).family (savingFault fault).message)) := by
  have saves : outcome (do let _ ← save "Autosave" true; pure true) s =
      (.error (savingFault fault), s.refused state "Autosave" true) :=
    outcome_bind_of_error (outcome_save_of_refused playing fails) _
  unfold autosave
  rw [outcome_bind_of_ok (outcome_engine s), if_pos (by rw [playing]; exact wanted),
    outcome_tryCatch, saves]
  rfl

theorem outcome_autosave_of_unwanted (playing : s.engine.state = some state)
    (unwanted : state.settings.autosave.isTruthy = false) :
    outcome autosave s = (.ok false, s) := by
  unfold autosave
  rw [outcome_bind_of_ok (outcome_engine s), if_neg (by rw [playing]; simp [unwanted])]
  rfl

end Turn

/-! ## What is left of a failed save -/

namespace Sitting

variable {s : Sitting} {state : GameState}

theorem untraced_iff {α : Type} {turn : Turn α} (playing : s.engine.state = some state)
    (left : (after turn s).engine.state = some (state.touch s.world.now)) :
    s.Untraced turn ↔ state.metadata.lastModified = Timestamp.text s.world.now := by
  rw [Untraced, left, playing, Option.map_some, Option.map_some, Option.some.injEq,
    GameState.toDocument_touch_iff]

/-- When the store fails, with whatever fault: a player who saves is told of a fault of saving, and
a game that is to save itself tells that it was not saved.  The game is left as it was but for the
time of its last change, so its document is as it was exactly if the game was last changed at that
very time.  A game that is not to save itself asks no store. -/
theorem failed_save_untraced_iff (playing : s.engine.state = some state) :
    (∀ name fault, (s.attempt state name false).1 = .error fault →
      (∃ told, result (Turn.manualSave name) s = .error told ∧ told.isOfSaving = true) ∧
      (after (Turn.manualSave name) s).engine.state = some (state.touch s.world.now) ∧
      (s.Untraced (Turn.manualSave name) ↔
        state.metadata.lastModified = Timestamp.text s.world.now)) ∧
    (∀ fault, state.settings.autosave.isTruthy = true →
      (s.attempt state "Autosave" true).1 = .error fault →
      result Turn.autosave s = .ok false ∧
      (after Turn.autosave s).engine.state = some (state.touch s.world.now) ∧
      (s.Untraced Turn.autosave ↔ state.metadata.lastModified = Timestamp.text s.world.now)) ∧
    (state.settings.autosave.isTruthy = false → outcome Turn.autosave s = (.ok false, s)) := by
  refine ⟨fun name fault fails => ?_, fun fault wanted fails => ?_, fun unwanted =>
    Turn.outcome_autosave_of_unwanted playing unwanted⟩
  · have ends := Turn.outcome_manualSave_of_refused playing fails
    have left : (after (Turn.manualSave name) s).engine.state = some (state.touch s.world.now) := by
      rw [after, ends]
      rfl
    exact ⟨⟨_, by rw [result, ends], Turn.isOfSaving_savingFault fault⟩, left,
      untraced_iff playing left⟩
  · have ends := Turn.outcome_autosave_of_refused playing wanted fails
    have left : (after Turn.autosave s).engine.state = some (state.touch s.world.now) := by
      rw [after, ends]
      rfl
    exact ⟨by rw [result, ends], left, untraced_iff playing left⟩

theorem attempt_of_savingFault {fault : Fault} (broken : s.world.store.savingFault = some fault)
    (state : GameState) (name : Document) (autosave : Bool) :
    (s.attempt state name autosave).1 = .error fault := by
  rw [attempt, SaveStore.save, broken]
  rfl

end Sitting

namespace Finale

/-- The game that nothing can be saved of, when the clock shows some time. -/
def hallAt (now : Instant) : Sitting :=
  (fresh.run toHall).step (.outside { world with now })

theorem broken_hallAt (now : Instant) :
    (hallAt now).world.store.savingFault = some (.saving (.refused "no disk")) := rfl

theorem prompt_failed_save_untraced : ∃ state, (hallAt 1000000.0).engine.state = some state ∧
    ((hallAt 1000000.0).attempt state "Doomed" false).1 = .error (.saving (.refused "no disk")) ∧
    state.settings.autosave.isTruthy = true ∧
    (hallAt 1000000.0).Untraced (Turn.manualSave "Doomed") ∧
    (hallAt 1000000.0).Untraced Turn.autosave := by
  have current : (hallAt 1000000.0).engine.state.map (fun state =>
      (state.metadata.lastModified, state.settings.autosave.isTruthy)) =
        some (.text (Timestamp.text 1000000.0), true) := by decide +kernel
  obtain ⟨state, playing, same⟩ := Option.map_eq_some_iff.1 current
  obtain ⟨modified, wanted⟩ := Prod.mk.inj same
  have fails := Sitting.attempt_of_savingFault (broken_hallAt 1000000.0) state
  obtain ⟨manual, byItself, -⟩ := Sitting.failed_save_untraced_iff playing
  exact ⟨state, playing, fails "Doomed" false, wanted, (manual _ _ (fails _ _)).2.2.2 modified,
    (byItself _ wanted (fails _ _)).2.2.2 modified⟩

/-- A minute later both leave the time at which they failed in the document of the game. -/
theorem late_failed_save_traced :
    fault? (Turn.manualSave "Doomed") (hallAt 1000060.0) = some (.saving (.refused "no disk")) ∧
    ¬ (hallAt 1000060.0).Untraced (Turn.manualSave "Doomed") ∧
    result Turn.autosave (hallAt 1000060.0) = .ok false ∧
    ¬ (hallAt 1000060.0).Untraced Turn.autosave := by
  unfold Sitting.Untraced
  refine ⟨?_, ?_, ?_, ?_⟩ <;> decide +kernel

end Finale

end InteractiveFiction
