import InteractiveFiction.Proofs.Dispatcher.Order
import InteractiveFiction.Proofs.Dispatcher.Replay
import InteractiveFiction.Proofs.Inventory.Holdings

/-!
Bounds of a game, and its stock, along submissions.

Bundles are submitted one after another, and inside the events of other bundles, and some fail
half-way.  At every moment of this the player is in bounds who was in bounds before, the maxima are
what they were, and the level has risen only together with full health and mana
(`Dispatcher.bounds_along_submissions`).

Nothing asks that what is added be something: an item of a negative quantity is a debt, and it stays
in the inventory as an entry (`Effect.inventory_of_added`).  As long as every bundle adds things that
there are, every entry stands for something at every moment, whatever the removals ask for and
whatever fails (`Dispatcher.stocked_along_submissions`).
-/

set_option autoImplicit false

namespace InteractiveFiction

open Course

/-! ## Along a chain of moments -/

theorem Stage.bounds_of_chain {first : Stage} {moments : List Stage}
    (chain : (first :: moments).IsChain Stage.Fares) (bounds : first.state.player.InBounds) :
    ∀ moment ∈ moments, moment.state.player.InBounds ∧
      (first.state.RelationshipsInRange → moment.state.RelationshipsInRange) ∧
      moment.state.player.maxHealth = first.state.player.maxHealth ∧
      moment.state.player.maxMana = first.state.player.maxMana := by
  induction moments generalizing first with
  | nil => simp
  | cons next moments ih =>
    obtain ⟨fares, rest⟩ := List.isChain_cons_cons.1 chain
    have bounds' := fares.bounds bounds
    intro moment mem
    obtain rfl | mem := List.mem_cons.1 mem
    · exact ⟨bounds', fares.relationships, fares.maxHealth, fares.maxMana⟩
    · obtain ⟨inBounds, relationships, maxHealth, maxMana⟩ := ih rest bounds' moment mem
      exact ⟨inBounds, fun held => relationships (fares.relationships held),
        maxHealth.trans fares.maxHealth, maxMana.trans fares.maxMana⟩

/-- The level has not fallen, and if it rose then health and mana are full. -/
def Stage.Rises (before after : Stage) : Prop :=
  before.state.player.level ≤ after.state.player.level ∧
    (before.state.player.level < after.state.player.level →
      after.state.player.health = after.state.player.maxHealth ∧
      after.state.player.mana = after.state.player.maxMana)

namespace Dispatcher

/-! ## Submissions one after another -/

def submitAll (submissions : List Submission) (first : Dispatcher) : Dispatcher :=
  submissions.foldl (fun dispatcher submission => after (submit submission) dispatcher) first

theorem submitAll_replays (submissions : List Submission) (first : Dispatcher) :
    Replaying first (submitAll submissions first) := by
  induction submissions generalizing first with
  | nil => exact Std.Refl.refl first
  | cons submission submissions ih =>
    exact (submit_replays submission first).trans (ih _)

/-- Whatever is submitted, by callers and inside events, and whatever of it fails: the state is
what the bundles handled make of it part by part, and at every moment of that, so after every
bundle, the player is in bounds, no relationship is out of its range and the maxima are as at
first; the level never falls, and when it rises health and mana are full at that moment. -/
theorem bounds_along_submissions (submissions : List Submission) {first : Dispatcher}
    (idle : first.applying = false) (bounds : first.stage.state.player.InBounds) :
    ∃ entries, (submitAll submissions first).journal = first.journal ++ entries ∧
      let moments := Batch.moments entries.handled first.stage.silent
      (first.stage.silent :: moments).getLast?.map Stage.state =
        some (submitAll submissions first).stage.state ∧
      (∀ moment ∈ moments, moment.state.player.InBounds ∧
        (first.stage.state.RelationshipsInRange → moment.state.RelationshipsInRange) ∧
        moment.state.player.maxHealth = first.stage.state.player.maxHealth ∧
        moment.state.player.maxMana = first.stage.state.player.maxMana) ∧
      (first.stage.silent :: moments).IsChain Stage.Rises := by
  obtain ⟨entries, replays⟩ := submitAll_replays submissions first idle
  have chain := Batch.moments_fare entries.handled first.stage.silent
  have start : first.stage.silent.state.player.InBounds := bounds
  have held := Stage.bounds_of_chain chain start
  refine ⟨entries, replays.journal, ?_, held, ?_⟩
  · have left := congrArg Stage.state replays.stage
    rw [Batch.getLast?_moments]
    exact congrArg some left.symm
  · exact chain.imp fun before after fares => ⟨fares.level, fares.restored⟩

end Dispatcher

/-! ## An adventure -/

namespace Purse

theorem player_inBounds : game.state.player.InBounds where
  health := by decide
  mana := by decide
  gold := by decide
  experience := by decide +kernel
  attributes := by decide +kernel

/-- A fight and its reward, a bundle that is refused, and a friendship beyond all bounds. -/
def adventure : List Submission :=
  [.bundle { health := some (.int (-30)), experience := some (.int 400) },
    .written (.object [("experience", "much")]),
    .written (.object [("relationships", .object [("innkeeper", .int 250)])])]

end Purse

namespace Dispatcher

theorem adventure_in_bounds :
    Purse.rewarded.applying = false ∧ Purse.rewarded.stage.state.player.InBounds ∧
      ∃ entries, (submitAll Purse.adventure Purse.rewarded).journal =
          Purse.rewarded.journal ++ entries ∧
        ∀ moment ∈ Batch.moments entries.handled Purse.rewarded.stage.silent,
          moment.state.player.InBounds ∧ moment.state.RelationshipsInRange := by
  have idle : Purse.rewarded.applying = false := rfl
  have bounds : Purse.rewarded.stage.state.player.InBounds := Purse.player_inBounds
  have inRange : Purse.rewarded.stage.state.RelationshipsInRange :=
    GameState.relationshipsInRange_starting _ _ _ _ _ _
  obtain ⟨entries, journal, -, held, -⟩ := bounds_along_submissions Purse.adventure idle bounds
  refine ⟨idle, bounds, entries, journal, fun moment mem => ?_⟩
  obtain ⟨inBounds, relationships, -⟩ := held moment mem
  exact ⟨inBounds, relationships inRange⟩

end Dispatcher

/-! ## Stock -/

/-- Entries that stand for something go on doing so. -/
def GameState.KeepsStock (before after : GameState) : Prop :=
  Inventory.Stocked before.inventory → Inventory.Stocked after.inventory

namespace GameState.KeepsStock

instance : Std.Refl KeepsStock :=
  ⟨fun _ held => held⟩

instance : Trans KeepsStock KeepsStock KeepsStock :=
  ⟨fun h h' held => h' (h held)⟩

end GameState.KeepsStock

namespace Inventory

theorem addItems_keepsStock {items : List Item} (positive : Stocked items) :
    Moving GameState.KeepsStock (addItems items) := by
  intro stage held
  obtain ⟨added, grown, among, enters, left, -⟩ := addItems_ends (outcome_eq (addItems items) stage)
  rw [left]
  exact enters.stocked held fun item mem => positive item (among.subset mem)

/-- However much is asked for. -/
theorem removeItems_keepsStock (removals : List ItemRemoval) :
    Moving GameState.KeepsStock (removeItems removals) := by
  intro stage held
  obtain ⟨stage', takes, left⟩ := removeItems_ends removals stage
  change Stocked (outcome (removeItems removals) stage).2.state.inventory
  rw [takes, left]
  split
  · exact stocked_takeAll _ held
  · exact held

end Inventory

namespace Effect

open Inventory

theorem parts_keepStock {effect : Effect} (positive : Stocked effect.addItems) :
    ∀ part ∈ effect.parts, Moving GameState.KeepsStock part := by
  have flagged : ∀ (state : GameState) flags, state.KeepsStock { state with flags } :=
    fun _ _ held => held
  have timed : ∀ (state : GameState) timedEffects, state.KeepsStock { state with timedEffects } :=
    fun _ _ held => held
  exact forall_mem_parts effect
    (applyHealth_moving fun _ _ held => held)
    (applyMana_moving fun _ _ held => held)
    (applyGold_moving fun _ _ held => held)
    (applyExperience_moving (fun _ _ held => held) fun _ _ _ _ _ held => held)
    (fun _ => applyAttributes_moving fun _ held => held)
    (applyFlags_moving fun state => flagged state _)
    (applyAddItems_moving_of (addItems_keepsStock positive))
    (applyRemoveItems_moving_of (removeItems_keepsStock effect.removeItems))
    (fun _ => applyRelationships_moving fun _ _ _ _ _ held => held)
    applySound_moving applyMusic_moving
    (fun _ _ => CustomEffect.apply_moving (fun state _ _ _ => flagged state _)
      fun state _ _ => timed state _)
    applyEvents_moving

/-- An item that is added alone to an empty inventory is what is in it then, whatever its
quantity. -/
theorem inventory_of_added {item : Item} {stage : Stage} (empty : stage.state.inventory = [])
    (room : item.quantity ≤ stage.state.player.inventoryCapacity) :
    (after (Effect.process { addItems := [item] }) stage).state.inventory = [item] := by
  have fits : stage.state.hasRoom (used [item]) = true := by
    have none : stage.state.usedSlots = 0 := by rw [GameState.usedSlots_eq, empty]; rfl
    have one : used [item] = item.quantity := Int.add_zero _
    rw [GameState.hasRoom, none, one, Int.zero_add]
    exact decide_eq_true room
  have follows : Inventory.insert stage.state.inventory item = .ok [item] := by
    rw [empty, Inventory.insert]
    cases item.stackable <;> rfl
  rcases inserts : Course.outcome (insertItem item) stage with ⟨r, stage'⟩
  rcases insertItem_ends inserts with ⟨fault, fails, -⟩ | ⟨grown, grows, rfl, left⟩
  · rw [follows] at fails
    cases fails
  · obtain rfl : [item] = grown := Except.ok.inj (follows.symm.trans grows)
    have adds : Course.outcome (Inventory.addItems [item]) stage = (.ok true, stage') := by
      unfold Inventory.addItems
      rw [outcome_bind_of_ok (Action.outcome_state stage)]
      dsimp only
      rw [if_pos fits, outcome_bind, List.forIn_cons, outcome_bind, outcome_bind_of_ok inserts]
      rfl
    have kept : Stage.Relates (Keeps GameState.inventory) _ _ :=
      process_touches (fun _ _ => rfl) { addItems := [item] } stage
    have applied : after (Effect.apply { addItems := [item] }) stage =
        after (perform (applyAddItems [item])) stage := by
      have alone : Effect.apply { addItems := [item] } = [applyAddItems [item]].mapM perform := rfl
      rw [alone, List.mapM_cons, after, outcome_bind, outcome_eq (perform _) stage]
      cases result (perform (applyAddItems [item])) stage <;> rfl
    have same : (after (Effect.apply { addItems := [item] }) stage).state = stage'.state := by
      rw [applied, state_after_perform, state_after_applyAddItems, after, adds]
    exact kept.trans (by rw [same, left]; rfl)

end Effect

namespace Dispatcher

/-- Whatever is submitted, by callers and inside events, and whatever of it fails: where every
bundle that is handled adds things that there are, every entry of the inventory stands for something
at every moment, so that of no item there is less than nothing. -/
theorem stocked_along_submissions (submissions : List Submission) {first : Dispatcher}
    (idle : first.applying = false) (stocked : Inventory.Stocked first.stage.state.inventory) :
    ∃ entries, (submitAll submissions first).journal = first.journal ++ entries ∧
      let moments := Batch.moments entries.handled first.stage.silent
      (first.stage.silent :: moments).getLast?.map Stage.state =
        some (submitAll submissions first).stage.state ∧
      ((∀ batch ∈ entries.handled, Inventory.Stocked batch.effect.addItems) →
        ∀ moment ∈ moments, Inventory.Stocked moment.state.inventory ∧
          ∀ id, 0 ≤ Inventory.count moment.state.inventory id) := by
  obtain ⟨entries, replays⟩ := submitAll_replays submissions first idle
  refine ⟨entries, replays.journal, ?_, fun positive => ?_⟩
  · have left := congrArg Stage.state replays.stage
    rw [Batch.getLast?_moments]
    exact congrArg some left.symm
  · have chain := Batch.moments_chain
      (fun batch mem => batch.effect.parts_keepStock (positive batch mem))
      (fun _ _ held => held) first.stage.silent
    intro moment mem
    have held : Inventory.Stocked moment.state.inventory := chain.rel_cons mem stocked
    exact ⟨held, held.count_nonneg⟩

end Dispatcher

/-! ## Tokens -/

namespace Purse

/-- Three tokens received and two given back, with a bundle between that is refused. -/
def trade : List Submission :=
  [.written (.object [("addItems", .list [.object
      [("id", "token"), ("name", "Token"), ("stackable", .bool true), ("quantity", .int 3)]])]),
    .written (.object [("experience", "much")]),
    .bundle { removeItems := [{ id := "token", quantity := 2 }] }]

/-- A debt of one token, written where items are given. -/
def debt : Submission :=
  .written (.object [("addItems", .list [.object
    [("id", "token"), ("name", "Token"), ("quantity", .int (-1))]])])

end Purse

namespace Dispatcher

theorem tokens_stocked_along_trade :
    Purse.rewarded.applying = false ∧ Inventory.Stocked Purse.rewarded.stage.state.inventory ∧
      ∃ entries, (submitAll Purse.trade Purse.rewarded).journal =
          Purse.rewarded.journal ++ entries ∧
        (∀ batch ∈ entries.handled, Inventory.Stocked batch.effect.addItems) ∧
        Inventory.count (submitAll Purse.trade Purse.rewarded).stage.state.inventory "token" = 1 ∧
        ∀ moment ∈ Batch.moments entries.handled Purse.rewarded.stage.silent,
          Inventory.Stocked moment.state.inventory := by
  have idle : Purse.rewarded.applying = false := rfl
  have stocked : Inventory.Stocked Purse.rewarded.stage.state.inventory := nofun
  have positive : ∀ batch ∈ Journal.handled (submitAll Purse.trade Purse.rewarded).journal,
      Inventory.Stocked batch.effect.addItems := by decide +kernel
  obtain ⟨entries, journal, -, held⟩ := stocked_along_submissions Purse.trade idle stocked
  have all : (submitAll Purse.trade Purse.rewarded).journal = entries := journal
  rw [all] at positive
  exact ⟨idle, stocked, entries, journal, positive, by decide +kernel,
    fun moment mem => (held positive moment mem).1⟩

/-- The debt is accepted in a new game, and is an entry of less than nothing then. -/
theorem debt_stays_in_inventory :
    (result (submit Purse.debt) { stage := Purse.game }).toOption.isSome = true ∧
      ¬ Inventory.Stocked (submitAll [Purse.debt] { stage := Purse.game }).stage.state.inventory ∧
      Inventory.count (submitAll [Purse.debt] { stage := Purse.game }).stage.state.inventory
        "token" = -1 := by
  decide +kernel

end Dispatcher

end InteractiveFiction
