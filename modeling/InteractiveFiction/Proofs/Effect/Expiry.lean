import InteractiveFiction.Proofs.Effect.Backdrop
import InteractiveFiction.Proofs.Effect.Vitals
import InteractiveFiction.Proofs.Inventory.Backdrop
import InteractiveFiction.Proofs.OrderedMap

/-!
What the sweep of curses and blessings takes away: each effect that has lapsed, with its flag, and
nothing else of the state.  A sweep that takes something away shows in the document of the state
(`state_of_expire`).

It asks that they are held under their own keys.  Whatever is done on a stage, what was held so is
held so still (`GameState.KeepsKeys`); and of a state in which all are, a sweep takes away what has
lapsed without fail (`TimedEffect.expire_returns`), and nothing more
(`TimedEffect.expire_takes_lapsed`).
-/

set_option autoImplicit false

namespace InteractiveFiction

open Course

namespace OrderedMap

variable {α : Type}

theorem size_erase_lt {m : OrderedMap α} {key : String} (h : m.contains key = true) :
    (m.erase key).size < m.size := by
  obtain ⟨entry, mem, isKey⟩ := List.any_eq_true.1 h
  refine List.length_filter_lt_length_iff_exists.2 ⟨entry, mem, ?_⟩
  rw [beq_iff_eq] at isKey
  simp [isKey]

end OrderedMap

namespace GameState

/-- The state without some timed effects and without their flags. -/
def shedAll (state : GameState) (effects : List TimedEffect) : GameState :=
  effects.foldl (fun state effect => state.shed effect.key) state

/-- The state without the timed effects of some keys and without their flags. -/
def withoutEffects (state : GameState) (keys : List String) : GameState :=
  { state with
    timedEffects := state.timedEffects.without keys, flags := state.flags.without keys }

theorem shedAll_eq (state : GameState) (effects : List TimedEffect) :
    state.shedAll effects = state.withoutEffects (effects.map TimedEffect.key) := by
  induction effects generalizing state with
  | nil => simp [shedAll, withoutEffects, OrderedMap.without_nil]
  | cons effect effects ih =>
    have rest : state.shedAll (effect :: effects) = (state.shed effect.key).shedAll effects := rfl
    rw [rest, ih, withoutEffects, shed, List.map_cons]
    dsimp only
    rw [OrderedMap.without_erase, OrderedMap.without_erase]
    rfl

theorem size_shedAll_le (state : GameState) (effects : List TimedEffect) :
    (state.shedAll effects).timedEffects.size ≤ state.timedEffects.size := by
  rw [shedAll_eq]
  exact List.length_filter_le _ _

/-- States with one document hold equally many timed effects. -/
theorem size_of_toDocument_eq {state other : GameState} (h : state.toDocument = other.toDocument) :
    state.timedEffects.size = other.timedEffects.size := by
  unfold toDocument at h
  injection h with fields
  simp only [List.cons.injEq, Prod.mk.injEq, Document.object.injEq, true_and] at fields
  have entries := congrArg List.length fields.2.2.2.2.2.2.2.2.2.1
  rw [List.length_map, List.length_map] at entries
  exact entries

end GameState

namespace TimedEffect

/-- Takes effects away one after another. -/
theorem outcome_lapseAll {effects : List TimedEffect} {stage stage' : Stage}
    (h : outcome (forIn effects PUnit.unit fun effect _ => do
      effect.lapse
      Action.publish effect.lapseEvent
      pure (ForInStep.yield PUnit.unit)) stage = (.ok PUnit.unit, stage')) :
    stage'.state = stage.state.shedAll effects ∧
      (effects ≠ [] → stage'.state.timedEffects.size < stage.state.timedEffects.size) := by
  induction effects generalizing stage with
  | nil =>
    cases h
    exact ⟨rfl, fun h => absurd rfl h⟩
  | cons effect effects ih =>
    rw [List.forIn_cons] at h
    obtain ⟨step, s₁, first, rest⟩ := ok_of_outcome_bind h
    obtain ⟨_, s₂, lapsed, announced⟩ := ok_of_outcome_bind first
    rw [outcome_lapse] at lapsed
    split at lapsed
    · rename_i held
      cases lapsed
      cases announced
      obtain ⟨state, -⟩ := ih rest
      refine ⟨state, fun _ => ?_⟩
      rw [state]
      exact Nat.lt_of_le_of_lt (GameState.size_shedAll_le _ _) (OrderedMap.size_erase_lt held)
    · cases lapsed

theorem state_of_expire {now : Instant} {stage stage' : Stage} {lapsed : List TimedEffect}
    (h : outcome (expire now) stage = (.ok lapsed, stage')) :
    lapsed = stage.state.lapsed now ∧ stage'.state = stage.state.shedAll lapsed ∧
      (stage'.state.toDocument = stage.state.toDocument ↔ lapsed = []) := by
  unfold expire at h
  rw [outcome_bind_of_ok (Action.outcome_state stage)] at h
  obtain ⟨_, s₁, taken, rest⟩ := ok_of_outcome_bind h
  cases rest
  obtain ⟨state, fewer⟩ := outcome_lapseAll taken
  refine ⟨rfl, state, ?_, ?_⟩
  · intro same
    by_cases none : stage.state.lapsed now = []
    · exact none
    · exact absurd (GameState.size_of_toDocument_eq same) (Nat.ne_of_lt (fewer none))
  · intro none
    rw [state, none]
    rfl

end TimedEffect

/-! ## Effects under their own keys -/

/-- Every curse and blessing is held under its own key. -/
def GameState.WellKeyed (state : GameState) : Prop :=
  ∀ entry ∈ state.timedEffects.entries, entry.1 = entry.2.key

def GameState.KeepsKeys (before after : GameState) : Prop :=
  before.WellKeyed → after.WellKeyed

instance : Std.Refl GameState.KeepsKeys :=
  ⟨fun _ held => held⟩

instance : Trans GameState.KeepsKeys GameState.KeepsKeys GameState.KeepsKeys :=
  ⟨fun h h' held => h' (h held)⟩

namespace GameState

variable {state : GameState}

theorem WellKeyed.insert (h : state.WellKeyed) (effect : TimedEffect) :
    WellKeyed { state with timedEffects := state.timedEffects.insert effect.key effect } := by
  intro entry mem
  rcases OrderedMap.mem_insert mem with rfl | mem
  · rfl
  · exact h entry mem

theorem WellKeyed.shed (h : state.WellKeyed) (key : String) : (state.shed key).WellKeyed :=
  fun entry mem => h entry (List.mem_filter.1 mem).1

/-- The keys of effects that are held under their own keys are distinct. -/
theorem WellKeyed.nodup_lapsed (h : state.WellKeyed) (now : Instant) :
    ((state.lapsed now).map TimedEffect.key).Nodup := by
  have own : state.timedEffects.values.map TimedEffect.key = state.timedEffects.keys := by
    unfold OrderedMap.values OrderedMap.keys
    rw [List.map_map]
    exact List.map_congr_left fun entry mem => (h entry mem).symm
  have sub : (state.lapsed now).Sublist state.timedEffects.values := List.filter_sublist
  have distinct : (state.timedEffects.values.map TimedEffect.key).Nodup := by
    rw [own]
    exact state.timedEffects.nodup
  exact distinct.sublist (sub.map TimedEffect.key)

theorem WellKeyed.contains_lapsed (h : state.WellKeyed) {now : Instant} :
    ∀ effect ∈ state.lapsed now, state.timedEffects.contains effect.key = true := by
  intro effect mem
  obtain ⟨entry, among, rfl⟩ := List.mem_map.1 (List.mem_filter.1 mem).1
  refine List.any_eq_true.2 ⟨entry, among, ?_⟩
  rw [h entry among, beq_self_eq_true]

theorem WellKeyed.effects_without_lapsed (h : state.WellKeyed) (now : Instant) :
    (state.timedEffects.without ((state.lapsed now).map TimedEffect.key)).entries =
      state.timedEffects.entries.filter (!·.2.isExpired now) :=
  OrderedMap.entries_without fun entry mem _ => h entry mem

theorem WellKeyed.lapsed_withoutEffects (h : state.WellKeyed) (now : Instant) :
    (state.withoutEffects ((state.lapsed now).map TimedEffect.key)).lapsed now = [] := by
  refine List.filter_eq_nil_iff.2 fun effect mem => ?_
  obtain ⟨entry, among, rfl⟩ := List.mem_map.1 mem
  have left : entry ∈ state.timedEffects.entries.filter (!·.2.isExpired now) := by
    rw [← h.effects_without_lapsed now]
    exact among
  simpa using (List.mem_filter.1 left).2

end GameState

/-! ## The sweep -/

namespace TimedEffect

/-- Effects with distinct keys that are all held are taken away one after another without fail. -/
theorem lapseAll_ends {effects : List TimedEffect} (distinct : (effects.map key).Nodup)
    {stage : Stage} (held : ∀ effect ∈ effects,
      stage.state.timedEffects.contains effect.key = true) :
    outcome (forIn effects PUnit.unit fun effect _ => do
      effect.lapse
      Action.publish effect.lapseEvent
      pure (ForInStep.yield PUnit.unit)) stage = (.ok PUnit.unit, { stage with
        state := stage.state.shedAll effects
        published := stage.published ++ effects.map fun effect => ⟨effect.lapseEvent, stage.now⟩ }) := by
  induction effects generalizing stage with
  | nil => rw [List.map_nil, List.append_nil]; rfl
  | cons effect effects ih =>
    obtain ⟨new, others⟩ := List.nodup_cons.1 distinct
    have lapsed : outcome effect.lapse stage =
        (.ok (), { stage with state := stage.state.shed effect.key }) := by
      rw [outcome_lapse, if_pos (held effect (by simp))]
    have still : ∀ other ∈ effects,
        (stage.state.shed effect.key).timedEffects.contains other.key = true := by
      intro other mem
      obtain ⟨entry, among, isKey⟩ :=
        List.any_eq_true.1 (held other (List.mem_cons_of_mem effect mem))
      refine List.any_eq_true.2 ⟨entry, List.mem_filter.2 ⟨among, ?_⟩, isKey⟩
      have different : entry.1 ≠ effect.key := by
        rw [beq_iff_eq.1 isKey]
        exact fun same => new (List.mem_map.2 ⟨other, mem, same⟩)
      exact bne_iff_ne.2 different
    rw [List.forIn_cons, outcome_bind, outcome_bind_of_ok lapsed, List.map_cons, List.append_cons]
    exact ih others still

theorem expire_ends {stage : Stage} (h : stage.state.WellKeyed) (now : Instant) :
    outcome (expire now) stage = (.ok (stage.state.lapsed now), { stage with
      state := stage.state.withoutEffects ((stage.state.lapsed now).map key)
      published := stage.published ++
        (stage.state.lapsed now).map fun effect => ⟨effect.lapseEvent, stage.now⟩ }) := by
  unfold expire
  rw [outcome_bind_of_ok (Action.outcome_state stage),
    outcome_bind_of_ok (lapseAll_ends (h.nodup_lapsed now) h.contains_lapsed), GameState.shedAll_eq]
  rfl

theorem expire_of_none {stage : Stage} {now : Instant} (none : stage.state.lapsed now = []) :
    outcome (expire now) stage = (.ok [], stage) := by
  unfold expire
  rw [outcome_bind_of_ok (Action.outcome_state stage), none]
  rfl

/-- A sweep of effects that are held under their own keys does not fail. -/
theorem expire_returns {stage : Stage} (h : stage.state.WellKeyed) (now : Instant) :
    ∃ lapsed stage', outcome (expire now) stage = (.ok lapsed, stage') :=
  ⟨_, _, expire_ends h now⟩

/-- Where nobody answers, a sweep takes the curses and blessings that have lapsed, with their flags,
and nothing else; it announces each and hands them back, in their order.  At the same moment there is
nothing left to sweep. -/
theorem expire_takes_lapsed {stage : Stage} (h : stage.state.WellKeyed) (now : Instant) :
    ∃ (effects : OrderedMap TimedEffect) (flags : Flags),
      let lapsed := (stage.state.timedEffects.entries.filter (·.2.isExpired now)).map Prod.snd
      let swept : Stage := { stage with
        state := { stage.state with timedEffects := effects, flags }
        published := stage.published ++ lapsed.map fun effect => ⟨effect.lapseEvent, stage.now⟩ }
      effects.entries = stage.state.timedEffects.entries.filter (!·.2.isExpired now) ∧
      flags.entries =
        stage.state.flags.entries.filter (fun entry => decide (entry.1 ∉ lapsed.map key)) ∧
      outcome (expire now) stage = (.ok lapsed, swept) ∧
      outcome (expire now) swept = (.ok [], swept) := by
  have isLapsed : (stage.state.timedEffects.entries.filter (·.2.isExpired now)).map Prod.snd =
      stage.state.lapsed now := by
    rw [GameState.lapsed, OrderedMap.values, List.filter_map]
    rfl
  refine ⟨stage.state.timedEffects.without ((stage.state.lapsed now).map key),
    stage.state.flags.without ((stage.state.lapsed now).map key), ?_⟩
  dsimp only
  rw [isLapsed]
  exact ⟨h.effects_without_lapsed now, rfl, expire_ends h now,
    expire_of_none (h.lapsed_withoutEffects now)⟩

/-- Two of three have run out. -/
def hexed : Stage where
  now := 1000
  state := { GameState.starting 0.0 "play" "tale" "hall" "Ada" {} with
    flags := .ofEntries [("curse_hex", .bool true), ("lamp", .bool true),
      ("blessing_luck", .bool true), ("curse_mute", .bool true)]
    timedEffects := .ofEntries [
      ("curse_hex", { kind := "curse", type := "hex", startTime := 900, duration := 60 }),
      ("blessing_luck", { kind := "blessing", type := "luck", startTime := 900, duration := 600 }),
      ("curse_mute", { kind := "curse", type := "mute", startTime := 400, duration := 600 })] }

theorem hexed_left_with_luck :
    hexed.state.WellKeyed ∧
      ∃ lapsed stage', outcome (expire 1000) hexed = (.ok lapsed, stage') ∧
        lapsed.map key = ["curse_hex", "curse_mute"] ∧
        stage'.state.timedEffects.keys = ["blessing_luck"] ∧
        stage'.state.flags.keys = ["lamp", "blessing_luck"] ∧
        outcome (expire 1000) stage' = (.ok [], stage') := by
  have keyed : hexed.state.WellKeyed := by
    unfold GameState.WellKeyed
    decide +kernel
  obtain ⟨effects, flags, left, shown, ends, again⟩ := expire_takes_lapsed keyed 1000
  refine ⟨keyed, _, _, ends, by decide +kernel, ?_, ?_, again⟩
  · change effects.entries.map Prod.fst = _
    rw [left]
    decide +kernel
  · change flags.entries.map Prod.fst = _
    rw [shown]
    decide +kernel

theorem expire_keepsKeys (now : Instant) : Moving GameState.KeepsKeys (expire now) := by
  have lapses : ∀ effect : TimedEffect, Moving GameState.KeepsKeys effect.lapse := by
    intro effect stage held
    rw [after, outcome_lapse]
    split
    · exact held.shed effect.key
    · exact held
  refine .bind Action.moving_state fun state => ?_
  refine .bind (.forIn _ _ fun effect _ _ => ?_) fun _ => .pure _
  exact .bind (lapses effect) fun _ => .bind (Action.moving_publish _) fun _ => .pure _

end TimedEffect

/-! ## Bundles -/

theorem CustomEffect.apply_keepsKeys (custom : CustomEffect) :
    Moving GameState.KeepsKeys custom.apply :=
  apply_moving (fun _ _ _ _ held => held) fun _ effect _ held => held.insert effect

theorem Effect.parts_keepKeys (effect : Effect) :
    ∀ part ∈ effect.parts, Moving GameState.KeepsKeys part := by
  have holds : ∀ (state : GameState) items, state.KeepsKeys (state.holding items) :=
    fun _ _ held => held
  exact forall_mem_parts effect (applyHealth_moving fun _ _ held => held)
    (applyMana_moving fun _ _ held => held)
    (applyGold_moving fun _ _ held => held)
    (applyExperience_moving (fun _ _ held => held) fun _ _ _ _ _ held => held)
    (fun _ => applyAttributes_moving fun _ held => held) (applyFlags_moving fun _ held => held)
    (applyAddItems_moving_of (Inventory.addItems_moving holds _))
    (applyRemoveItems_moving_of (Inventory.removeItems_moving holds _))
    (fun _ => applyRelationships_moving fun _ _ _ _ _ held => held) applySound_moving
    applyMusic_moving
    (fun custom _ => custom.apply_keepsKeys) applyEvents_moving

theorem Effect.process_keepsKeys (effect : Effect) :
    Moving GameState.KeepsKeys effect.process :=
  process_moving effect.parts_keepKeys fun _ _ held => held

/-! ## Items -/

namespace Inventory

open InteractiveFiction.Action

theorem equip_keepsKeys (id slot : Document) : Moving GameState.KeepsKeys (equip id slot) := by
  have holds : ∀ (state : GameState) items, state.KeepsKeys (state.holding items) :=
    fun _ _ held => held
  unfold equip
  refine .bind moving_state fun state => ?_
  split
  · exact .throw _
  · refine .bind (takeItem_moving holds _ _) fun _ => .bind (moving_lift _) fun _ => ?_
    refine .bind moving_state fun state => .bind (moving_modifyState fun _ held => held) fun _ => ?_
    dsimp only
    split
    · exact .bind (insertItem_moving holds _) fun _ => .pure _
    · exact .pure _

theorem useItem_keepsKeys (id : Document) : Moving GameState.KeepsKeys (useItem id) := by
  have wears : ∀ (item : Item) message slot, Moving GameState.KeepsKeys (item.wear message slot) :=
    fun item message slot => .bind (equip_keepsKeys _ _) fun _ => .pure _
  have uses : ∀ item : Item, Moving GameState.KeepsKeys item.useByType := by
    intro item
    unfold Item.useByType
    dsimp only
    split
    · exact .bind (moving_lift _) fun _ => moving_lift _
    · exact .bind (moving_lift _) fun _ => moving_lift _
    · exact wears _ _ _
    · exact .bind (moving_lift _) fun _ => wears _ _ _
    · exact .bind (moving_lift _) fun _ => .pure _
    · exact .bind (moving_lift _) fun _ => .pure _
    · exact .bind (moving_lift _) fun _ => moving_lift _
    · exact .bind (moving_lift _) fun _ => .bind moving_state fun _ => moving_lift _
    · exact .bind (moving_lift _) fun _ => .pure _
  unfold useItem
  refine .bind moving_state fun state => ?_
  split
  · exact .pure _
  · rename_i item _
    refine .bind (uses item) fun use => .bind (moving_lift _) fun fields => ?_
    have announces : ∀ consumed, Moving GameState.KeepsKeys (do
        Action.publish (.itemUsed item.id use.success use.message)
        pure { use with consumed }) :=
      fun consumed => .bind (moving_publish _) fun _ => .pure _
    dsimp only
    split
    · exact .bind (takeItem_moving (fun _ _ held => held) _ _) fun _ => announces _
    · exact announces _

end Inventory

end InteractiveFiction
