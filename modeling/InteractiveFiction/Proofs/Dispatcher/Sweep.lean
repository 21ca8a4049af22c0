import InteractiveFiction.Proofs.Dispatcher.Replay
import InteractiveFiction.Proofs.Effect.Casting

/-!
The sweep of curses and blessings among triggers.

What has lapsed is listed first.  Each effect on the list is then taken away by its key, and whatever
triggers submit when they hear of it is applied before it is the turn of the next one.  So an effect
on the list may find under its key what was cast after the list was made.

* `Lapse`, `Dispatcher.sweep`: one effect on the list, and all of them in turn.
* `Lapse.cast`: what the bundles cast that were applied when the effect was announced.
* `Lapse.renewed`: what was cast last under a key in some lapses and was not taken away in them.
* `Dispatcher.sweep_spares_iff`: exactly what is so renewed under the key of an effect whose turn is
  still to come is taken away, lapsed or not.
-/

set_option autoImplicit false

namespace InteractiveFiction

open Course

open TimedEffect (lastOf)

/-! ## One effect after another -/

/-- An effect of a sweep, with the dispatcher before it was taken away and after it was announced. -/
structure Lapse where
  effect : TimedEffect
  first : Dispatcher
  last : Dispatcher

namespace Lapse

/-- The stage on which the effect was taken away and not announced yet. -/
def stage (lapse : Lapse) : Stage :=
  after lapse.effect.lapse lapse.first.stage

/-- What was noted while the effect was announced. -/
def entries (lapse : Lapse) : Journal :=
  lapse.last.journal.drop lapse.first.journal.length

/-- What bundles cast while the effect was announced. -/
def cast (lapse : Lapse) : List TimedEffect :=
  Batch.cast lapse.entries.handled lapse.stage.silent

/-- What is found under a key after some lapses. -/
def holding (key : String) (found : Option TimedEffect) (lapses : List Lapse) :
    Option TimedEffect :=
  lapses.foldl (fun found lapse =>
    (lastOf key lapse.cast).or (if lapse.effect.key = key then none else found)) found

/-- What was cast last under a key in some lapses, if it was not taken away in them. -/
def renewed (key : String) (lapses : List Lapse) : Option TimedEffect :=
  holding key none lapses

/-- Taking the effect away leaves what bundles cast earlier in the sweep and what has not lapsed, and
the flag of it. -/
def Spares (now : Instant) (earlier : List Lapse) (lapse : Lapse) : Prop :=
  ∀ cast ∈ earlier.flatMap Lapse.cast, cast.isExpired now = false →
    lapse.first.stage.state.timedEffects.get? cast.key = some cast →
      lapse.stage.state.timedEffects.get? cast.key = some cast ∧
        (lapse.first.stage.state.flags.contains cast.key = true →
          lapse.stage.state.flags.contains cast.key = true)

end Lapse

namespace Dispatcher

def announceLapse (effect : TimedEffect) : Dispatching Unit :=
  announce submit do
    effect.lapse
    Action.publish effect.lapseEvent

def lapses : List TimedEffect → Dispatcher → List Lapse
  | [], _ => []
  | effect :: effects, dispatcher =>
    if dispatcher.stage.state.timedEffects.contains effect.key then
      let next := after (announceLapse effect) dispatcher
      ⟨effect, dispatcher, next⟩ :: lapses effects next
    else []

/-- The effects that a sweep takes away, in turn. -/
def sweep (now : Instant) (dispatcher : Dispatcher) : List Lapse :=
  dispatcher.lapses (dispatcher.stage.state.lapsed now)

/-! ## What bundles do that are submitted meanwhile -/

/-- Whether a bundle is being applied or not: in the first case what is submitted waits. -/
theorem hear_plays (record : EventRecord) (first : Dispatcher) :
    ∃ last entries, outcome (hear submit record) first = (.ok (), last) ∧
      last.journal = first.journal ++ entries ∧
      last.stage.silent = (Batch.play entries.handled first.stage.silent).silent := by
  have grows : ∀ submission first, Evolving 1 first (after (submit submission) first) := by
    intro submission first
    obtain ⟨entries, evolves, -⟩ := submit_evolves submission first
    exact ⟨entries, evolves⟩
  obtain ⟨heard, ⟨entries, evolves⟩, ends⟩ := hear_ends grows record first
  cases applying : first.applying with
  | true =>
    have waits := evolves.waits applying
    refine ⟨_, entries, ends, evolves.journal, ?_⟩
    rw [waits.quiet.handled]
    exact waits.stage
  | false =>
    obtain ⟨entries, replays⟩ := hear_replays submit_replays record first applying
    rw [after, ends] at replays
    exact ⟨_, entries, ends, replays.journal, replays.stage⟩

end Dispatcher

/-! ## One lapse -/

/-- An effect was held when its turn came, and was taken away and announced. -/
structure Lapse.Happens (lapse : Lapse) : Prop where
  held : lapse.first.stage.state.timedEffects.contains lapse.effect.key = true
  announced : outcome (Dispatcher.announceLapse lapse.effect) lapse.first = (.ok (), lapse.last)

namespace Lapse

variable {lapse : Lapse}

theorem Happens.stage_eq (h : lapse.Happens) :
    lapse.stage = { lapse.first.stage with
      state := lapse.first.stage.state.shed lapse.effect.key } := by
  rw [Lapse.stage, after, TimedEffect.outcome_lapse, if_pos h.held]

end Lapse

namespace Dispatcher

theorem announceLapse_of_gone {effect : TimedEffect} {first : Dispatcher}
    (gone : ¬ first.stage.state.timedEffects.contains effect.key = true) :
    outcome (announceLapse effect) first = (.error (.missingKey effect.key), first) := by
  have lapses : outcome effect.lapse first.stage.silent =
      (.error (.missingKey effect.key), first.stage.silent) :=
    (effect.outcome_lapse first.stage.silent).trans (if_neg gone)
  rw [announceLapse, announce, outcome_bind_of_ok (outcome_act first _), result, after,
    outcome_bind_of_error lapses]
  rfl

theorem announceLapse_of_held {effect : TimedEffect} {first : Dispatcher}
    (held : first.stage.state.timedEffects.contains effect.key = true) :
    ∃ last, Lapse.Happens ⟨effect, first, last⟩ ∧
      GameState.Casts (Lapse.cast ⟨effect, first, last⟩) (first.stage.state.shed effect.key)
        last.stage.state := by
  let bereft : Dispatcher :=
    { first with stage := { first.stage with state := first.stage.state.shed effect.key } }
  obtain ⟨last, entries, hears, journal, plays⟩ :=
    hear_plays ⟨effect.lapseEvent, first.stage.now⟩ bereft
  have lapses : outcome effect.lapse first.stage.silent = (.ok (), bereft.stage.silent) :=
    (effect.outcome_lapse first.stage.silent).trans (if_pos held)
  have hearsAll : outcome (hearAll submit [⟨effect.lapseEvent, first.stage.now⟩]) bereft =
      (.ok (), last) := by
    rw [hearAll, List.forIn_cons, outcome_bind, outcome_bind, outcome_bind, hears]
    rfl
  have announces : outcome (announceLapse effect) first = (.ok (), last) := by
    rw [announceLapse, announce, outcome_bind_of_ok (outcome_act first _), result, after,
      outcome_bind_of_ok lapses]
    exact outcome_bind_of_ok hearsAll _
  have happens : Lapse.Happens ⟨effect, first, last⟩ := ⟨held, announces⟩
  have noted : Lapse.entries ⟨effect, first, last⟩ = entries := by
    rw [Lapse.entries, journal]
    exact List.drop_left
  have left := congrArg Stage.state plays
  refine ⟨last, happens, ?_⟩
  rw [Lapse.cast, noted, happens.stage_eq]
  change GameState.Casts _ bereft.stage.silent.state last.stage.silent.state
  rw [left]
  exact Batch.play_casts entries.handled bereft.stage.silent

end Dispatcher

namespace Lapse

variable {lapse : Lapse}

theorem Happens.casts (h : lapse.Happens) :
    GameState.Casts lapse.cast (lapse.first.stage.state.shed lapse.effect.key)
      lapse.last.stage.state := by
  obtain ⟨last, again, casts⟩ := Dispatcher.announceLapse_of_held h.held
  have same : last = lapse.last := congrArg Prod.snd (again.announced.symm.trans h.announced)
  rwa [same] at casts

theorem Happens.found (h : lapse.Happens) (key : String) :
    lapse.last.stage.state.timedEffects.get? key = (lastOf key lapse.cast).or
      (if lapse.effect.key = key then none else lapse.first.stage.state.timedEffects.get? key) := by
  rw [h.casts.found, GameState.shed, OrderedMap.get?_erase]

theorem Happens.flagged (h : lapse.Happens) {key : String} {found : Option TimedEffect}
    (known : found.isSome = true → lapse.first.stage.state.flags.contains key = true)
    (left : ((lastOf key lapse.cast).or
      (if lapse.effect.key = key then none else found)).isSome = true) :
    lapse.last.stage.state.flags.contains key = true := by
  rw [Option.isSome_or, Bool.or_eq_true] at left
  rcases left with isCast | isLeft
  · exact h.casts.flagged key isCast
  · by_cases own : lapse.effect.key = key
    · rw [if_pos own] at isLeft
      cases isLeft
    · rw [if_neg own] at isLeft
      exact h.casts.keeps key (OrderedMap.contains_erase (known isLeft) (Ne.symm own))

/-! ## What is found after some lapses -/

/-- Something is done under a key. -/
def Touches (key : String) (lapse : Lapse) : Prop :=
  (lastOf key lapse.cast).isSome = true ∨ lapse.effect.key = key

/-- Where something is done under a key it does not matter what was found there before. -/
theorem holding_of_touched {key : String} {lapses : List Lapse}
    (touched : ∃ lapse ∈ lapses, lapse.Touches key) (found : Option TimedEffect) :
    holding key found lapses = renewed key lapses := by
  have same : ∀ found found', holding key found lapses = holding key found' lapses := by
    induction lapses with
    | nil =>
      obtain ⟨lapse, none, -⟩ := touched
      cases none
    | cons lapse lapses ih =>
      intro found found'
      obtain ⟨toucher, among, touches⟩ := touched
      rcases List.mem_cons.1 among with rfl | among
      · have step : ∀ found, (lastOf key toucher.cast).or
            (if toucher.effect.key = key then none else found) = lastOf key toucher.cast := by
          intro found
          rcases touches with isCast | own
          · exact Option.or_of_isSome isCast
          · rw [if_pos own, Option.or_none]
        rw [holding, List.foldl_cons, step, holding, List.foldl_cons, step]
      · exact ih ⟨toucher, among, touches⟩ _ _
  exact same found none

theorem holding_of_untouched {key : String} {lapses : List Lapse}
    (untouched : ∀ lapse ∈ lapses, ¬ lapse.Touches key) (found : Option TimedEffect) :
    holding key found lapses = found := by
  induction lapses with
  | nil => rfl
  | cons lapse lapses ih =>
    obtain ⟨own, others⟩ := List.forall_mem_cons.1 untouched
    obtain ⟨noCast, other⟩ := not_or.1 own
    have stays : (lastOf key lapse.cast).or (if lapse.effect.key = key then none else found) =
        found := by
      rw [if_neg other, Option.not_isSome_iff_eq_none.1 noCast, Option.none_or]
    rw [holding, List.foldl_cons, stays]
    exact ih others

theorem holding_of_renewed {key : String} {lapses : List Lapse} {effect : TimedEffect}
    (h : renewed key lapses = some effect) (found : Option TimedEffect) :
    holding key found lapses = some effect := by
  by_cases touched : ∃ lapse ∈ lapses, lapse.Touches key
  · rw [holding_of_touched touched, h]
  · have untouched : ∀ lapse ∈ lapses, ¬ lapse.Touches key := fun lapse among touches =>
      touched ⟨lapse, among, touches⟩
    rw [renewed, holding_of_untouched untouched] at h
    cases h

/-- What is renewed was cast. -/
theorem cast_of_renewed {key : String} {lapses : List Lapse} {effect : TimedEffect}
    (h : renewed key lapses = some effect) :
    effect ∈ lapses.flatMap Lapse.cast ∧ effect.key = key := by
  have cast : ∀ found : Option TimedEffect, holding key found lapses = some effect →
      found = some effect ∨ effect ∈ lapses.flatMap Lapse.cast ∧ effect.key = key := by
    clear h
    induction lapses with
    | nil => exact fun found same => .inl same
    | cons lapse lapses ih =>
      intro found last
      rcases ih _ last with own | ⟨among, isKey⟩
      · rcases Option.or_eq_some_iff.1 own with isLast | ⟨-, before⟩
        · obtain ⟨among, isKey⟩ := TimedEffect.lastOf_eq_some isLast
          exact .inr ⟨List.mem_flatMap.2 ⟨lapse, by simp, among⟩, isKey⟩
        · split at before
          · cases before
          · exact .inl before
      · refine .inr ⟨?_, isKey⟩
        rw [List.flatMap_cons]
        exact List.mem_append_right _ among
  exact (cast none h).resolve_left (by simp)

end Lapse

/-! ## All of them in turn -/

namespace Dispatcher

/-- Where lapses lead, one after another. -/
def through (first : Dispatcher) (lapses : List Lapse) : Dispatcher :=
  lapses.foldl (fun _ lapse => lapse.last) first

/-- Lapses that happen one after another. -/
def Sweeps : Dispatcher → List Lapse → Prop
  | _, [] => True
  | first, lapse :: lapses => lapse.first = first ∧ lapse.Happens ∧ Sweeps lapse.last lapses

theorem sweeps_append {first : Dispatcher} {earlier later : List Lapse} :
    first.Sweeps (earlier ++ later) ↔ first.Sweeps earlier ∧ (first.through earlier).Sweeps later := by
  induction earlier generalizing first with
  | nil => simp [Sweeps, through]
  | cons lapse earlier ih =>
    have rest : lapse.last.Sweeps (earlier ++ later) ↔
        lapse.last.Sweeps earlier ∧ (lapse.last.through earlier).Sweeps later := ih
    simp only [List.cons_append, Sweeps, rest, and_assoc]
    rfl

namespace Sweeps

variable {first : Dispatcher} {lapses : List Lapse}

theorem found (h : first.Sweeps lapses) (key : String) :
    (first.through lapses).stage.state.timedEffects.get? key =
      Lapse.holding key (first.stage.state.timedEffects.get? key) lapses := by
  induction lapses generalizing first with
  | nil => rfl
  | cons lapse lapses ih =>
    obtain ⟨rfl, happens, rest⟩ := h
    rw [Lapse.holding, List.foldl_cons, ← happens.found]
    exact ih rest

theorem flagged (h : first.Sweeps lapses) {key : String} {found : Option TimedEffect}
    (known : found.isSome = true → first.stage.state.flags.contains key = true)
    (left : (Lapse.holding key found lapses).isSome = true) :
    (first.through lapses).stage.state.flags.contains key = true := by
  induction lapses generalizing first found with
  | nil => exact known left
  | cons lapse lapses ih =>
    obtain ⟨rfl, happens, rest⟩ := h
    exact ih rest (happens.flagged known) left

/-- What was renewed is held, with its flag. -/
theorem holds_renewed (h : first.Sweeps lapses) {key : String} {effect : TimedEffect}
    (renewed : Lapse.renewed key lapses = some effect) :
    (first.through lapses).stage.state.timedEffects.get? key = some effect ∧
      (first.through lapses).stage.state.flags.contains key = true := by
  have isHeld : (Lapse.holding key none lapses).isSome = true := Option.isSome_of_eq_some renewed
  exact ⟨by rw [h.found, Lapse.holding_of_renewed renewed], h.flagged (by simp) isHeld⟩

end Sweeps

/-- A sweep takes away its effects in turn, all of them unless it fails. -/
theorem sweeps_lapses (effects : List TimedEffect) (first : Dispatcher) :
    first.Sweeps (first.lapses effects) ∧
      ∃ r, outcome (forIn effects PUnit.unit fun effect _ => do
        announceLapse effect
        pure (ForInStep.yield PUnit.unit)) first = (r, first.through (first.lapses effects)) ∧
        (r.toOption.isSome = true → (first.lapses effects).map Lapse.effect = effects) := by
  induction effects generalizing first with
  | nil => exact ⟨trivial, .ok PUnit.unit, rfl, fun _ => rfl⟩
  | cons effect effects ih =>
    by_cases held : first.stage.state.timedEffects.contains effect.key = true
    · obtain ⟨last, happens, -⟩ := announceLapse_of_held held
      have next : after (announceLapse effect) first = last := by
        rw [after, happens.announced]
      have taken : first.lapses (effect :: effects) =
          ⟨effect, first, last⟩ :: last.lapses effects := by
        rw [lapses, if_pos held, next]
      obtain ⟨sweeps, r, ends, all⟩ := ih last
      rw [taken]
      refine ⟨⟨rfl, happens, sweeps⟩, r, ?_, fun returns => ?_⟩
      · rw [List.forIn_cons, outcome_bind, outcome_bind_of_ok happens.announced]
        exact ends
      · rw [List.map_cons, all returns]
    · have none : first.lapses (effect :: effects) = [] := by
        rw [lapses, if_neg held]
      rw [none]
      refine ⟨trivial, .error (.missingKey effect.key), ?_, by simp [Except.toOption]⟩
      rw [List.forIn_cons, outcome_bind, outcome_bind_of_error (announceLapse_of_gone held)]
      rfl

variable {first : Dispatcher} {now : Instant}

/-- An effect spares what was cast before its turn exactly if that has lapsed or is under other
keys. -/
theorem Sweeps.spares_iff {earlier : List Lapse} {lapse : Lapse}
    (h : first.Sweeps (earlier ++ [lapse])) :
    lapse.Spares now earlier ↔ ∀ renewed, Lapse.renewed lapse.effect.key earlier = some renewed →
      renewed.isExpired now = true := by
  obtain ⟨before, own, happens, -⟩ := sweeps_append.1 h
  have found := before.found
  rw [← own] at found
  constructor
  · intro spares renewed isRenewed
    obtain ⟨among, isKey⟩ := Lapse.cast_of_renewed isRenewed
    by_contra lasts
    have held : lapse.first.stage.state.timedEffects.get? renewed.key = some renewed := by
      rw [isKey, found, Lapse.holding_of_renewed isRenewed]
    have left := (spares renewed among (Bool.eq_false_iff.2 lasts) held).1
    rw [happens.stage_eq] at left
    dsimp only [GameState.shed] at left
    rw [OrderedMap.get?_erase, if_pos isKey.symm] at left
    cases left
  · intro lapsed cast among lasts held
    have other : cast.key ≠ lapse.effect.key := by
      intro isKey
      obtain ⟨caster, casting, own⟩ := List.mem_flatMap.1 among
      have touched : ∃ lapse ∈ earlier, lapse.Touches cast.key :=
        ⟨caster, casting, .inl (TimedEffect.lastOf_isSome own)⟩
      rw [found, Lapse.holding_of_touched touched, isKey] at held
      rw [lapsed cast held] at lasts
      cases lasts
    rw [happens.stage_eq]
    refine ⟨?_, fun flagged => OrderedMap.contains_erase flagged other⟩
    dsimp only [GameState.shed]
    rw [OrderedMap.get?_erase, if_neg (Ne.symm other), held]

/-- A sweep takes away in turn what had lapsed when it began.  It spares all that is cast meanwhile
and has not lapsed exactly if none of its effects finds such a thing under its own key when its turn
comes; what was cast last under a key and not taken away again is held at the end, with its flag. -/
theorem sweep_spares_iff (first : Dispatcher) (now : Instant) :
    (∃ r, outcome (expire now) first = (r, first.through (first.sweep now)) ∧
      ∀ lapsed, r = .ok lapsed → (first.sweep now).map Lapse.effect = lapsed) ∧
    ((∀ earlier lapse later, first.sweep now = earlier ++ lapse :: later →
        lapse.Spares now earlier) ↔
      ∀ earlier lapse later, first.sweep now = earlier ++ lapse :: later →
        ∀ renewed, Lapse.renewed lapse.effect.key earlier = some renewed →
          renewed.isExpired now = true) ∧
    ∀ key renewed, Lapse.renewed key (first.sweep now) = some renewed →
      (after (expire now) first).stage.state.timedEffects.get? key = some renewed ∧
        (after (expire now) first).stage.state.flags.contains key = true := by
  obtain ⟨sweeps, r, ends, all⟩ := sweeps_lapses (first.stage.state.lapsed now) first
  have expires : ∃ r', outcome (expire now) first = (r', first.through (first.sweep now)) ∧
      ∀ lapsed, r' = .ok lapsed → (first.sweep now).map Lapse.effect = lapsed := by
    unfold expire
    rw [outcome_bind_of_ok (outcome_get first)]
    cases r with
    | ok _ =>
      refine ⟨_, outcome_bind_of_ok ends _, fun lapsed same => ?_⟩
      rw [← Except.ok.inj same]
      exact all rfl
    | error fault => exact ⟨.error fault, outcome_bind_of_error ends _, fun _ failed => nomatch failed⟩
  refine ⟨expires, ?_, fun key renewed isRenewed => ?_⟩
  · refine forall_congr' fun earlier => forall_congr' fun lapse => forall_congr' fun later =>
      forall_congr' fun split => Sweeps.spares_iff (?_ : first.Sweeps (earlier ++ [lapse]))
    have whole : first.Sweeps (earlier ++ [lapse] ++ later) := by
      rw [List.append_assoc, List.singleton_append, ← split]
      exact sweeps
    exact (sweeps_append.1 whole).1
  · obtain ⟨r', ends', -⟩ := expires
    rw [after, ends']
    exact sweeps.holds_renewed isRenewed

/-! ### Luck renewed in vain -/

def luck (startTime : Instant) (duration : Float) : TimedEffect :=
  { kind := "blessing", type := "luck", startTime, duration }

/-- A curse has run out and so has a blessing, which whoever hears of that renews at once. -/
def unlucky : Dispatcher where
  stage := {
    now := 1000
    state := { GameState.starting 0.0 "play" "tale" "hut" "Player" {} with
      flags := .ofEntries [("curse_hex", .bool true), ("blessing_luck", .bool true)]
      timedEffects := .ofEntries [
        ("curse_hex", { kind := "curse", type := "hex", startTime := 900, duration := 60 }),
        ("blessing_luck", luck 900 60)] } }
  triggers := [{
    event := "timedEffectExpired"
    effect := Document.object [("custom", .list [.object
      [("type", "blessing"), ("blessingType", "luck"), ("duration", .float 600)]])] }]

theorem luck_lost_in_sweep :
    (∃ earlier lapse later, unlucky.sweep 1000 = earlier ++ lapse :: later ∧
      ¬ lapse.Spares 1000 earlier) ∧
    (after (expire 1000) unlucky).stage.state.timedEffects.contains "blessing_luck" = false ∧
    (after (expire 1000) unlucky).stage.state.flags.contains "blessing_luck" = false := by
  have two : (unlucky.sweep 1000).length = 2 := by decide +kernel
  have cast : (unlucky.sweep 1000).map Lapse.cast = [[luck 1000 600], []] := by
    decide +kernel
  have held : (unlucky.sweep 1000).map (·.first.stage.state.timedEffects.get? "blessing_luck") =
      [some (luck 900 60), some (luck 1000 600)] := by decide +kernel
  have left : (unlucky.sweep 1000).map (·.stage.state.timedEffects.get? "blessing_luck") =
      [some (luck 900 60), none] := by decide +kernel
  obtain ⟨hexed, lucky, taken⟩ := List.length_eq_two.1 two
  rw [taken] at cast held left
  simp only [List.map_cons, List.map_nil, List.cons.injEq, and_true] at cast held left
  refine ⟨⟨[hexed], lucky, [], taken, fun spares => ?_⟩, by decide +kernel, by decide +kernel⟩
  have among : luck 1000 600 ∈ [hexed].flatMap Lapse.cast := by simp [cast.1]
  have lost := (spares _ among (by decide +kernel) held.2).1
  have gone : lucky.stage.state.timedEffects.get? (luck 1000 600).key = none := left.2
  rw [gone] at lost
  cases lost

end Dispatcher

end InteractiveFiction
