import Mathlib.Data.List.Chain
import InteractiveFiction.Effect.Journal
import InteractiveFiction.Proofs.Effect.Vitals

/-!
The moments of bundles that are applied one after another: the stages after each part of a bundle
and after each bundle.

* `Effect.moments`, `Batch.moments`: the moments of one bundle and of several.  A part that fails
  is the last one of its bundle, and the next bundle starts from what it left.
* `Batch.play`: the stage after several bundles.
* `Batch.moments_chain`: what relates the states before and after each part of each bundle relates
  each moment to the next; so from each to the next the player fares as one may
  (`Batch.moments_fare`).
-/

set_option autoImplicit false

namespace InteractiveFiction

open Course

/-- How a player may fare from one stage to another. -/
abbrev Stage.Fares (before after : Stage) : Prop :=
  before.state.Fares after.state

/-- Two chains meet where the first one ends. -/
theorem isChain_of_meet {α : Type} {rel : α → α → Prop} {first second : List α} {middle : α}
    (before : first.IsChain rel) (ends : first.getLast? = some middle)
    (after : (middle :: second).IsChain rel) : (first ++ second).IsChain rel := by
  cases second with
  | nil =>
    rw [List.append_nil]
    exact before
  | cons next second =>
    obtain ⟨step, rest⟩ := List.isChain_cons_cons.1 after
    refine before.append rest fun x isLast y isFirst => ?_
    rw [ends, Option.mem_some_iff] at isLast
    rw [List.head?_cons, Option.mem_some_iff] at isFirst
    rw [← isLast, ← isFirst]
    exact step

namespace Effect

/-! ## Parts -/

def passage : List (Action Outcome) → Stage → List Stage
  | [], _ => []
  | part :: parts, stage =>
    match outcome (perform part) stage with
    | (.ok _, next) => next :: passage parts next
    | (.error _, next) => [next]

theorem passage_chain {rel : GameState → GameState → Prop} {parts : List (Action Outcome)}
    (moves : ∀ part ∈ parts, Moving rel part) (stage : Stage) :
    (stage :: passage parts stage).IsChain (Stage.Relates rel) := by
  induction parts generalizing stage with
  | nil => exact .singleton stage
  | cons part parts ih =>
    have own := perform_moving (moves part (by simp)) stage
    rw [after] at own
    unfold passage
    rcases ends : outcome (perform part) stage with ⟨r, next⟩
    rw [ends] at own
    cases r with
    | ok outcome =>
      exact .cons_cons own (ih (fun part mem => moves part (List.mem_cons_of_mem _ mem)) next)
    | error fault => exact .cons_cons own (.singleton next)

theorem getLast?_passage (parts : List (Action Outcome)) (stage : Stage) :
    (stage :: passage parts stage).getLast? = some (after (parts.mapM perform) stage) := by
  induction parts generalizing stage with
  | nil => rfl
  | cons part parts ih =>
    unfold passage
    rw [List.mapM_cons, after]
    rcases ends : outcome (perform part) stage with ⟨r, next⟩
    cases r with
    | error fault =>
      rw [outcome_bind_of_error ends]
      rfl
    | ok outcome =>
      rw [outcome_bind_of_ok ends, List.getLast?_cons_cons, ih next, after, outcome_bind]
      rcases Course.outcome (parts.mapM perform) next with ⟨r', last⟩
      cases r' <;> rfl

/-! ## Bundles -/

/-- The stages that a bundle passes, the last one after it was closed or has failed. -/
def moments (effect : Effect) (stage : Stage) : List Stage :=
  passage effect.parts stage ++ [after effect.process stage]

/-- Closing a bundle does no more than touch the state. -/
theorem process_touches {rel : GameState → GameState → Prop} [Std.Refl rel]
    (touched : ∀ (state : GameState) now, rel state (state.touch now)) (effect : Effect)
    (stage : Stage) :
    Stage.Relates rel (after effect.apply stage) (after effect.process stage) := by
  rw [process, after, after, outcome_bind]
  rcases outcome effect.apply stage with ⟨r, applied⟩
  cases r with
  | ok outcomes => exact touched applied.state applied.now
  | error fault => exact Std.Refl.refl applied.state

theorem moments_chain {rel : GameState → GameState → Prop} [Std.Refl rel] {effect : Effect}
    (moves : ∀ part ∈ effect.parts, Moving rel part)
    (touched : ∀ (state : GameState) now, rel state (state.touch now)) (stage : Stage) :
    (stage :: effect.moments stage).IsChain (Stage.Relates rel) := by
  have parts := passage_chain moves stage
  have last := getLast?_passage effect.parts stage
  unfold moments
  exact isChain_of_meet parts last (.cons_cons (process_touches touched effect stage) (.singleton _))

theorem getLast?_moments (effect : Effect) (stage : Stage) :
    (stage :: effect.moments stage).getLast? = some (after effect.process stage) := by
  rw [moments, ← List.cons_append, List.getLast?_concat]

end Effect

/-! ## Several bundles -/

namespace Batch

def play (batches : List Batch) (stage : Stage) : Stage :=
  batches.foldl (fun stage batch => after batch.effect.process stage) stage

theorem play_append (batches batches' : List Batch) (stage : Stage) :
    play (batches ++ batches') stage = play batches' (play batches stage) :=
  List.foldl_append

def moments : List Batch → Stage → List Stage
  | [], _ => []
  | batch :: batches, stage =>
    batch.effect.moments stage ++ moments batches (after batch.effect.process stage)

theorem moments_chain {rel : GameState → GameState → Prop} [Std.Refl rel] {batches : List Batch}
    (moves : ∀ batch ∈ batches, ∀ part ∈ batch.effect.parts, Moving rel part)
    (touched : ∀ (state : GameState) now, rel state (state.touch now)) (stage : Stage) :
    (stage :: moments batches stage).IsChain (Stage.Relates rel) := by
  induction batches generalizing stage with
  | nil => exact .singleton stage
  | cons batch batches ih =>
    obtain ⟨own, others⟩ := List.forall_mem_cons.1 moves
    have chain := batch.effect.moments_chain own touched stage
    have ends := batch.effect.getLast?_moments stage
    exact isChain_of_meet chain ends (ih others (after batch.effect.process stage))

theorem moments_fare (batches : List Batch) (stage : Stage) :
    (stage :: moments batches stage).IsChain Stage.Fares :=
  moments_chain (fun batch _ => batch.effect.parts_fare)
    (fun state _ => { GameState.Fares.refl state with }) stage

theorem getLast?_moments (batches : List Batch) (stage : Stage) :
    (stage :: moments batches stage).getLast? = some (play batches stage) := by
  induction batches generalizing stage with
  | nil => rfl
  | cons batch batches ih =>
    have rest := ih (after batch.effect.process stage)
    rw [moments, play, List.foldl_cons, ← play, ← rest, ← List.cons_append, List.getLast?_append,
      batch.effect.getLast?_moments stage, List.getLast?_cons]
    cases (moments batches (after batch.effect.process stage)).getLast? <;> rfl

end Batch

end InteractiveFiction
