import InteractiveFiction.Proofs.Effect.Headings
import InteractiveFiction.Proofs.Effect.Heedless
import InteractiveFiction.Proofs.Effect.Rereading
import Mathlib.Data.List.Sort
import Mathlib.Data.String.Basic

/-!
What a bundle gives and reports, whatever the order of its keys.

* `Effect.reports_of_process`: each outcome of a bundle is reported, then all of them together, and
  nothing else is.
* `Effect.ofDocument_of_perm`: a bundle is read the same from its fields in any order.
* `Effect.process_of_read`: the outcomes of a bundle that was read, their headings and their reports.
-/

set_option autoImplicit false

namespace InteractiveFiction

open Course

namespace Effect

/-! ## Reports -/

theorem reports_after_applyCue (type muted played : String) (enabled : Document) (cue : AudioCue)
    (call : AudioCall) (stage : Stage) :
    reports (after (applyCue type muted played enabled cue call) stage).published =
      reports stage.published := by
  obtain ⟨told, ends, -⟩ := applyCue_ends type muted played enabled cue call stage
  rw [after, ends]
  split <;> rfl

/-- No part makes a report of its own. -/
theorem reports_after_part (effect : Effect) (stage : Stage) : ∀ part ∈ effect.parts,
    reports (after part stage).published = reports stage.published := by
  have unreported : ∀ part : Action Outcome, Blind (Stage.Reported (reports stage.published)) part →
      reports (after part stage).published = reports stage.published :=
    fun part blind => (blind stage stage ⟨rfl, rfl⟩).2.reports
  refine forall_mem_parts_of_blind effect unreported (fun cue => ?_) fun cue => ?_
  · rw [applySound, after, outcome_bind_of_ok (Action.outcome_state stage)]
    exact reports_after_applyCue _ _ _ _ _ _ stage
  · rw [applyMusic, after, outcome_bind_of_ok (Action.outcome_state stage)]
    exact reports_after_applyCue _ _ _ _ _ _ stage

def reportOf (told : Outcome) : Event :=
  .effectProcessed told.toDocument

theorem reports_of_perform {part : Action Outcome}
    (unreported : ∀ stage, reports (after part stage).published = reports stage.published)
    {stage last : Stage} {told : Outcome} (ends : outcome (perform part) stage = (.ok told, last)) :
    reports last.published = reports stage.published ++ [reportOf told] := by
  obtain ⟨same, between, does, ends⟩ := ok_of_outcome_bind ends
  cases ends
  have left : after part stage = between := congrArg Prod.snd does
  rw [reports_publish_of_isReport rfl, ← left, unreported]
  rfl

theorem reports_of_performAll {parts : List (Action Outcome)}
    (unreported : ∀ part ∈ parts, ∀ stage,
      reports (after part stage).published = reports stage.published)
    {stage last : Stage} {outcomes : List Outcome}
    (ends : outcome (parts.mapM perform) stage = (.ok outcomes, last)) :
    reports last.published = reports stage.published ++ outcomes.map reportOf := by
  induction parts generalizing stage outcomes with
  | nil =>
    cases ends
    exact (List.append_nil _).symm
  | cons part parts ih =>
    rw [List.mapM_cons] at ends
    obtain ⟨told, between, one, ends⟩ := ok_of_outcome_bind ends
    obtain ⟨others, last', rest, ends⟩ := ok_of_outcome_bind ends
    cases ends
    have first := reports_of_perform (unreported part (by simp)) one
    have later := ih (fun other mem => unreported other (List.mem_cons_of_mem part mem)) rest
    rw [later, first, List.append_assoc, List.map_cons, List.singleton_append]

theorem reports_of_process {effect : Effect} {stage last : Stage} {outcomes : List Outcome}
    (ends : outcome effect.process stage = (.ok outcomes, last)) :
    reports last.published = reports stage.published ++ outcomes.map reportOf ++
      [.effectsProcessed (outcomes.map Outcome.toDocument) false] := by
  obtain ⟨told, applied, applies, ends⟩ := ok_of_outcome_bind ends
  have parts : ∀ part ∈ effect.parts, ∀ stage,
      reports (after part stage).published = reports stage.published :=
    fun part mem stage => reports_after_part effect stage part mem
  have performed := reports_of_performAll parts applies
  cases ends
  rw [reports_publish_of_isReport rfl, ← performed]

/-! ## The order of keys -/

theorem canonical_perm {fields fields' : Fields}
    (distinct : (fields.map fun entry => canonicalKey entry.1).Nodup)
    (perm : fields'.Perm fields) : (canonical fields').Perm (canonical fields) := by
  have distinct' := (perm.map fun entry => canonicalKey entry.1).nodup_iff.2 distinct
  rw [canonical_of_nodup distinct, canonical_of_nodup distinct']
  exact perm.map _

theorem sortTexts_perm {texts texts' : List String} (perm : texts'.Perm texts) :
    sortTexts texts' = sortTexts texts := by
  have sorted : ∀ texts : List String, (sortTexts texts).Pairwise (· ≤ ·) := by
    intro texts
    have pairwise : (sortTexts texts).Pairwise fun a b => decide (a ≤ b) = true :=
      List.pairwise_mergeSort
        (fun a b c ab bc => by simpa using le_trans (of_decide_eq_true ab) (of_decide_eq_true bc))
        (fun a b => by simpa using le_total a b) texts
    exact pairwise.imp fun before => of_decide_eq_true before
  have same : (sortTexts texts').Perm (sortTexts texts) :=
    (List.mergeSort_perm _ _).trans (perm.trans (List.mergeSort_perm _ _).symm)
  exact same.eq_of_pairwise' (sorted texts') (sorted texts)

/-- What is read of fields is read of what is found in them. -/
theorem ofFields_of_lookup {fields fields' : Fields}
    (same : ∀ key, List.lookup key fields' = List.lookup key fields) :
    ofFields fields' = ofFields fields := by
  have given : ∀ key default, Fields.getD fields' key default = Fields.getD fields key default := by
    intro key default
    rw [Fields.getD, Fields.getD, same]
  have givenOr : ∀ key default,
      Fields.getOr fields' key default = Fields.getOr fields key default := by
    intro key default
    rw [Fields.getOr, Fields.getOr, same]
  have ints : ∀ name, optionalInt fields' name = optionalInt fields name := by
    intro name
    rw [optionalInt, optionalInt, given]
  have cues : ∀ key, cue fields' key = cue fields key := by
    intro key
    rw [cue, cue, given]
  simp only [ofFields, ints, cues, givenOr]

/-- Where no two keys mean the same, their order does not matter. -/
theorem ofDocument_of_perm {fields fields' : Fields}
    (distinct : (fields.map fun entry => canonicalKey entry.1).Nodup)
    (perm : fields'.Perm fields) : ofDocument (.object fields') = ofDocument (.object fields) := by
  have canonicals := canonical_perm distinct perm
  have nodup : ((canonical fields).map Prod.fst).Nodup := by
    rw [canonical_of_nodup distinct, List.map_map]
    exact distinct
  have nodup' := (canonicals.map Prod.fst).nodup_iff.2 nodup
  have reads : ofFields (canonical fields') = ofFields (canonical fields) :=
    ofFields_of_lookup fun key =>
      OrderedMap.get?_of_perm (m := ⟨_, nodup'⟩) (n := ⟨_, nodup⟩) canonicals key
  have unknown := (canonicals.map Prod.fst).filter fun key => !knownKeys.contains key
  have filled : (Document.object fields').isTruthy = (Document.object fields).isTruthy := by
    rw [Document.isTruthy, Document.isTruthy, perm.isEmpty_eq]
  simp only [ofDocument, filled, reads, unknown.isEmpty_eq, sortTexts_perm unknown]

/-! ## Both together -/

/-- The outcomes of a bundle that was read come in the order of the categories, one for each in which
there is something and one for each custom effect; they are reported one by one in this order, and
then together; and from the same fields in any other order the same comes. -/
theorem process_of_read {d : Document} {effect : Effect} {issued issued' : Nat}
    {stage last : Stage} {outcomes : List Outcome}
    (read : outcome (ofDocument d) issued = (.ok effect, issued'))
    (ran : outcome effect.process stage = (.ok outcomes, last)) :
    outcomes.map Outcome.heading = effect.headings ∧
      reports last.published = reports stage.published ++ outcomes.map reportOf ++
        [.effectsProcessed (outcomes.map Outcome.toDocument) false] ∧
      ∀ fields fields' : Fields, d = .object fields →
        (fields.map fun entry => canonicalKey entry.1).Nodup → fields'.Perm fields →
        ∃ again, outcome (ofDocument (.object fields')) issued = (.ok again, issued') ∧
          outcome again.process stage = (.ok outcomes, last) := by
  refine ⟨?_, reports_of_process ran, ?_⟩
  · have given : result effect.process stage = .ok outcomes := congrArg Prod.fst ran
    exact (effect.process_headed stage trivial).2 outcomes given
  · rintro fields fields' rfl distinct perm
    rw [ofDocument_of_perm distinct perm]
    exact ⟨effect, read, ran⟩

/-- A bell that is rung, an owl that is summoned and gold, written from last to first. -/
def feast : Fields :=
  [("events", .list ["bell"]), ("custom", .list [.object [("type", "summon"), ("creature", "owl")]]),
    ("gold", .int 5)]

def hall : Stage where
  now := 0.0
  state := .starting 0.0 "play" "tale" "hall" "Ada" {}

theorem feast_reported :
    ∃ effect outcomes last, outcome (ofDocument (.object feast)) 0 = (.ok effect, 0) ∧
      outcome effect.process hall = (.ok outcomes, last) ∧
      outcomes.map Outcome.heading =
        [("gold", Document.null), ("custom", .text "summon"), ("events", .null)] ∧
      reports last.published = outcomes.map reportOf ++
        [.effectsProcessed (outcomes.map Outcome.toDocument) false] ∧
      ∃ again, outcome (ofDocument (.object feast.reverse)) 0 = (.ok again, 0) ∧
        outcome again.process hall = (.ok outcomes, last) := by
  let effect : Effect := {
    gold := some 5
    custom := [{ type := "summon", params := [("creature", "owl")] }]
    events := ["bell"] }
  have read : outcome (ofDocument (.object feast)) 0 = (.ok effect, 0) := rfl
  obtain ⟨outcomes, ran⟩ := ok_of_no_fault (by decide +kernel : fault? effect.process hall = none)
  obtain ⟨headings, reported, orders⟩ := process_of_read read ran
  have none : reports hall.published = [] := rfl
  rw [none, List.nil_append] at reported
  refine ⟨effect, outcomes, _, read, ran, headings, reported, ?_⟩
  exact orders feast feast.reverse rfl (by decide) (List.reverse_perm feast)

end Effect

end InteractiveFiction
