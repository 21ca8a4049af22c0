import InteractiveFiction.Proofs.Dispatcher.Submission

/-!
The order in which bundles are applied, and which of them are left waiting.

* `clean_submission_one_by_one`: where no bundle fails, each bundle that was submitted is applied once
  and in one piece, and the state is what the bundles make of it one after another.
* `applied_in_order_iff`: they are applied in the order of their submission exactly when none is
  submitted between two bundles while another waits, as when a bundle was applied and its closing
  event is heard.
* `waiting_after_submit_iff`: when a submission leaves bundles waiting.
-/

set_option autoImplicit false

namespace InteractiveFiction

open Course

/-! ## Bundles in one piece -/

/-- No part of a bundle was done between two parts of another one. -/
def Journal.Unmixed (journal : Journal) : Prop :=
  ∀ batch other, [batch, other, batch].Sublist (journal.performances.map Prod.fst) → other = batch

/-- Who did the parts, when each bundle was applied in one piece. -/
theorem eq_of_sublist_pieces {applications : List Application}
    (distinct : (applications.map Application.batch).Nodup) {batch other : Batch}
    (between : [batch, other, batch].Sublist
      ((applications.flatMap Application.performances).map Prod.fst)) : other = batch := by
  induction applications with
  | nil => simp at between
  | cons application applications ih =>
    rw [List.map_cons, List.nodup_cons] at distinct
    obtain ⟨alone, distinct⟩ := distinct
    have own : ∀ b ∈ application.performances.map Prod.fst, b = application.batch := by
      simp [Application.performances]
    have others : ∀ b ∈ (applications.flatMap Application.performances).map Prod.fst,
        b ≠ application.batch := by
      intro b mem same
      simp only [List.mem_map, List.mem_flatMap, Application.performances] at mem
      obtain ⟨part, ⟨later, mem, outcome, -, rfl⟩, rfl⟩ := mem
      exact alone (List.mem_map.2 ⟨later, mem, same⟩)
    rw [List.flatMap_cons, List.map_append, List.sublist_append_iff] at between
    obtain ⟨front, back, split, inOwn, inOthers⟩ := between
    have front_own : ∀ b ∈ front, b = application.batch := fun b mem => own b (inOwn.subset mem)
    have back_other : ∀ b ∈ back, b ≠ application.batch :=
      fun b mem => others b (inOthers.subset mem)
    -- the three parts lie in this piece or behind it; none of its bundle lies behind it
    rcases front with _ | ⟨first, front⟩
    · rw [List.nil_append] at split
      exact ih distinct (split ▸ inOthers)
    · obtain ⟨rfl, rest⟩ : batch = first ∧ [other, batch] = front ++ back := by simpa using split
      have here : batch = application.batch := front_own batch (by simp)
      have inFront : batch ∈ front := by
        have mem : batch ∈ front ++ back := by simp [← rest]
        exact (List.mem_append.1 mem).resolve_right fun behind => back_other batch behind here
      rcases front with _ | ⟨second, front⟩
      · simp at inFront
      · obtain ⟨rfl, -⟩ : other = second ∧ [batch] = front ++ back := by simpa using rest
        exact (front_own other (by simp)).trans here.symm

namespace Dispatcher

/-! ## Submissions told apart -/

theorem Extends.nodup_submissions {slack : Nat} {first last : Dispatcher} {entries : Journal}
    (h : Extends slack first entries last) : entries.submissions.Nodup := by
  have numbers : (entries.submissions.map Batch.serial).Nodup := by
    rw [h.numbered]
    exact List.nodup_range' 1
  exact List.Pairwise.of_map Batch.serial (fun a b differ same => differ (by rw [same])) numbers

theorem queue_of_clean {α : Type} {r : Except Fault α} {entries : Journal} {first last : Dispatcher}
    {slack : Nat} (evolves : Evolves slack first entries last) (empty : first.queue = [])
    (settled : entries = [] ∨ Settled r entries last) (clean : entries.Clean) : last.queue = [] := by
  obtain none | none | ⟨fault, batch, -, failed⟩ := settled
  · rw [evolves.still none, empty]
  · exact none
  · have bad := clean _ (List.mem_of_getLast? failed)
    cases bad

/-! ## One after another -/

/-- All that was submitted was applied, one bundle after another. -/
structure OneByOne (first : Dispatcher) (entries : Journal) (last : Dispatcher) : Prop where
  distinct : entries.submissions.Nodup
  once : entries.applied.Perm entries.submissions
  finished : last.queue = []
  unmixed : entries.Unmixed
  pieces : entries.performances = entries.applications.flatMap Application.performances
  /-- Each bundle was closed once, with its outcomes. -/
  closed : ∃ closed, closings last.stage.published = closings first.stage.published ++ closed ∧
    closed.Perm (entries.applications.map Application.closing)
  /-- Where nobody hears of events, the bundles give the same and leave the same. -/
  alone : ∃ stage, outcome (Batch.processAll entries.applied) first.stage =
      (.ok (entries.applications.map Application.outcomes), stage) ∧
    stage.silent = last.stage.silent

end Dispatcher

/-! ### Rewards -/

def Purse.game : Stage where
  now := 0.0
  state := .starting 0.0 "play" "tale" "hut" "Player" {}

namespace Purse

def gold (amount : Int) : Submission :=
  .bundle { gold := some amount }

def reward (event : String) (amount : Int) : Trigger where
  event := event
  effect := ⟨fun _ _ => gold amount⟩

def tipped : Dispatcher where
  stage := game
  triggers := [reward "effectProcessed" 10]

def rewarded : Dispatcher where
  stage := game
  triggers := [reward "effectProcessed" 10, reward "effectsProcessed" 100]

end Purse

namespace Dispatcher

theorem applied_in_order_iff (submission : Submission) {first : Dispatcher}
    (idle : first.applying = false) (empty : first.queue = []) :
    ∃ entries, (after (submit submission) first).journal = first.journal ++ entries ∧
      (entries.Clean → (entries.applied = entries.submissions ↔ entries.Orderly)) := by
  obtain ⟨entries, evolves, settled⟩ := submit_evolves submission first
  refine ⟨entries, evolves.journal, fun clean => ?_⟩
  have trace := evolves.works idle clean
  have none := queue_of_clean evolves empty (settled idle) clean
  have distinct : (first.rest.queue ++ entries.submissions).Nodup := by
    rw [rest, empty, List.nil_append]
    exact evolves.nodup_submissions
  have inOrder := trace.in_order_iff distinct
  rw [rest, rest, empty, none, List.nil_append, List.append_nil] at inOrder
  exact inOrder

/-- A tip given while a bundle is being applied comes after it. -/
theorem tip_in_order :
    Purse.tipped.applying = false ∧ Purse.tipped.queue = [] ∧
      ∃ entries : Journal, entries.Clean ∧ entries.submissions.length = 2 ∧
        entries.applied = entries.submissions := by
  have clean : (after (submit (Purse.gold 1)) Purse.tipped).journal.Clean := by decide +kernel
  have two : (after (submit (Purse.gold 1)) Purse.tipped).journal.submissions.length = 2 := by
    decide +kernel
  have orderly : (after (submit (Purse.gold 1)) Purse.tipped).journal.Orderly := by
    decide +kernel
  obtain ⟨entries, grown, inOrder⟩ :=
    applied_in_order_iff (Purse.gold 1) (rfl : Purse.tipped.applying = false) rfl
  have all : (after (submit (Purse.gold 1)) Purse.tipped).journal = entries := grown
  rw [all] at clean two orderly
  exact ⟨rfl, rfl, entries, clean, two, (inOrder clean).2 orderly⟩

/-- The reward that is submitted last overtakes the one that waits. -/
theorem last_reward_overtakes :
    (after (submit (Purse.gold 1)) Purse.rewarded).journal.Clean ∧
      (after (submit (Purse.gold 1)) Purse.rewarded).journal.submissions.map
        (fun batch => batch.effect.gold) = [some 1, some 10, some 100] ∧
      (after (submit (Purse.gold 1)) Purse.rewarded).journal.applied.map
        (fun batch => batch.effect.gold) = [some 1, some 100, some 10] := by
  decide +kernel

end Dispatcher

/-! ## What is left waiting

A submission that is made while no bundle is being applied leaves none being applied.  It leaves
bundles waiting exactly when a bundle that had waited failed last while others waited; the next
submission, whatever it is, applies them. -/

namespace Dispatcher

/-- A bundle that had waited failed last, while others waited. -/
def Stranded (entries : Journal) : Prop :=
  ∃ batch waiting, entries.getLast? = some (.failed batch true (waiting + 1))

theorem waiting_iff_of_settled {α : Type} {r : Except Fault α} {entries : Journal}
    {last : Dispatcher} (stuck : Stuck entries last) (settled : Settled r entries last) :
    last.queue ≠ [] ↔ Stranded entries := by
  constructor
  · intro waiting
    obtain none | ⟨fault, batch, -, failed⟩ := settled
    · exact absurd none waiting
    · have some_ : last.queue.length ≠ 0 := by simpa using waiting
      obtain ⟨others, count⟩ := Nat.exists_eq_succ_of_ne_zero some_
      exact ⟨batch, others, by rw [failed, count]⟩
  · rintro ⟨batch, others, failed⟩ none
    have count := stuck batch (others + 1) failed
    rw [none, List.length_nil] at count
    omega

/-- The second case is that nothing was submitted, or nothing that can be read. -/
theorem waiting_after_submit_iff (submission : Submission) {first : Dispatcher}
    (idle : first.applying = false) :
    (after (submit submission) first).applying = false ∧
      ∃ entries, (after (submit submission) first).journal = first.journal ++ entries ∧
        ((after (submit submission) first).queue ≠ [] ↔
          Stranded entries ∨ (entries = [] ∧ first.queue ≠ [])) ∧
        (fault? (submit submission) first = none → entries ≠ [] →
          (after (submit submission) first).queue = []) := by
  obtain ⟨entries, evolves, settles⟩ := submit_evolves submission first
  refine ⟨evolves.applying.trans idle, entries, evolves.journal, ?_, ?_⟩
  · by_cases none : entries = []
    · have still : (after (submit submission) first).queue = first.queue := evolves.still none
      have noEnd : ¬ Stranded [] := by simp [Stranded]
      simp [still, none, noEnd]
    · have settled := (settles idle).resolve_left none
      simp [waiting_iff_of_settled evolves.stuck settled, none]
  · intro returns noted
    obtain none | ⟨fault, batch, failed, -⟩ := (settles idle).resolve_left noted
    · exact none
    · rw [fault?, failed] at returns
      cases returns

end Dispatcher

/-! ### A curse -/

namespace Purse

/-- More experience than any number of levels can stand for. -/
def overwhelming : Submission :=
  .bundle { gold := some 10, experience := some (.int (Int.pow 10 400)) }

/-- While a bundle is being applied, one that fails is submitted, and gold after it. -/
def overwhelmed : Dispatcher where
  stage := game
  triggers := [
    { event := "effectProcessed", effect := ⟨fun _ _ => overwhelming⟩ },
    reward "effectProcessed" 100]

end Purse

namespace Dispatcher

theorem gold_waits_after_failure :
    Purse.overwhelmed.applying = false ∧
      (after (submit (Purse.gold 1)) Purse.overwhelmed).applying = false ∧
      ∃ entries, Stranded entries ∧
        (after (submit (Purse.gold 1)) Purse.overwhelmed).journal = entries ∧
        (after (submit (Purse.gold 1)) Purse.overwhelmed).queue ≠ [] := by
  obtain ⟨idle, entries, grown, waiting, -⟩ :=
    waiting_after_submit_iff (Purse.gold 1) (rfl : Purse.overwhelmed.applying = false)
  have all : (after (submit (Purse.gold 1)) Purse.overwhelmed).journal = entries := grown
  have last : (after (submit (Purse.gold 1)) Purse.overwhelmed).journal.getLast? =
      some (.failed ⟨1, { gold := some 10, experience := some (.int (Int.pow 10 400)) }⟩ true 1) := by
    decide +kernel
  have stranded : Stranded entries := ⟨_, 0, by rw [← all]; exact last⟩
  exact ⟨rfl, idle, entries, stranded, all, waiting.2 (.inl stranded)⟩

/-- The gold that waited when the call failed is paid by a later call that has nothing to do with
it. -/
theorem gold_paid_by_later_call :
    Purse.overwhelmed.applying = false ∧ Purse.overwhelmed.queue = [] ∧
      (after (submit (Purse.gold 1)) Purse.overwhelmed).queue ≠ [] ∧
      (after (submit (Purse.gold 1)) Purse.overwhelmed).stage.state.player.gold = 11 ∧
      (after (submit (.bundle { mana := some (-5) }))
        (after (submit (Purse.gold 1)) Purse.overwhelmed)).stage.state.player.gold = 111 := by
  decide +kernel

end Dispatcher

end InteractiveFiction
