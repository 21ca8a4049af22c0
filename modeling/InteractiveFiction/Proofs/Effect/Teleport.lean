import InteractiveFiction.Proofs.Effect.Headings

/-!
Where a bundle may send the player.

Of all that a bundle does, only its teleports tell of a scene to go to, and only when they succeed
(`parts_send`).  So the target that is read off the outcomes of a bundle is one that its author
wrote into a teleport (`teleports_of_process`).
-/

set_option autoImplicit false

namespace InteractiveFiction

open Course

/-- An outcome that sends the player to a scene. -/
structure Outcome.Sends (outcome : Outcome) (target : Document) : Prop where
  success : outcome.success = true
  teleport : Fields.getD outcome.metadata "customType" .null = .text "teleport"
  target : Fields.getD outcome.metadata "targetScene" .null = target

/-- A teleport to a scene, as an author writes it. -/
structure CustomEffect.Teleports (custom : CustomEffect) (target : Document) : Prop where
  type : custom.type = "teleport"
  target : custom.param "targetScene" = target

def Effect.Teleports (effect : Effect) (target : Document) : Prop :=
  ∃ custom ∈ effect.custom, custom.Teleports target

theorem Outcome.sends_of_teleportTarget {outcomes : List Outcome} {target : Document}
    (h : teleportTarget outcomes = some target) : ∃ outcome ∈ outcomes, outcome.Sends target := by
  unfold teleportTarget at h
  obtain ⟨outcome, last, isTarget⟩ := Option.map_eq_some_iff.1 h
  obtain ⟨mem, sends⟩ := List.mem_filter.1 (List.mem_of_getLast? last)
  rw [Bool.and_eq_true, beq_iff_eq] at sends
  exact ⟨outcome, mem, sends.1, sends.2, isTarget⟩

/-- An outcome that sends the player nowhere. -/
def Outcome.Stays (outcome : Outcome) : Prop :=
  Fields.getD outcome.metadata "customType" .null ≠ .text "teleport"

theorem Outcome.stays_of_heading {outcome : Outcome} {type : String} {kind : Document}
    (h : outcome.heading = (type, kind)) (other : kind ≠ .text "teleport") : outcome.Stays := by
  have isKind : Fields.getD outcome.metadata "customType" .null = kind := congrArg Prod.snd h
  rwa [Stays, isKind]

theorem Outcome.Stays.never {outcome : Outcome} (h : outcome.Stays) {target : Document} :
    ¬ outcome.Sends target :=
  fun sends => h sends.teleport

/-! ## Custom effects -/

namespace CustomEffect

/-- Whoever is sent somewhere is sent there by this effect. -/
def Accounts (custom : CustomEffect) (outcome : Outcome) : Prop :=
  ∀ target, outcome.Sends target → target.isTruthy = true ∧ custom.Teleports target

theorem accounts_of_stays (custom : CustomEffect) {outcome : Outcome} (h : outcome.Stays) :
    custom.Accounts outcome :=
  fun _ sends => absurd sends h.never

theorem teleport_accounts {custom : CustomEffect} (type : custom.type = "teleport") :
    Tells custom.Accounts custom.teleport := by
  have demanded : Tells (fun target => target.isTruthy = true ∧ custom.param "targetScene" = target)
      (liftM (custom.demand "targetScene") : Action Document) := by
    refine .of_result (Action.outcome_lift _) fun target demanded => ?_
    unfold demand at demanded
    dsimp only at demanded
    split at demanded
    · rename_i truthy
      cases demanded
      exact ⟨truthy, rfl⟩
    · cases demanded
  refine .bind demanded fun target isTarget => .last fun _ => .last fun _ => .last fun now =>
    .pure ?_
  intro other sends
  cases sends.target
  exact ⟨isTarget.1, type, isTarget.2⟩

theorem apply_accounts (custom : CustomEffect) : Tells custom.Accounts custom.apply := by
  by_cases type : custom.type = "teleport"
  · have acts : custom.act = custom.teleport := by
      unfold act
      rw [type]
      rfl
    rw [apply, acts]
    refine .tryCatch (teleport_accounts type) fun fault => .last fun now => .pure ?_
    -- a failed teleport sends nobody anywhere
    exact fun target sends => nomatch sends.success
  · refine custom.apply_headed.weaken fun outcome headed => custom.accounts_of_stays ?_
    exact Outcome.stays_of_heading headed fun same => type (Document.text.inj same)

end CustomEffect

/-! ## Bundles -/

namespace Effect

/-- What a part sends the player to is written in a teleport of the bundle. -/
theorem parts_send (effect : Effect) : ∀ part ∈ effect.parts,
    Tells (fun outcome => ∀ target, outcome.Sends target →
      target.isTruthy = true ∧ effect.Teleports target) part := by
  refine forall_parts_of_isPart fun category part isPart => ?_
  by_cases isCustom : category = .custom
  · subst isCustom
    cases isPart with
    | custom among =>
      refine (CustomEffect.apply_accounts _).weaken fun _ accounts target sends => ?_
      obtain ⟨truthy, teleports⟩ := accounts target sends
      exact ⟨truthy, _, among, teleports⟩
  · refine (isPart.headed isCustom).weaken fun _ headed target sends => ?_
    exact absurd sends (Outcome.stays_of_heading headed nofun).never

/-- The target that the outcomes of a bundle give is one that the bundle has a teleport to. -/
theorem teleports_of_process {effect : Effect} {stage : Stage} {outcomes : List Outcome}
    {target : Document} (processed : result effect.process stage = .ok outcomes)
    (sent : Outcome.teleportTarget outcomes = some target) :
    target.isTruthy = true ∧ effect.Teleports target := by
  have performs : ∀ part ∈ effect.parts, Tells (fun outcome => ∀ target, outcome.Sends target →
      target.isTruthy = true ∧ effect.Teleports target) (perform part) :=
    fun part mem => perform_tells (effect.parts_send part mem)
  have processes : Tells (fun outcomes => ∀ outcome ∈ outcomes, ∀ target, outcome.Sends target →
      target.isTruthy = true ∧ effect.Teleports target) effect.process :=
    .bind (.mapM _ performs) fun _ told => .last fun _ => .pure told
  obtain ⟨outcome, mem, sends⟩ := Outcome.sends_of_teleportTarget sent
  exact (processes stage trivial).2 outcomes processed outcome mem target sends

end Effect

end InteractiveFiction
