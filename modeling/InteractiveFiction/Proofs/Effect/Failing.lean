import InteractiveFiction.Proofs.Effect.Changes
import InteractiveFiction.Proofs.Effect.Reports

/-!
Custom effects that fail: they do so before they do anything, and nothing else is heard of them.

* `Action.Resolute gives action`: `action` fails on every stage and leaves it alone, or on none.
* `CustomEffect.Tellable`: a custom effect with no integer that is too long to be written.  What is
  read of a text has none (`Effect.tellable_of_read`); of others the failure to tell what was done
  comes too late.
* `CustomEffect.failsOn`, `Effect.withoutFailing`: the custom effects of a bundle that fail, and the
  bundle without them.
* `Effect.process_without_failing`: with them and without them a bundle leads to the same state, and
  to the same outcomes but for theirs.
-/

set_option autoImplicit false

namespace InteractiveFiction

open Course

/-! ## Failing before anything is done -/

namespace Action

variable {α β : Type} {gives : α → Prop}

/-- Fails on every stage, with one fault and before it does anything, or gives something on every
stage. -/
def Resolute (gives : α → Prop) (action : Action α) : Prop :=
  (∃ fault, ∀ stage, outcome action stage = (.error fault, stage)) ∨ Delivers gives action

namespace Resolute

theorem throw (fault : Fault) : Resolute gives (throw fault : Action α) :=
  .inl ⟨fault, fun _ => rfl⟩

theorem bind_lift {given : β → Prop} {r : Result β} {f : β → Action α} (first : r.Gives given)
    (next : ∀ b, given b → Resolute gives (f b)) : Resolute gives ((liftM r : Action β) >>= f) := by
  cases r with
  | error fault => exact .inl ⟨fault, fun stage => by rw [outcome_bind, outcome_lift]⟩
  | ok b =>
    change Resolute gives (Pure.pure b >>= f)
    rw [pure_bind]
    exact next b (first b rfl)

theorem bind {gives' : β → Prop} {action : Action β} {f : β → Action α}
    (first : Resolute gives' action) (next : ∀ b, Delivers gives (f b)) :
    Resolute gives (action >>= f) := by
  rcases first with ⟨fault, fails⟩ | delivers
  · exact .inl ⟨fault, fun stage => outcome_bind_of_error (fails stage) f⟩
  · exact .inr (delivers.bind fun b _ => next b)

/-- Whether what follows fails must not depend on what is read. -/
theorem bind_read {read : Action β} {f : β → Action α} (view : Stage → β)
    (reads : ∀ stage, outcome read stage = (.ok (view stage), stage))
    (next : (∃ fault, ∀ b stage, outcome (f b) stage = (.error fault, stage)) ∨
      ∀ b, Delivers gives (f b)) : Resolute gives (read >>= f) := by
  rcases next with ⟨fault, fails⟩ | delivers
  · exact .inl ⟨fault, fun stage => by rw [outcome_bind_of_ok (reads stage), fails]⟩
  · refine .inr fun stage => ?_
    rw [outcome_bind_of_ok (reads stage)]
    exact delivers (view stage) stage

end Resolute

theorem delivers_lift {r : Result α} {a : α} (h : r = .ok a) :
    Delivers (· = a) (liftM r : Action α) :=
  fun stage => ⟨a, stage, by rw [outcome_lift, h], rfl⟩

theorem delivers_state : Delivers Anything Action.state :=
  fun _ => ⟨_, _, rfl, trivial⟩

theorem delivers_now : Delivers Anything Action.now :=
  fun _ => ⟨_, _, rfl, trivial⟩

theorem delivers_modifyState (change : GameState → GameState) :
    Delivers Anything (Action.modifyState change) :=
  fun _ => ⟨(), _, rfl, trivial⟩

theorem delivers_publish (event : Event) : Delivers Anything (Action.publish event) :=
  fun _ => ⟨(), _, rfl, trivial⟩

end Action

/-! ## Custom effects -/

namespace Outcome

/-- An outcome that tells of no failure. -/
abbrev Succeeds (told : Outcome) : Prop :=
  told.success = true

def isCustom (told : Outcome) : Bool :=
  told.type == "custom"

/-- Not the outcome of a custom effect that failed. -/
def stands (told : Outcome) : Bool :=
  !(told.isCustom && !told.success)

end Outcome

namespace CustomEffect

open InteractiveFiction.Action

theorem outcome_setFlag (key : String) (value : Document) (stage : Stage) :
    Course.outcome (setFlag key value) stage =
      match FlagValue.check (.text key) value with
      | .ok (name, flag) => (.ok (), { stage with state :=
          { stage.state with flags := stage.state.flags.insert name flag } })
      | .error fault => (.error fault, stage) := by
  rw [setFlag, outcome_bind_of_ok (outcome_state stage), outcome_bind, outcome_lift, Flags.set]
  cases FlagValue.check (.text key) value <;> rfl

theorem setFlag_resolute (key : String) (value : Document) :
    Resolute Anything (setFlag key value) := by
  cases checked : FlagValue.check (.text key) value with
  | error fault => exact .inl ⟨fault, fun stage => by rw [outcome_setFlag, checked]⟩
  | ok entry =>
    refine .inr fun stage => ?_
    have sets := outcome_setFlag key value stage
    rw [checked] at sets
    exact ⟨(), _, sets, trivial⟩

theorem setFlag_delivers {key : String} (named : key ≠ "") (b : Bool) :
    Delivers Anything (setFlag key (.bool b)) := by
  have checked : FlagValue.check (.text key) (.bool b) = .ok (key, .bool b) := by
    rw [FlagValue.check, if_neg (by simpa using named)]
    rfl
  intro stage
  have sets := outcome_setFlag key (.bool b) stage
  rw [checked] at sets
  exact ⟨(), _, sets, trivial⟩

theorem outcome_delivers (description : String) (metadata : Fields) :
    Delivers Outcome.Succeeds (outcome description metadata) :=
  fun stage => ⟨_, stage, rfl, rfl⟩

/-- Whether there is anything to cast does not depend on when it is cast. -/
theorem timedEffect_ends (custom : CustomEffect) :
    (∃ fault, ∀ now, custom.timedEffect now = .error fault) ∨
      ∀ now, ∃ timed, custom.timedEffect now = .ok timed := by
  unfold timedEffect
  cases (Document.orElse (some (custom.param (custom.type ++ "Type"))) "unknown").written with
  | error fault => exact .inl ⟨fault, fun _ => rfl⟩
  | ok type =>
  cases (Document.orElse (some (custom.param "duration")) (.float defaultDuration)).toFloat with
  | error fault => exact .inl ⟨fault, fun _ => rfl⟩
  | ok duration =>
    cases (Document.orElse (some (custom.param "effects")) (.object [])).toFields with
    | error fault => exact .inl ⟨fault, fun _ => rfl⟩
    | ok effects =>
      by_cases spent : (Number.float duration).le 0 = true
      · exact .inl ⟨_, fun _ => if_pos spent⟩
      · exact .inr fun _ => ⟨_, if_neg spent⟩

theorem cast_resolute (custom : CustomEffect) (verb : String) :
    Resolute Outcome.Succeeds (custom.cast verb) := by
  refine .bind_read Stage.now (fun _ => rfl) ?_
  rcases custom.timedEffect_ends with ⟨fault, fails⟩ | ends
  · exact .inl ⟨fault, fun now stage => by rw [outcome_bind, outcome_lift, fails]⟩
  · refine .inr fun now => ?_
    obtain ⟨effect, lasting⟩ := ends now
    have named : effect.key ≠ "" := by
      rw [custom.timedEffect_keyed now effect lasting, timedKey]
      simp
    refine .next (delivers_lift lasting) (.bind (delivers_modifyState _) fun _ _ => ?_)
    exact .bind (setFlag_delivers named true) fun _ _ => outcome_delivers _ _

def failsOn (custom : CustomEffect) (stage : Stage) : Bool :=
  (fault? custom.act stage).isSome

/-- What a custom effect is asked for can be written. -/
def Tellable (custom : CustomEffect) : Prop :=
  Document.hasWritableFields custom.params = true

instance (custom : CustomEffect) : Decidable custom.Tellable :=
  inferInstanceAs (Decidable (_ = true))

theorem Tellable.param {custom : CustomEffect} (tellable : custom.Tellable) (key : String) :
    (custom.param key).isWritable = true :=
  Fields.isWritable_getD tellable rfl key

/-- What a custom effect demands is one of its fields, and can be told. -/
theorem demand_gives {custom : CustomEffect} (tellable : custom.Tellable) (key : String) :
    Result.Gives (fun d => d.written = .ok d.display) (custom.demand key) := by
  unfold demand
  dsimp only
  split
  · exact .pure (if_pos (tellable.param key))
  · exact .throw _

section Tellable

variable {custom : CustomEffect} (tellable : custom.Tellable)

include tellable

/-- A custom effect that fails has done nothing. -/
theorem act_resolute : Resolute Outcome.Succeeds custom.act := by
  have told {d : Document} (written : d.written = .ok d.display) (tell : String → String)
      (metadata : Fields) :
      Delivers Outcome.Succeeds ((liftM d.written : Action String) >>= fun words =>
        outcome (tell words) metadata) :=
    .next (delivers_lift written) (outcome_delivers _ _)
  unfold act
  split
  · refine .bind_lift (demand_gives tellable _) fun target written => ?_
    exact .inr (.bind (delivers_publish _) fun _ _ => told written _ _)
  · refine .bind_lift (demand_gives tellable _) fun form written => ?_
    refine .bind_read Stage.state outcome_state ?_
    rcases setFlag_resolute "transformed_form" form with ⟨fault, fails⟩ | sets
    · exact .inl ⟨fault, fun state stage => outcome_bind_of_error (fails stage) _⟩
    · refine .inr fun state => .bind sets fun _ _ => .next (delivers_lift written) ?_
      exact .bind (outcome_delivers _ _) fun told succeeds => .pure succeeds
  · refine .bind_lift (demand_gives tellable _) fun creature written => ?_
    exact .bind (setFlag_resolute _ _) fun _ => told written _ _
  · exact custom.cast_resolute _
  · exact custom.cast_resolute _
  · exact .throw _

/-- Where a custom effect fails it fails wherever it is applied, and leaves everything alone. -/
theorem apply_of_failsOn {stage : Stage} (fails : custom.failsOn stage = true) (other : Stage) :
    ∃ told, Course.outcome custom.apply other = (.ok told, other) ∧ told.success = false := by
  rcases act_resolute tellable with ⟨fault, failing⟩ | delivers
  · rw [apply, outcome_tryCatch, failing]
    exact ⟨_, rfl, rfl⟩
  · obtain ⟨told, last, ends, -⟩ := delivers stage
    rw [failsOn, fault?, result, ends] at fails
    cases fails

theorem apply_of_not_failsOn {stage : Stage} (stands : custom.failsOn stage = false) :
    Delivers Outcome.Succeeds custom.apply := by
  rcases act_resolute tellable with ⟨fault, failing⟩ | delivers
  · rw [failsOn, fault?, result, failing] at stands
    cases stands
  · intro other
    obtain ⟨told, last, ends, succeeds⟩ := delivers other
    refine ⟨told, last, ?_, succeeds⟩
    rw [apply, outcome_tryCatch, ends]

/-- What is reported as failed changed nothing. -/
theorem eq_of_apply_failed {stage last : Stage} {told : Outcome}
    (ends : Course.outcome custom.apply stage = (.ok told, last)) (failed : told.success = false) :
    last = stage := by
  cases fails : custom.failsOn stage with
  | true =>
    obtain ⟨told', ends', -⟩ := apply_of_failsOn tellable fails stage
    rw [ends] at ends'
    exact congrArg Prod.snd ends'
  | false =>
    have succeeds := ((apply_of_not_failsOn tellable fails).upholds stage trivial).2 told
      (congrArg Prod.fst ends)
    rw [Outcome.Succeeds, failed] at succeeds
    cases succeeds

theorem apply_tells (stage : Stage) :
    Tells (fun told => (told.isCustom, told.success) = (true, !custom.failsOn stage))
      custom.apply := by
  refine .intro fun other _ => ⟨trivial, fun told given => Prod.ext ?_ ?_⟩
  · have headed := (custom.apply_headed other trivial).2 told given
    exact beq_iff_eq.2 (congrArg Prod.fst headed)
  · cases fails : custom.failsOn stage with
    | true =>
      obtain ⟨told', ends, failed⟩ := apply_of_failsOn tellable fails other
      rw [ends] at given
      cases given
      exact failed
    | false =>
      exact ((apply_of_not_failsOn tellable fails).upholds other trivial).2 told given

end Tellable

end CustomEffect

/-! ### Custom effects that are read -/

theorem Document.toItems_gives_writable {d : Document} (writable : d.isWritable = true) :
    Result.Gives (fun items => ∀ item ∈ items, item.isWritable = true) d.toItems := by
  unfold toItems
  split
  · exact .pure (areWritable_iff.1 writable)
  · refine .pure fun item mem => ?_
    obtain ⟨c, -, rfl⟩ := List.mem_map.1 mem
    rfl
  · refine .pure fun item mem => ?_
    obtain ⟨field, -, rfl⟩ := List.mem_map.1 mem
    rfl
  · exact .throw _

namespace CustomEffect

theorem ofDocument_gives_tellable {d : Document} (writable : d.isWritable = true) :
    (ofDocument d).Gives Tellable := by
  unfold ofDocument
  split
  · rename_i fields
    dsimp only
    split
    · refine .pure (Document.hasWritableFields_iff.2 fun field mem => ?_)
      exact Document.hasWritableFields_iff.1 writable field (List.mem_of_mem_filter mem)
    · exact .throw _
  · exact .throw _

end CustomEffect

namespace Effect

def Tellable (effect : Effect) : Prop :=
  ∀ custom ∈ effect.custom, custom.Tellable

instance (effect : Effect) : Decidable effect.Tellable :=
  inferInstanceAs (Decidable (∀ custom ∈ effect.custom, custom.Tellable))

theorem hasWritableFields_foldl {step : Fields → String × Document → Fields}
    (keeps : ∀ known field, Document.hasWritableFields known = true → field.2.isWritable = true →
      Document.hasWritableFields (step known field) = true) {fields known : Fields}
    (sofar : Document.hasWritableFields known = true)
    (writable : Document.hasWritableFields fields = true) :
    Document.hasWritableFields (fields.foldl step known) = true := by
  induction fields generalizing known with
  | nil => exact sofar
  | cons field fields ih =>
    rw [Document.hasWritableFields, Bool.and_eq_true] at writable
    exact ih (keeps known field sofar writable.1) writable.2

theorem hasWritableFields_canonical {fields : Fields}
    (writable : Document.hasWritableFields fields = true) :
    Document.hasWritableFields (canonical fields) = true :=
  hasWritableFields_foldl (fun _ _ sofar own => Fields.hasWritableFields_put sofar own) rfl writable

theorem ofFields_gives_tellable {fields : Fields}
    (writable : Document.hasWritableFields fields = true) :
    Issue.Gives Tellable (ofFields fields) := by
  have customs : Result.Gives (fun items => ∀ d ∈ items, d.isWritable = true)
      (fields.getOr "custom" (.list [])).toItems :=
    Document.toItems_gives_writable (Fields.isWritable_getOr writable rfl "custom")
  refine .last fun health => .last fun mana => .last fun gold => .last fun experience => ?_
  refine .last fun attributes => .last fun flagFields => .last fun flags => ?_
  refine .last fun items => .last fun addItems => .last fun removals => .last fun removeItems => ?_
  refine .last fun relationships => .last fun sound => .last fun music => ?_
  refine .bind (Issue.gives_lift customs) fun documents each => ?_
  refine .bind (.mapM _ fun d mem =>
    Issue.gives_lift (CustomEffect.ofDocument_gives_tellable (each d mem)))
    fun custom tellable => ?_
  exact .last fun events => .pure tellable

/-- A bundle that is read of a text asks for nothing that cannot be written. -/
theorem tellable_of_read {s : String} {d : Document} (isRead : Document.read s = .ok d)
    {effect : Effect} {issued : Nat} (isEffect : result (ofDocument d) issued = .ok effect) :
    effect.Tellable := by
  have writable := Document.isWritable_of_read isRead
  have gives : Issue.Gives Tellable (ofDocument d) := by
    unfold ofDocument
    refine .branch (.pure nofun) ?_
    split
    · exact .branch (ofFields_gives_tellable (hasWritableFields_canonical writable)) (.throw _)
    · exact .throw _
  exact (gives issued trivial).2 effect isEffect

end Effect

/-! ## With them and without them -/

namespace Effect

def withoutFailing (effect : Effect) (stage : Stage) : Effect :=
  { effect with custom := effect.custom.filter fun custom => !custom.failsOn stage }

/-- The outcomes on one side are those on the other that stand. -/
abbrev Standing (outcomes others : List Outcome) : Prop :=
  outcomes.filter Outcome.stands = others

theorem eq_map_of_alike {r r' : Result (List Outcome)} (h : Result.Alike Standing r r') :
    r' = r.map (List.filter Outcome.stands) := by
  cases h with
  | ok standing => exact congrArg Except.ok standing.symm
  | error fault => rfl

/-- What is announced of a failure does not show, and the others go on as they do without it. -/
theorem perform_of_failsOn {custom : CustomEffect} {stage s t : Stage} (own : custom.Tellable)
    (fails : custom.failsOn stage = true) (same : Silently s t) :
    ∃ told s', outcome (perform custom.apply) s = (.ok told, s') ∧ told.stands = false ∧
      Silently s' t := by
  obtain ⟨told, ends, failed⟩ := CustomEffect.apply_of_failsOn own fails s
  have isCustom : told.isCustom = true :=
    congrArg Prod.fst
      ((CustomEffect.apply_tells own stage s trivial).2 told (congrArg Prod.fst ends))
  refine ⟨told, s.publish (.effectProcessed told.toDocument), ?_, ?_, same⟩
  · rw [perform, outcome_bind_of_ok ends]
    rfl
  · rw [Outcome.stands, isCustom, failed]
    rfl

/-- Custom effects side by side, with those that fail and without them. -/
theorem customs_match {customs : List CustomEffect}
    (tellable : ∀ custom ∈ customs, custom.Tellable) (stage : Stage) :
    Matches Silently Standing (customs.mapM fun custom => perform custom.apply)
      ((customs.filter fun custom => !custom.failsOn stage).mapM fun custom =>
        perform custom.apply) := by
  induction customs with
  | nil => exact .pure rfl
  | cons custom customs ih =>
    obtain ⟨own, others⟩ := List.forall_mem_cons.1 tellable
    have ih := ih others
    rw [List.mapM_cons]
    cases fails : custom.failsOn stage with
    | true =>
      rw [List.filter_cons_of_neg (by simp [fails])]
      refine .bind_left (fun s t => perform_of_failsOn own fails) fun told fallen => ?_
      rw [← bind_pure (List.mapM _ (customs.filter _))]
      refine ih.bind fun outcomes others standing => .pure ?_
      rw [Standing, List.filter_cons_of_neg (by simp [fallen])]
      exact standing
    | false =>
      rw [List.filter_cons_of_pos (by simp [fails]), List.mapM_cons]
      have performs : Tells Outcome.Succeeds (perform custom.apply) :=
        perform_tells (CustomEffect.apply_of_not_failsOn own fails).upholds
      have heedless : Heedless custom.apply := custom.apply_blind
      have tracks := (perform_heedless heedless).tracks_silent
      refine .bind (tracks.matching_of fun s => (performs s trivial).2) fun told _ same => ?_
      obtain ⟨rfl, succeeds⟩ := same
      refine ih.bind fun outcomes others standing => .pure ?_
      have stands : told.stands = true := by
        rw [Outcome.stands, succeeds]
        simp
      rw [Standing, List.filter_cons_of_pos stands, standing]

/-- In the other categories no outcome is of a custom effect. -/
theorem not_isCustom_of_headings {effect : Effect} {category : Category} {outcomes : List Outcome}
    (headed : outcomes.map Outcome.heading = effect.headingsOf category)
    (other : category ≠ .custom) : ∀ told ∈ outcomes, told.isCustom = false := by
  intro told mem
  have among : told.heading ∈ effect.headingsOf category := by
    rw [← headed]
    exact List.mem_map_of_mem mem
  rw [headingsOf, if_neg other] at among
  split at among
  · have isType : told.type = category.label := congrArg Prod.fst (List.mem_singleton.1 among)
    rw [Outcome.isCustom, isType]
    cases category <;> first | rfl | exact absurd rfl other
  · cases among

section Tellable

variable {effect : Effect} (tellable : effect.Tellable)

include tellable

theorem inCategory_match (stage : Stage) (category : Category) :
    Matches Silently Standing (effect.inCategory category)
      ((effect.withoutFailing stage).inCategory category) := by
  by_cases isCustom : category = .custom
  · rw [isCustom, inCategory_custom, inCategory_custom]
    exact customs_match tellable stage
  · have same : (effect.withoutFailing stage).inCategory category = effect.inCategory category := by
      cases category <;> first | rfl | exact absurd rfl isCustom
    have heedless : ∀ part ∈ effect.partsOf category, Tracks Silently (perform part) (perform part) :=
      fun part mem =>
        (perform_heedless (effect.parts_heedless part (mem_parts_of_mem_partsOf mem))).tracks_silent
    have tracks : Tracks Silently (effect.inCategory category) (effect.inCategory category) :=
      .mapM _ heedless
    rw [same]
    refine (tracks.matching_of fun s => (effect.inCategory_headed category s trivial).2).mono ?_
    rintro outcomes _ ⟨rfl, headed⟩
    refine List.filter_eq_self.2 fun told mem => ?_
    rw [Outcome.stands, not_isCustom_of_headings headed isCustom told mem]
    rfl

theorem process_match (stage : Stage) :
    Matches Silently Standing effect.process (effect.withoutFailing stage).process := by
  have applies : Matches Silently Standing effect.apply (effect.withoutFailing stage).apply := by
    rw [apply_eq, apply_eq]
    refine .bind (.mapM Category.all fun category _ => inCategory_match tellable stage category)
      fun grouped others standing => .pure ?_
    have each : grouped.map (List.filter Outcome.stands) = others := by
      induction standing with
      | nil => rfl
      | cons one _ ih => rw [List.map_cons, one, ih]
    rw [Standing, List.filter_flatten, each]
  exact applies.bind fun outcomes others standing =>
    .bind_of_tracks (finish_silently outcomes others false false) fun _ => .pure standing

/-! ## What is reported of them -/

theorem inCategory_successes (stage : Stage) (category : Category) :
    Tells (fun outcomes => (outcomes.filter Outcome.isCustom).map Outcome.success =
        if category = .custom then effect.custom.map fun custom => !custom.failsOn stage else [])
      (effect.inCategory category) := by
  by_cases isCustom : category = .custom
  · rw [isCustom, inCategory_custom, if_pos rfl]
    have told (custom : CustomEffect) (mem : custom ∈ effect.custom) :=
      perform_tells (CustomEffect.apply_tells (tellable custom mem) stage)
    refine (Upholds.map_mapM effect.custom told).weaken fun outcomes same => ?_
    have all : ∀ told ∈ outcomes, told.isCustom = true := by
      intro told mem
      have among := List.mem_map_of_mem (f := fun told => (Outcome.isCustom told, told.success)) mem
      rw [same] at among
      obtain ⟨custom, -, pair⟩ := List.mem_map.1 among
      exact (congrArg Prod.fst pair).symm
    have successes := congrArg (List.map Prod.snd) same
    rw [List.map_map, List.map_map] at successes
    rw [List.filter_eq_self.2 all]
    exact successes
  · rw [if_neg isCustom]
    refine (effect.inCategory_headed category).weaken fun outcomes headed => ?_
    rw [List.filter_eq_nil_iff.2 fun told mem => ?_]
    · rfl
    · rw [not_isCustom_of_headings headed isCustom told mem]
      exact Bool.false_ne_true

theorem process_successes (stage : Stage) :
    Tells (fun outcomes => (outcomes.filter Outcome.isCustom).map Outcome.success =
        effect.custom.map fun custom => !custom.failsOn stage) effect.process := by
  refine .bind ?_ fun _ told => .last fun _ => .pure told
  rw [apply_eq]
  refine .bind (.map_mapM Category.all fun category _ =>
    inCategory_successes tellable stage category) fun grouped each => .pure ?_
  rw [List.filter_flatten, List.map_flatten, List.map_map]
  refine (congrArg List.flatten each).trans ?_
  simp [Category.all]

end Tellable

/-- Without the custom effects that fail a bundle leads to the same state and to the same outcomes but
for theirs; those that fail are those that are reported as failed, and what is reported so changed
nothing. -/
structure PassesOverFailing (effect : Effect) (stage : Stage) : Prop where
  state : (after (effect.withoutFailing stage).process stage).state =
    (after effect.process stage).state
  outcomes : result (effect.withoutFailing stage).process stage =
    (result effect.process stage).map (List.filter Outcome.stands)
  reported : ∀ outcomes, result effect.process stage = .ok outcomes →
    (outcomes.filter Outcome.isCustom).map Outcome.success =
      effect.custom.map fun custom => !custom.failsOn stage
  unharmed : ∀ custom ∈ effect.custom, ∀ before last told,
    outcome custom.apply before = (.ok told, last) → told.success = false → last = before

/-- Gold, a transformation into nothing, and an owl that is summoned. -/
def fumbled : Effect where
  gold := some 5
  custom := [{ type := "transform", params := [] },
    { type := "summon", params := [("creature", "owl")] }]

def fumbledText : String :=
  "\x7b\"gold\": 5, \"custom\": [\x7b\"type\": \"transform\"\x7d, " ++
    "\x7b\"type\": \"summon\", \"creature\": \"owl\"\x7d]\x7d"

end Effect

end InteractiveFiction
