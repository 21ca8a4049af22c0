import InteractiveFiction.Proofs.Effect.Demands
import InteractiveFiction.Proofs.Story.WellFormed

/-!
What reading asks of a story, and how reading ends.

The demands on a story are those on its records, in the order in which they are read.
`Story.ofDocument_decided`: they decide how reading ends, whatever was read before.
`Story.read_or_refused_iff`: a document is read as a story or refused as malformed unless the first
demand that it does not meet is one without a guard.
-/

set_option autoImplicit false

namespace InteractiveFiction

open Course
open Result (DecidedBy)

/-! ## Parts of records -/

theorem requireId_decided (record : String) (d : Document) :
    DecidedBy [.rule (d.get "id").isTruthy] (requireId record d) := by
  unfold requireId
  dsimp only
  cases (d.get "id").isTruthy with
  | false => exact .broken _ _
  | true => exact .kept (.pure _)

theorem requireId_gives_id (record : String) (d : Document) :
    (requireId record d).Gives fun id => id = d.get "id" := by
  unfold requireId
  dsimp only
  split
  · exact .pure rfl
  · exact .throw _

/-- What is under a key where a list is expected. -/
def listUnder (d : Document) (key : String) : Document :=
  Document.orElse (d.field? key) (.list [])

/-- What is under a key where an object is expected. -/
def objectUnder (d : Document) (key : String) : Document :=
  Document.orElse (d.field? key) (.object [])

/-! ## Characters -/

def DialogueLine.demands (d : Document) : List Demand :=
  [.object d, .items (listUnder d "responses"), .pairs (objectUnder d "requiredFlags"),
    .whole (d.getD "priority" (.int 0)), .whole (d.getD "optimalRelationship" (.int 0))]

theorem DialogueLine.ofDocument_decided (d : Document) : DecidedBy (demands d) (ofDocument d) := by
  refine .next (d.fields_decided "get") fun _ _ => ?_
  refine .next (Document.toItems_decided _) fun responses _ => ?_
  refine .next (Document.toFields_decided _) fun requiredFlags _ => ?_
  refine .next (Document.toInt_decided _) fun priority _ => ?_
  exact .next (Document.toInt_decided _) fun optimalRelationship _ => .pure _

def Quest.demands (d : Document) : List Demand :=
  [.rule (d.get "id").isTruthy, .items (listUnder d "prerequisites"),
    .whole (d.getD "requiredRelationship" (.int 0))]

theorem Quest.ofDocument_decided (d : Document) : DecidedBy (demands d) (ofDocument d) := by
  refine .next (requireId_decided _ d) fun id _ => ?_
  refine .next (Document.toItems_decided _) fun prerequisites _ => ?_
  exact .next (Document.toInt_decided _) fun requiredRelationship _ => .pure _

def Character.demands (d : Document) : List Demand :=
  .rule (d.get "id").isTruthy :: .items (listUnder d "traits") ::
    .pairs (objectUnder d "preferences") ::
    (Demand.listing (listUnder d "dialogue") DialogueLine.demands ++
      .items (listUnder d "tradeItems") ::
      (Demand.listing (listUnder d "quests") Quest.demands ++ []))

theorem Character.ofDocument_decided (d : Document) : DecidedBy (demands d) (ofDocument d) := by
  refine .next (requireId_decided _ d) fun id _ => ?_
  refine .next (Document.toItems_decided _) fun traits _ => ?_
  refine .next (Document.toFields_decided _) fun preferences _ => ?_
  refine .listing DialogueLine.ofDocument_decided fun dialogue => ?_
  refine .next (Document.toItems_decided _) fun tradeItems _ => ?_
  exact .listing Quest.ofDocument_decided fun quests => .pure _

theorem Character.ofDocument_gives_id (d : Document) :
    (ofDocument d).Gives fun character => character.id = d.get "id" := by
  refine .bind (requireId_gives_id _ d) fun id own => ?_
  refine .bind (.anything _) fun traits _ => .bind (.anything _) fun preferences _ => ?_
  refine .bind (.anything _) fun lines _ => .bind (.anything _) fun dialogue _ => ?_
  refine .bind (.anything _) fun tradeItems _ => .bind (.anything _) fun items _ => ?_
  exact .bind (.anything _) fun quests _ => .pure own

def Achievement.demands (d : Document) : List Demand :=
  [.rule (d.get "id").isTruthy, .whole (d.getD "points" (.int 0))]

theorem Achievement.ofDocument_decided (d : Document) : DecidedBy (demands d) (ofDocument d) := by
  refine .next (requireId_decided _ d) fun id _ => ?_
  exact .next (Document.toInt_decided _) fun points _ => .pure _

/-! ## Choices -/

def Requirement.demands (d : Document) : List Demand :=
  [.rule (d.get "type").isTruthy]

theorem Requirement.ofDocument_decided (d : Document) : DecidedBy (demands d) (ofDocument d) := by
  unfold ofDocument demands
  cases d with
  | object fields =>
    dsimp only
    cases (Document.get (.object fields) "type").isTruthy with
    | false => exact .broken _ _
    | true => exact .kept (.pure _)
  | _ => exact .broken _ _

def Choice.demands (d : Document) : List Demand :=
  .rule (d.get "id").isTruthy :: .rule (ChoiceType.ofDocument? (d.getD "type" "plain")).isSome ::
    (Effect.demands (d.get "effects") ++
      (Demand.listing (listUnder d "requirements") Requirement.demands ++
        [.pairs (objectUnder d "metadata")]))

theorem Choice.ofDocument_decided (d : Document) : Issue.DecidedBy (demands d) (ofDocument d) := by
  refine .next (requireId_decided _ d) fun id _ => ?_
  dsimp only
  cases ChoiceType.ofDocument? (d.getD "type" "plain") with
  | none => exact .broken _ _
  | some type =>
    refine .kept ?_
    dsimp only
    rw [pure_bind]
    refine .bind (Effect.ofDocument_decided _) fun effects _ _ _ => ?_
    refine .listing (fun r => .lift (Requirement.ofDocument_decided r)) fun requirements _ _ _ => ?_
    exact .next (Document.toFields_decided _) fun metadata _ => .pure _

theorem Choice.ofDocument_gives_id (d : Document) :
    Issue.Gives (fun choice => choice.id = d.get "id") (ofDocument d) := by
  refine .bind (Issue.gives_lift (requireId_gives_id _ d)) fun id own => ?_
  dsimp only
  cases ChoiceType.ofDocument? (d.getD "type" "plain") with
  | none => exact .of_throw _ _
  | some type =>
    refine .last fun type => .last fun effects => .last fun items => ?_
    exact .last fun requirements => .last fun metadata => .pure own

/-! ## Scenes -/

namespace Scene

/-- What is under the key of a delay. -/
def delayUnder (d : Document) : Document :=
  Document.orElse (d.field? "delay") (.int 0)

/-- Whether a delay can be told, and is less than none. -/
def isOverdue (d : Document) : Bool :=
  match (delayUnder d).toFloat with
  | .ok milliseconds => (Number.float (milliseconds / 1000.0)).lt 0
  | .error _ => false

theorem delayOf_eq (scene d : Document) :
    delayOf scene d = (do
      let milliseconds ← (delayUnder d).toFloat.guarded (.timeEffectsDelay scene (d.get "delay"))
      if (Number.float (milliseconds / 1000.0)).lt 0 then
        throw (.content (.timeEffectsNegative scene))
      pure (milliseconds / 1000.0)) := by
  unfold delayOf delayUnder Result.guarded
  cases (Document.orElse (d.field? "delay") (.int 0)).toFloat with
  | ok milliseconds => rfl
  | error fault => cases fault <;> rfl

theorem delayOf_decided (scene d : Document) :
    DecidedBy [.delay (delayUnder d), .rule (!isOverdue d)] (delayOf scene d) := by
  rw [delayOf_eq]
  refine .next (.guarded _ rfl (Document.toFloat_slips _) (Document.toFloat_form _)) ?_
  intro milliseconds read
  rw [isOverdue, Result.ok_of_guarded read]
  dsimp only
  cases (Number.float (milliseconds / 1000.0)).lt 0 with
  | true => exact .broken _ _
  | false => exact .kept (.pure _)

/-- A bundle that waits, if there is one, is an object. -/
def timeDemands (d : Document) : List Demand :=
  if !d.isTruthy then []
  else
    match d with
    | .object fields =>
      [.delay (delayUnder d), .rule (!isOverdue d)] ++
        Effect.demands (.object (Fields.without fields "delay"))
    | _ => [.rule false]

theorem timeEffectsOf_decided (scene d : Document) :
    Issue.DecidedBy (timeDemands d) (timeEffectsOf scene d) := by
  unfold timeEffectsOf timeDemands
  split
  · exact .pure none
  · cases d with
    | object fields =>
      refine .bind (.lift (delayOf_decided scene _)) fun delay _ _ _ => ?_
      rw [← List.append_nil (Effect.demands _)]
      exact .bind (Effect.ofDocument_decided _) fun effect _ _ _ => .pure _
    | _ => exact .broken _ _

/-- What is under one of two keys where a list is expected. -/
def idsUnder (d : Document) (key otherKey : String) : Document :=
  Document.orElse (some (d.getD key (d.getD otherKey (.list [])))) (.list [])

def demands (d : Document) : List Demand :=
  .rule (d.get "id").isTruthy :: .pairs (objectUnder d "metadata") ::
    (timeDemands ((objectUnder d "metadata").ownPairs.getD "timeEffects" .null) ++
      (Effect.demands (d.get "effects") ++
        [.items (idsUnder d "choiceIds" "choices"),
          .items (idsUnder d "characterIds" "characters")]))

theorem ofDocument_decided (d : Document) : Issue.DecidedBy (demands d) (ofDocument d) := by
  refine .next (requireId_decided _ d) fun id _ => ?_
  refine .next (Document.toFields_decided _) fun metadata isOk => ?_
  rw [Document.toFields_of_ok isOk]
  refine .bind (timeEffectsOf_decided _ _) fun timeEffects _ _ _ => ?_
  refine .bind (Effect.ofDocument_decided _) fun effects _ _ _ => ?_
  refine .next (Document.toItems_decided _) fun choiceIds _ => ?_
  exact .next (Document.toItems_decided _) fun characterIds _ => .pure _

theorem ofDocument_gives_id (d : Document) :
    Issue.Gives (fun scene => scene.id = d.get "id") (ofDocument d) := by
  refine .bind (Issue.gives_lift (requireId_gives_id _ d)) fun id own => ?_
  exact .last fun metadata => .last fun timeEffects => .last fun effects =>
    .last fun choiceIds => .last fun characterIds => .pure own

end Scene

/-! ## Stories -/

namespace Story

/-- Identities that records can be found by, each unlike those before it. -/
def distinctDemands (seen : List Document) : List Document → List Demand
  | [] => []
  | id :: ids => .key id :: .rule (!seen.any id.equals) :: distinctDemands (id :: seen) ids

theorem checkDistinct_decided (record : String) (ids : List Document) :
    DecidedBy (distinctDemands [] ids) (checkDistinct record ids) := by
  have go : ∀ seen, DecidedBy (distinctDemands seen ids) (checkDistinct.go record seen ids) := by
    induction ids with
    | nil => exact fun seen => .pure ()
    | cons id ids ih =>
      intro seen
      refine .next id.checkKey_decided fun _ _ => ?_
      cases seen.any id.equals with
      | true => exact .broken _ _
      | false => exact .kept (ih (id :: seen))
  exact go []

/-- The identities of the records under a key. -/
def idsOf (d : Document) (key : String) : List Document :=
  (listUnder d key).parts.map fun record => record.get "id"

def demands (d : Document) : List Demand :=
  .rule (d.get "id").isTruthy ::
    (Demand.listing (listUnder d "scenes") Scene.demands ++
      .rule (!(idsOf d "scenes").isEmpty) ::
      (distinctDemands [] (idsOf d "scenes") ++
        (Demand.listing (listUnder d "choices") Choice.demands ++
          (distinctDemands [] (idsOf d "choices") ++
            (Demand.listing (listUnder d "characters") Character.demands ++
              (distinctDemands [] (idsOf d "characters") ++
                (Demand.listing (listUnder d "achievements") Achievement.demands ++ [])))))))

/-- Records that are read have the identities that were written. -/
theorem ids_of_mapM {α : Type} {f : Document → Issue α} {own : α → Document} {d : Document}
    {key : String} (each : ∀ item, Issue.Gives (fun record => own record = item.get "id") (f item))
    {records : List α} {issued issued' : Nat}
    (read : outcome ((listUnder d key).parts.mapM f) issued = (.ok records, issued')) :
    records.map own = idsOf d key :=
  ((Upholds.map_mapM _ fun item _ => each item).of_outcome trivial read).2 records rfl

theorem ofDocument_decided (d : Document) : Issue.DecidedBy (demands d) (ofDocument d) := by
  unfold ofDocument
  split
  · refine .next (requireId_decided _ _) fun id _ => ?_
    refine .listing Scene.ofDocument_decided fun scenes _ _ read => ?_
    rw [← ids_of_mapM Scene.ofDocument_gives_id read]
    cases scenes with
    | nil => exact .broken _ _
    | cons first others =>
      refine .kept ?_
      refine .bind (.lift (checkDistinct_decided _ _)) fun _ _ _ _ => ?_
      refine .listing Choice.ofDocument_decided fun choices _ _ read => ?_
      rw [← ids_of_mapM Choice.ofDocument_gives_id read]
      refine .bind (.lift (checkDistinct_decided _ _)) fun _ _ _ _ => ?_
      refine .listing (fun c => .lift (Character.ofDocument_decided c))
        fun characters _ _ read => ?_
      rw [← ids_of_mapM (fun c => Issue.gives_lift (Character.ofDocument_gives_id c)) read]
      refine .bind (.lift (checkDistinct_decided _ _)) fun _ _ _ _ => ?_
      exact .listing (fun a => .lift (Achievement.ofDocument_decided a)) fun _ _ _ _ => .pure _
  · rename_i other
    rw [demands, Document.get_of_not_object other]
    exact .broken _ _

/-- A document is read as a story or refused as malformed exactly if the first demand that it does
not meet, if there is one, is guarded. -/
theorem read_or_refused_iff (d : Document) (issued : Nat) :
    (∃ story, result (ofDocument d) issued = .ok story) ∨
        (∃ fault, result (ofDocument d) issued = .error fault ∧ fault.isOfContent = true) ↔
      ∀ demand, Demand.firstUnmet (demands d) = some demand → demand.isGuarded = true := by
  have decided := ofDocument_decided d issued
  unfold Result.DecidedBy at decided
  cases first : Demand.firstUnmet (demands d) with
  | none =>
    rw [first] at decided
    exact iff_of_true (.inl decided) nofun
  | some demand =>
    rw [first] at decided
    obtain ⟨fault, failed, guarded⟩ := decided
    rw [failed]
    constructor
    · rintro (⟨story, isOk⟩ | ⟨fault', same, ofContent⟩) demand' isFirst
      · cases isOk
      · cases same
        cases isFirst
        rwa [← guarded]
    · intro all
      exact .inr ⟨fault, rfl, guarded.trans (all demand rfl)⟩

/-- A story with one scene, and with an achievement whose points are a text. -/
def ferryOfCaptains : Document :=
  .object [("id", "ferry"), ("title", "The ferry"), ("startingSceneId", "pier"),
    ("scenes", .list [.object [("id", "pier"), ("title", "Pier"), ("content", "You wait.")]]),
    ("achievements", .list [.object [("id", "captain"), ("points", "many")]])]

theorem ferryOfCaptains_neither_read_nor_refused :
    ¬ ((∃ story, result (ofDocument ferryOfCaptains) 0 = .ok story) ∨
      ∃ fault, result (ofDocument ferryOfCaptains) 0 = .error fault ∧
        fault.isOfContent = true) := by
  have failed : result (ofDocument ferryOfCaptains) 0 = .error (.value (.notAnInt "many")) := rfl
  rw [failed]
  rintro (⟨story, isOk⟩ | ⟨fault, same, ofContent⟩)
  · cases isOk
  · cases same
    cases ofContent

end Story

end InteractiveFiction
