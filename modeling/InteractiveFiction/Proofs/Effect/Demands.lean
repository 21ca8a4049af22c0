import InteractiveFiction.Effect.Bundle
import InteractiveFiction.Proofs.Demands
import InteractiveFiction.Proofs.Fields
import InteractiveFiction.Proofs.Text

/-!
What reading asks of a bundle of effects.

Most of it is guarded: what a bundle adds to a number is refused as malformed unless it is infinite.
The numbers of the items that a bundle adds are not, nor are lists and objects of another kind.

`Effect.ofDocument_decided`: the demands on a bundle, in their order, decide how its reading ends.
-/

set_option autoImplicit false

namespace InteractiveFiction

open Result (DecidedBy)

/-! ## Items to add -/

/-- What is asked of an item that is identified. -/
def Item.demands (d : Document) : List Demand :=
  [.whole (d.ownFields.getOr "value" (.int 0)), .whole (d.ownFields.getOr "quantity" (.int 1))]

theorem Item.ofDocument_decided {fields : Fields}
    (identified : (fields.getOr "id" .null).isTruthy = true) :
    DecidedBy (demands (.object fields)) (ofDocument (.object fields)) := by
  unfold ofDocument
  rw [Result.bind_of_ok (rfl : Document.fields (.object fields) "get" = .ok fields)]
  simp only [identified, Bool.not_true, Bool.false_eq_true, if_false]
  exact .next (Document.toInt_decided _) fun value _ =>
    .next (Document.toInt_decided _) fun quantity _ => .pure _

theorem isTruthy_getOr_null (fields : Fields) (key : String) :
    (fields.getOr key .null).isTruthy = (Document.get (.object fields) key).isTruthy := by
  unfold Fields.getOr Document.get Document.getD Document.field?
  dsimp only
  cases List.lookup key fields with
  | none => rfl
  | some d =>
    rw [Document.orElse, Option.getD_some]
    cases present : d.isTruthy with
    | true => exact present
    | false => rfl

theorem Identity.item_ne_empty (n : Nat) : Identity.item n ≠ "" :=
  append_ne_empty_left (by decide)

namespace Effect

/-- An item to add has an id or a name. -/
def itemDemands (d : Document) : List Demand :=
  .rule ((d.get "id").isTruthy || (d.get "name").isTruthy) :: Item.demands d

/-- With an id of its own an item asks for what it asked for before. -/
theorem demands_identified (fields : Fields) (id : Document) :
    Item.demands (.object (fields.put "id" id)) = Item.demands (.object fields) := by
  have kept (key : String) (default : Document) (other : key ≠ "id") :
      (fields.put "id" id).getOr key default = fields.getOr key default := by
    unfold Fields.getOr
    rw [Fields.lookup_put, if_neg other]
  simp only [Item.demands, Document.ownFields, kept "value" _ (by decide),
    kept "quantity" _ (by decide)]

theorem itemToAdd_decided (d : Document) : Issue.DecidedBy (itemDemands d) (itemToAdd d) := by
  unfold itemToAdd
  split
  · rename_i fields
    split
    · rename_i identified
      rw [itemDemands, identified, Bool.true_or]
      refine .kept (.lift (Item.ofDocument_decided ?_))
      rwa [isTruthy_getOr_null]
    · rename_i unidentified
      split
      · rename_i named
        rw [itemDemands, named, Bool.or_true]
        have issue : Issue.DecidedBy [] (liftM Identity.next : Issue Nat) := fun _ => ⟨_, rfl⟩
        refine .kept (issue.bind fun n _ _ _ => .lift (?_ : DecidedBy (Item.demands _) _))
        rw [← demands_identified fields (Identity.item n)]
        refine Item.ofDocument_decided ?_
        rw [isTruthy_getOr_null, Document.get, Document.getD, Document.field?,
          Fields.lookup_put, if_pos rfl]
        exact isTruthy_text_iff.2 (Identity.item_ne_empty n)
      · rename_i nameless
        rw [itemDemands, Bool.eq_false_iff.2 unidentified, Bool.eq_false_iff.2 nameless]
        exact .broken _ _
  · rename_i other
    rw [itemDemands, Document.get_of_not_object other, Document.get_of_not_object other]
    exact .broken _ _

/-! ## Numbers -/

theorem readInt_eq (name : String) (d : Document) :
    readInt name d = if d.isBool then throw (.content (.effectValue name "bool"))
      else d.toInt.guarded (.effectValue name d.quoted) := by
  unfold readInt Result.guarded
  cases d.toInt with
  | ok n => rfl
  | error fault => cases fault <;> rfl

theorem readInt_decided (name : String) (d : Document) :
    DecidedBy [.amount d] (readInt name d) := by
  rw [readInt_eq]
  split
  · rename_i isBool
    refine .one (by simp [Demand.isMet, isBool]; rfl) (.throw ?_)
    cases d <;> first | rfl | cases isBool
  · rename_i notBool
    refine .guarded _ ?_ d.toInt_slips d.toInt_form
    simp [Demand.isMet, notBool]

/-- A whole number, or nothing. -/
def numberDemands (d : Document) : List Demand :=
  match d.toOption with
  | some d => [.amount d]
  | none => []

theorem optionalInt_decided (fields : Fields) (name : String) :
    DecidedBy (numberDemands (fields.getD name .null)) (optionalInt fields name) := by
  unfold optionalInt numberDemands
  cases (fields.getD name .null).toOption with
  | none => exact .pure none
  | some d => exact .next (readInt_decided name d) fun n _ => .pure (some n)

/-- Whole numbers under keys. -/
def deltaDemands (d : Document) : List Demand :=
  .object d :: d.ownFields.flatMap fun (_, value) => [.amount value]

theorem intsOf_decided (name : String) (d : Document) :
    DecidedBy (deltaDemands d) (intsOf name d) := by
  refine .next (d.fields_decided "items") fun fields isObject => ?_
  obtain rfl := Document.fields_of_ok isObject
  refine .foldlM (fun known (key, value) => ?_) fields OrderedMap.empty
  exact .next (readInt_decided _ value) fun n _ => .pure _

/-! ## Flags -/

/-- A flag has a name, and is a truth value, a number or a text. -/
def flagDemands (d : Document) : List Demand :=
  .object d :: d.ownFields.flatMap fun (key, value) =>
    [.rule (!key.isEmpty), .rule (FlagValue.ofDocument? value).isSome]

theorem set_decided (flags : Flags) (key : String) (value : Document) :
    DecidedBy [.rule (!key.isEmpty), .rule (FlagValue.ofDocument? value).isSome]
      (flags.set (.text key) value) := by
  unfold Flags.set FlagValue.check
  dsimp only
  cases nameless : key.isEmpty with
  | true => exact .broken _ _
  | false =>
    cases kind : FlagValue.ofDocument? value with
    | none => exact .kept (.broken _ [])
    | some flag => exact .kept (.kept (.pure _))

theorem ofFields_decided_flags (fields : Fields) :
    DecidedBy (fields.flatMap fun (key, value) =>
      [.rule (!key.isEmpty), .rule (FlagValue.ofDocument? value).isSome])
      (Flags.ofFields fields) :=
  .foldlM (fun flags (key, value) => set_decided flags key value) fields OrderedMap.empty

/-! ## Items to remove, cues, custom effects -/

def removalDemands (d : Document) : List Demand :=
  match d with
  | .text _ => []
  | d => [.rule (d.get "id").isTruthy, .amount (d.getD "quantity" (.int 1))]

theorem removal_decided (d : Document) :
    DecidedBy (removalDemands d) (ItemRemoval.ofDocument d) := by
  unfold ItemRemoval.ofDocument removalDemands
  cases d with
  | text id => exact .pure _
  | object fields =>
    dsimp only
    cases (Document.get (.object fields) "id").isTruthy with
    | false => exact .broken _ _
    | true => exact .kept (.next (readInt_decided _ _) fun quantity _ => .pure _)
  | _ => exact .broken _ _

/-- A cue, if there is one, is a text or names a file. -/
def cueDemands (d : Document) : List Demand :=
  [.rule (!d.isTruthy || d.text?.isSome || (d.get "file").isTruthy)]

theorem cue_decided (fields : Fields) (key : String) :
    DecidedBy (cueDemands (fields.getD key .null)) (cue fields key) := by
  unfold cue cueDemands
  dsimp only
  cases present : (fields.getD key .null).isTruthy with
  | false => exact .kept (.pure none)
  | true =>
    unfold AudioCue.ofDocument
    cases fields.getD key .null with
    | text file => exact .kept (.pure _)
    | object own =>
      dsimp only
      cases (Document.get (.object own) "file").isTruthy with
      | false => exact .broken _ _
      | true => exact .kept (.pure _)
    | _ => exact .broken _ _

def customDemands (d : Document) : List Demand :=
  [.rule (d.get "type").isTruthy]

theorem custom_decided (d : Document) :
    DecidedBy (customDemands d) (CustomEffect.ofDocument d) := by
  unfold CustomEffect.ofDocument customDemands
  cases d with
  | object fields =>
    dsimp only
    cases (Document.get (.object fields) "type").isTruthy with
    | false => exact .broken _ _
    | true => exact .kept (.pure _)
  | _ => exact .broken _ _

/-! ## Bundles -/

/-- What is asked of the fields of a bundle, under canonical keys. -/
def fieldDemands (fields : Fields) : List Demand :=
  numberDemands (fields.getD "health" .null) ++
  numberDemands (fields.getD "mana" .null) ++
  numberDemands (fields.getD "gold" .null) ++
  numberDemands (fields.getD "experience" .null) ++
  deltaDemands (fields.getOr "attributes" (.object [])) ++
  flagDemands (fields.getOr "flags" (.object [])) ++
  Demand.listing (fields.getOr "add_items" (.list [])) itemDemands ++
  Demand.listing (fields.getOr "remove_items" (.list [])) removalDemands ++
  deltaDemands (fields.getOr "relationships" (.object [])) ++
  cueDemands (fields.getD "sound" .null) ++
  cueDemands (fields.getD "music" .null) ++
  Demand.listing (fields.getOr "custom" (.list [])) customDemands ++
  [.items (fields.getOr "events" (.list []))]

theorem ofFields_decided (fields : Fields) :
    Issue.DecidedBy (fieldDemands fields) (ofFields fields) := by
  unfold fieldDemands ofFields
  simp only [List.append_assoc]
  refine .bind (.lift (optionalInt_decided _ _)) fun health _ _ _ => ?_
  refine .bind (.lift (optionalInt_decided _ _)) fun mana _ _ _ => ?_
  refine .bind (.lift (optionalInt_decided _ _)) fun gold _ _ _ => ?_
  refine .bind (.lift (optionalInt_decided _ _)) fun experience _ _ _ => ?_
  refine .bind (.lift (intsOf_decided _ _)) fun attributes _ _ _ => ?_
  refine .next (Document.fields_decided _ _) fun flagFields isObject => ?_
  rw [Document.fields_of_ok isObject]
  refine .bind (.lift (ofFields_decided_flags flagFields)) fun flags _ _ _ => ?_
  refine .listing itemToAdd_decided fun addItems _ _ _ => ?_
  refine .listing (fun d => .lift (removal_decided d)) fun removeItems _ _ _ => ?_
  refine .bind (.lift (intsOf_decided _ _)) fun relationships _ _ _ => ?_
  refine .bind (.lift (cue_decided _ _)) fun sound _ _ _ => ?_
  refine .bind (.lift (cue_decided _ _)) fun music _ _ _ => ?_
  refine .listing (fun d => .lift (custom_decided d)) fun custom _ _ _ => ?_
  exact .next (Document.toItems_decided _) fun events _ => .pure _

/-- A bundle is empty, or an object with the keys of bundles only. -/
def demands (d : Document) : List Demand :=
  if !d.isTruthy then []
  else
    match d with
    | .object fields =>
      .rule ((canonical fields).all fun (key, _) => knownKeys.contains key) ::
        fieldDemands (canonical fields)
    | _ => [.rule false]

theorem ofDocument_decided (d : Document) : Issue.DecidedBy (demands d) (ofDocument d) := by
  unfold ofDocument demands
  split
  · exact .pure _
  · cases d with
    | object fields =>
      dsimp only
      have known : (((canonical fields).map Prod.fst).filter fun key =>
          !knownKeys.contains key).isEmpty =
            (canonical fields).all fun (key, _) => knownKeys.contains key := by
        rw [Bool.eq_iff_iff, List.isEmpty_iff, List.filter_eq_nil_iff]
        simp
      rw [known]
      cases (canonical fields).all fun (key, _) => knownKeys.contains key with
      | false => exact .broken _ _
      | true => exact .kept (ofFields_decided _)
    | _ => exact .broken _ _

end Effect

end InteractiveFiction
