import InteractiveFiction.Inventory.Use
import InteractiveFiction.Proofs.Backdrop

/-!
Items and the backdrop: adding, removing, wearing and using items leave it alone, and fail only by
accident.
-/

set_option autoImplicit false

namespace InteractiveFiction

open Course

namespace Inventory

open InteractiveFiction.Action

theorem fits_slips (total : Int) (limit : Document) : Result.Slips (fits total limit) := by
  unfold fits
  split
  · exact .pure _
  · exact .throw rfl

theorem merge_slips (item : Item) (items : List Item) : Result.Slips (merge item items) := by
  induction items with
  | nil => exact .pure none
  | cons entry entries ih =>
    unfold merge
    have search : Result.Slips (do pure ((← merge item entries).map (entry :: ·))) :=
      .bind ih fun _ => .pure _
    dsimp only
    split
    · refine .bind (fits_slips _ _) fun fit => ?_
      cases fit
      · exact search
      · exact .pure _
    · exact search

theorem insert_slips (items : List Item) (item : Item) : Result.Slips (insert items item) := by
  unfold insert
  dsimp only
  split
  · refine .bind (merge_slips item items) fun merged => ?_
    cases merged <;> exact .pure _
  · exact .pure _

theorem insertItem_inFront (item : Item) : InFront (insertItem item) :=
  .bind confined_state fun _ => .bind (confined_lift (insert_slips _ _)) fun _ =>
    .bind (confined_modifyState fun _ => rfl) fun _ => confined_publish rfl

theorem takeItem_inFront (id : String) (quantity : Int) : InFront (takeItem id quantity) := by
  unfold takeItem
  refine .bind confined_state fun state => ?_
  rcases take id quantity state.inventory with ⟨rest, taken⟩
  refine .bind (confined_modifyState fun _ => rfl) fun _ => confined_publishAll fun event mem => ?_
  obtain ⟨n, -, rfl⟩ := List.mem_map.1 mem
  rfl

theorem addItems_inFront (items : List Item) : InFront (addItems items) := by
  unfold addItems
  refine .bind confined_state fun state => .branch ?_ ?_
  · refine .bind (.forIn items _ fun item _ _ => ?_) fun _ => .pure true
    exact .bind (insertItem_inFront item) fun _ => .pure _
  · exact .bind (confined_publish rfl) fun _ => .pure false

theorem removeItems_inFront (removals : List ItemRemoval) : InFront (removeItems removals) := by
  unfold removeItems
  refine .bind confined_state fun state => .branch ?_ (.pure false)
  refine .bind (.forIn _ _ fun entry _ _ => ?_) fun _ => .pure true
  exact .bind (takeItem_inFront entry.1 entry.2) fun _ => .pure _

theorem equip_inFront (id slot : Document) : InFront (equip id slot) := by
  unfold equip
  refine .bind confined_state fun state => ?_
  split
  · exact .throw rfl
  · refine .bind (takeItem_inFront _ _) fun _ => ?_
    refine .bind (confined_lift slot.checkKey_slips) fun _ => ?_
    refine .bind confined_state fun state => .bind (confined_modifyPlayer _) fun _ => ?_
    dsimp only
    split
    · exact .bind (insertItem_inFront _) fun _ => .pure _
    · exact .pure _

end Inventory

namespace Item

open InteractiveFiction.Action

theorem amount_slips (d : Document) : Result.Slips (amount d) := by
  unfold amount
  split
  · exact .pure _
  · exact .throw rfl

theorem wear_inFront (item : Item) (message : String) (slot : Document) :
    InFront (item.wear message slot) :=
  .bind (Inventory.equip_inFront _ _) fun _ => .pure _

theorem usePotion_slips (item : Item) (properties : Fields) :
    Result.Slips (item.usePotion properties) :=
  .bind (Document.toFields_slips _ _) fun _ => .pure _

theorem useFood_slips (item : Item) (properties : Fields) :
    Result.Slips (item.useFood properties) :=
  .bind (amount_slips _) fun _ => .pure _

theorem useBook_slips (item : Item) (properties : Fields) :
    Result.Slips (item.useBook properties) :=
  .bind (Document.toItems_slips _) fun _ => .bind (amount_slips _) fun _ => .pure _

theorem useScroll_slips (item : Item) (properties : Fields) (mana : Int) :
    Result.Slips (item.useScroll properties mana) := by
  refine .bind (amount_slips _) fun cost => ?_
  split
  · exact .pure _
  · exact .pure _

theorem useByType_inFront (item : Item) : InFront item.useByType := by
  have fields : ∀ access, InFront (liftM (item.properties.fields access) : Action Fields) :=
    fun access => confined_lift (Document.toFields_slips _ access)
  unfold useByType
  dsimp only
  split
  · exact .bind (fields _) fun _ => confined_lift (usePotion_slips _ _)
  · exact .bind (fields _) fun _ => confined_lift (useFood_slips _ _)
  · exact wear_inFront _ _ _
  · exact .bind (fields _) fun _ => wear_inFront _ _ _
  · exact .bind (fields _) fun _ => .pure _
  · exact .bind (fields _) fun _ => .pure _
  · exact .bind (fields _) fun _ => confined_lift (useBook_slips _ _)
  · exact .bind (fields _) fun _ => .bind confined_state fun _ =>
      confined_lift (useScroll_slips _ _ _)
  · exact .bind (confined_lift (Document.checkKey_slips _)) fun _ => .pure _

end Item

theorem Inventory.useItem_inFront (id : Document) : InFront (Inventory.useItem id) := by
  unfold Inventory.useItem
  refine .bind Action.confined_state fun state => ?_
  split
  · exact .pure _
  · rename_i item _
    refine .bind item.useByType_inFront fun use => ?_
    refine .bind (Action.confined_lift (Document.toFields_slips _ _)) fun fields => ?_
    have announce : ∀ consumed, InFront (do
        Action.publish (.itemUsed item.id use.success use.message)
        pure { use with consumed }) :=
      fun consumed => .bind (Action.confined_publish rfl) fun _ => .pure _
    dsimp only
    split
    · exact .bind (takeItem_inFront _ _) fun _ => announce _
    · exact announce _

end InteractiveFiction
