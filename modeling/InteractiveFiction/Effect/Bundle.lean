import InteractiveFiction.Identity
import InteractiveFiction.State

/-!
Bundles of effects: the changes that a choice, a scene or an item asks for together.

* `Effect`: number deltas, attribute and relationship deltas, flags, items to add and remove,
  audio cues, custom effects and events to announce.
* `Effect.ofDocument` and `Effect.toDocument`: bundles as authors write them.  An item to add that
  has a name and no id is issued one.
-/

set_option autoImplicit false

namespace InteractiveFiction

/-- An effect told by its type: teleport, transform, summon, curse or blessing. -/
structure CustomEffect where
  type : String
  params : Fields
deriving DecidableEq

structure ItemRemoval where
  id : String
  quantity : Int := 1
  name : Document := .null
deriving DecidableEq

/-- A sound or a piece of music, by the name of its file. -/
structure AudioCue where
  file : Document
  /-- Never null. -/
  volume : Option Document := none
  loop : Bool := false
deriving DecidableEq

structure Effect where
  health : Option Number := none
  mana : Option Number := none
  gold : Option Int := none
  experience : Option Number := none
  attributes : OrderedMap Int := .empty
  flags : Flags := .empty
  addItems : List Item := []
  removeItems : List ItemRemoval := []
  relationships : OrderedMap Int := .empty
  sound : Option AudioCue := none
  music : Option AudioCue := none
  custom : List CustomEffect := []
  events : List String := []
deriving DecidableEq

/-! ## Parts -/

namespace CustomEffect

def types : List String :=
  ["teleport", "transform", "summon", "curse", "blessing"]

def param (custom : CustomEffect) (key : String) : Document :=
  custom.params.getD key .null

def ofDocument (d : Document) : Result CustomEffect :=
  match d with
  | .object fields =>
    let type := d.get "type"
    if type.isTruthy then pure { type := type.display, params := Fields.without fields "type" }
    else throw (.content (.customWithoutType d))
  | d => throw (.content (.customWithoutType d))

def toDocument (custom : CustomEffect) : Document :=
  .object (("type", .text custom.type) :: custom.params)

end CustomEffect

def Effect.readInt (name : String) (d : Document) : Result Int :=
  if d.isBool then throw (.content (.effectValue name "bool"))
  else
    match d.toInt with
    | .error (.value _) | .error (.mistyped _) =>
      throw (.content (.effectValue name d.quoted))
    | result => result

namespace ItemRemoval

def ofDocument (d : Document) : Result ItemRemoval :=
  match d with
  | .text id => pure { id }
  | .object _ => do
    let id := d.get "id"
    if !id.isTruthy then throw (.content (.removalWithoutId d))
    let quantity ← Effect.readInt "removeItems.quantity" (d.getD "quantity" (.int 1))
    pure { id := id.display, quantity, name := d.get "name" }
  | d => throw (.content (.removalWithoutId d))

def toDocument (removal : ItemRemoval) : Document :=
  .object <|
    [("id", .text removal.id), ("quantity", .int removal.quantity)] ++
    (if removal.name.isTruthy then [("name", removal.name)] else [])

/-- The name of what is removed, its id when it has none. -/
def title (removal : ItemRemoval) : Document :=
  if removal.name.isTruthy then removal.name else removal.id

end ItemRemoval

namespace AudioCue

def ofDocument (d : Document) : Result AudioCue :=
  match d with
  | .text file => pure { file := file }
  | .object _ =>
    let file := d.get "file"
    if file.isTruthy then
      pure { file, volume := (d.get "volume").toOption, loop := (d.get "loop").isTruthy }
    else throw (.content (.audioCue d))
  | d => throw (.content (.audioCue d))

def toDocument (cue : AudioCue) : Document :=
  .object <|
    [("file", cue.file)] ++
    (match cue.volume with
      | some volume => [("volume", volume)]
      | none => []) ++
    (if cue.loop then [("loop", .bool true)] else [])

end AudioCue

/-! ## Bundles -/

namespace Effect

def isEmpty (effect : Effect) : Bool :=
  effect.health.isNone && effect.mana.isNone && effect.gold.isNone && effect.experience.isNone &&
    effect.attributes.isEmpty && effect.flags.isEmpty && effect.addItems.isEmpty &&
    effect.removeItems.isEmpty && effect.relationships.isEmpty && effect.sound.isNone &&
    effect.music.isNone && effect.custom.isEmpty && effect.events.isEmpty

def canonicalKey : String → String
  | "stats" => "attributes"
  | "addItems" => "add_items"
  | "removeItems" => "remove_items"
  | key => key

def knownKeys : List String :=
  ["health", "mana", "gold", "experience", "attributes", "flags", "add_items", "remove_items",
    "relationships", "sound", "music", "custom", "events"]

/-- The fields of a bundle under canonical keys; of two spellings of a key the later one counts. -/
def canonical (fields : Fields) : Fields :=
  fields.foldl (fun (known : Fields) (key, value) => known.put (canonicalKey key) value) []

def sortTexts (texts : List String) : List String :=
  texts.mergeSort fun a b => decide (a ≤ b)

def optionalInt (fields : Fields) (name : String) : Result (Option Int) :=
  match (fields.getD name .null).toOption with
  | some d => do pure (some (← readInt name d))
  | none => pure none

def intsOf (name : String) (d : Document) : Result (OrderedMap Int) := do
  (← d.fields "items").foldlM (fun known (key, value) => do
    pure (known.insert key (← readInt (name ++ "." ++ key) value))) .empty

def itemToAdd (d : Document) : Issue Item :=
  match d with
  | .object fields =>
    if (d.get "id").isTruthy then Issue.ofResult (Item.ofDocument d)
    else if (d.get "name").isTruthy then do
      let n ← Identity.next
      Item.ofDocument (.object (Fields.put fields "id" (Identity.item n)))
    else throw (.content (.addedItemNameless d))
  | d => throw (.content (.addedItemNotObject d))

def cue (fields : Fields) (key : String) : Result (Option AudioCue) :=
  let d := fields.getD key .null
  if d.isTruthy then do pure (some (← AudioCue.ofDocument d)) else pure none

def ofFields (fields : Fields) : Issue Effect := do
  let health ← optionalInt fields "health"
  let mana ← optionalInt fields "mana"
  let gold ← optionalInt fields "gold"
  let experience ← optionalInt fields "experience"
  let attributes ← intsOf "attributes" (fields.getOr "attributes" (.object []))
  let flags ← Flags.ofFields (← (fields.getOr "flags" (.object [])).fields "items")
  let addItems ← (← (fields.getOr "add_items" (.list [])).toItems).mapM itemToAdd
  let removeItems ←
    (← (fields.getOr "remove_items" (.list [])).toItems).mapM fun d => ItemRemoval.ofDocument d
  let relationships ← intsOf "relationships" (fields.getOr "relationships" (.object []))
  let sound ← cue fields "sound"
  let music ← cue fields "music"
  let custom ←
    (← (fields.getOr "custom" (.list [])).toItems).mapM fun d => CustomEffect.ofDocument d
  let events ← (fields.getOr "events" (.list [])).toItems
  pure {
    health := health.map Number.int
    mana := mana.map Number.int
    gold
    experience := experience.map Number.int
    attributes, flags, addItems, removeItems, relationships, sound, music, custom
    events := events.map Document.display }

/-- The bundle an author wrote; what is absent or empty is the empty bundle. -/
def ofDocument (d : Document) : Issue Effect :=
  if !d.isTruthy then pure {}
  else
    match d with
    | .object fields =>
      let fields := canonical fields
      let unknown := (fields.map Prod.fst).filter fun key => !knownKeys.contains key
      if unknown.isEmpty then ofFields fields
      else throw (.content (.unknownEffectKeys (sortTexts unknown)))
    | d => throw (.content (.effectNotObject d.kind))

/-- A field of a bundle, left out when the bundle has nothing there. -/
def part (key : String) (present : Bool) (d : Document) : Fields :=
  if present then [(key, d)] else []

def deltasDocument (deltas : OrderedMap Int) : Document :=
  .object (deltas.entries.map fun (key, delta) => (key, .int delta))

def optionalPart {α : Type} (key : String) (value : Option α) (toDocument : α → Document) :
    Fields :=
  match value with
  | some value => [(key, toDocument value)]
  | none => []

def toDocument (effect : Effect) : Document :=
  .object <|
    optionalPart "health" effect.health .number ++
    optionalPart "mana" effect.mana .number ++
    optionalPart "gold" effect.gold .int ++
    optionalPart "experience" effect.experience .number ++
    part "attributes" (!effect.attributes.isEmpty) (deltasDocument effect.attributes) ++
    part "flags" (!effect.flags.isEmpty) effect.flags.toDocument ++
    part "addItems" (!effect.addItems.isEmpty) (.list (effect.addItems.map Item.toDocument)) ++
    part "removeItems" (!effect.removeItems.isEmpty)
      (.list (effect.removeItems.map ItemRemoval.toDocument)) ++
    part "relationships" (!effect.relationships.isEmpty) (deltasDocument effect.relationships) ++
    optionalPart "sound" effect.sound AudioCue.toDocument ++
    optionalPart "music" effect.music AudioCue.toDocument ++
    part "custom" (!effect.custom.isEmpty)
      (.list (effect.custom.map CustomEffect.toDocument)) ++
    part "events" (!effect.events.isEmpty) (.list (effect.events.map Document.text))

end Effect

end InteractiveFiction
