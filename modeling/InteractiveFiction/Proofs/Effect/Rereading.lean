import InteractiveFiction.Proofs.Effect.Demands
import InteractiveFiction.Proofs.State.Writing
import InteractiveFiction.Proofs.Story.WellFormed

/-!
Bundles that are written and read again.

* `Effect.slots`: what a bundle is written as, field by field; what is absent is left out.
* `Effect.Plain`: what every bundle is that was read (`Effect.ofDocument_gives_plain`).
* `Effect.reread`: what is read of the document of a bundle if each removal has an identity.
* `Effect.restored_iff`: a bundle that was read is read again as itself exactly if it adds no item
  none of it, and if its removals have identities and no empty names.
-/

set_option autoImplicit false

namespace InteractiveFiction

open Course

theorem map_eq_self_iff {α : Type} {f : α → α} {l : List α} : l.map f = l ↔ ∀ a ∈ l, f a = a := by
  have compared := List.map_inj_left (l := l) (f := f) (g := id)
  rwa [List.map_id] at compared

theorem Issue.delivers_lift {α : Type} {r : Result α} {a : α} (h : r = .ok a) :
    Delivers (· = a) (liftM r : Issue α) := by
  rw [h]
  exact .pure rfl

/-! ## Parts -/

namespace CustomEffect

/-- A type that is there, and is told once. -/
structure Plain (custom : CustomEffect) : Prop where
  type : custom.type ≠ ""
  params : Fields.without custom.params "type" = custom.params

theorem ofDocument_gives_plain (d : Document) : (ofDocument d).Gives Plain := by
  unfold ofDocument
  split
  · rename_i fields
    dsimp only
    split
    · rename_i typed
      refine .pure ⟨Document.display_ne_empty typed, ?_⟩
      simp [Fields.without]
    · exact .throw _
  · exact .throw _

theorem ofDocument_toDocument {custom : CustomEffect} (plain : custom.Plain) :
    ofDocument custom.toDocument = .ok custom := by
  have typed : (Document.text custom.type).isTruthy = true := isTruthy_text_iff.2 plain.type
  have rest : Fields.without (("type", .text custom.type) :: custom.params) "type" =
      custom.params := by
    rw [← plain.params]
    simp [Fields.without]
  unfold ofDocument toDocument
  dsimp only [Document.get, Document.getD, Document.field?]
  rw [List.lookup_cons_self, Option.getD_some, if_pos typed, rest]
  rfl

end CustomEffect

namespace ItemRemoval

/-- A removal as it is read again: a name that is empty is none. -/
def reread (removal : ItemRemoval) : ItemRemoval :=
  { removal with name := if removal.name.isTruthy then removal.name else .null }

theorem reread_eq_self_iff {removal : ItemRemoval} :
    removal.reread = removal ↔ removal.name = .null ∨ removal.name.isTruthy = true := by
  obtain ⟨id, quantity, name⟩ := removal
  unfold reread
  dsimp only
  split
  · rename_i named
    exact iff_of_true rfl (.inr named)
  · rename_i nameless
    constructor
    · intro same
      exact .inl (congrArg ItemRemoval.name same).symm
    · rintro (none | named)
      · rw [none]
      · exact absurd named nameless

theorem ofDocument_toDocument {removal : ItemRemoval} (identified : removal.id ≠ "") :
    ofDocument removal.toDocument = .ok removal.reread := by
  have present : (Document.text removal.id).isTruthy = true := isTruthy_text_iff.2 identified
  have read (name : Document) (fields : Fields)
      (named : (Document.object (("id", .text removal.id) ::
        ("quantity", .int removal.quantity) :: fields)).get "name" = name) :
      ofDocument (.object (("id", .text removal.id) ::
        ("quantity", .int removal.quantity) :: fields)) = .ok { removal with name := name } := by
    have id : (Document.object (("id", .text removal.id) ::
        ("quantity", .int removal.quantity) :: fields)).get "id" = .text removal.id := rfl
    unfold ofDocument
    dsimp only
    rw [id, present, named]
    rfl
  unfold toDocument reread
  split
  · exact read _ _ rfl
  · exact read _ _ rfl

theorem toDocument_reread (removal : ItemRemoval) :
    removal.reread.toDocument = removal.toDocument := by
  have none : Document.null.isTruthy = false := rfl
  unfold toDocument reread
  cases named : removal.name.isTruthy <;> simp [named, none]

end ItemRemoval

namespace AudioCue

structure Plain (cue : AudioCue) : Prop where
  file : cue.file.isTruthy = true
  volume : cue.volume ≠ some .null

theorem ofDocument_gives_plain {d : Document} (present : d.isTruthy = true) :
    (ofDocument d).Gives Plain := by
  unfold ofDocument
  split
  · exact .pure ⟨present, nofun⟩
  · dsimp only
    split
    · rename_i filed
      exact .pure ⟨filed, Document.toOption_ne_null _⟩
    · exact .throw _
  · exact .throw _

theorem ofDocument_toDocument {cue : AudioCue} (plain : cue.Plain) :
    ofDocument cue.toDocument = .ok cue := by
  obtain ⟨file, volume, loop⟩ := cue
  obtain ⟨filed, volume_ne⟩ := plain
  dsimp only at filed volume_ne
  have read (fields : Fields) (heard : (Document.object (("file", file) :: fields)).get "volume" =
        Document.ofOption volume)
      (looped : ((Document.object (("file", file) :: fields)).get "loop").isTruthy = loop) :
      ofDocument (.object (("file", file) :: fields)) = .ok { file, volume, loop } := by
    have own : (Document.object (("file", file) :: fields)).get "file" = file := rfl
    have told : (Document.ofOption volume).toOption = volume := by
      cases volume with
      | none => rfl
      | some volume => exact Document.toOption_of_ne_null fun null => volume_ne (congrArg some null)
    unfold ofDocument
    dsimp only
    rw [own, if_pos filed, heard, looped, told]
    rfl
  cases volume <;> cases loop <;> exact read _ rfl rfl

end AudioCue

/-! ## Bundles -/

namespace Effect

open Issue

/-- Of a bundle that was read: its numbers are whole, its custom effects have types and its cues
files. -/
structure Plain (effect : Effect) : Prop extends effect.WellFormed where
  health : ∀ n, effect.health = some n → ∃ k, n = .int k
  mana : ∀ n, effect.mana = some n → ∃ k, n = .int k
  experience : ∀ n, effect.experience = some n → ∃ k, n = .int k
  sound : ∀ cue, effect.sound = some cue → cue.Plain
  music : ∀ cue, effect.music = some cue → cue.Plain
  custom : ∀ custom ∈ effect.custom, custom.Plain

theorem cue_gives_plain (fields : Fields) (key : String) :
    (cue fields key).Gives fun heard => ∀ cue, heard = some cue → cue.Plain := by
  unfold cue
  dsimp only
  split
  · rename_i present
    refine .bind (AudioCue.ofDocument_gives_plain present) fun cue plain => .pure fun own same => ?_
    cases same
    exact plain
  · exact .pure nofun

theorem ofFields_gives_plain (fields : Fields) : Issue.Gives Plain (ofFields fields) := by
  have whole : ∀ (delta : Option Int) (n : Number), delta.map Number.int = some n →
      ∃ k, n = .int k := by
    intro delta n is
    obtain ⟨k, -, rfl⟩ := Option.map_eq_some_iff.1 is
    exact ⟨k, rfl⟩
  refine .last fun health => .last fun mana => .last fun gold => .last fun experience => ?_
  refine .last fun attributes => .last fun flagFields => ?_
  refine .bind (Issue.gives_lift fun _ read => Flags.named_of_ofFields read) fun flags named => ?_
  refine .last fun items => .bind (.mapM _ fun d _ => itemToAdd_gives d) fun addItems kept => ?_
  refine .last fun removals => .last fun removeItems => .last fun relationships => ?_
  refine .bind (Issue.gives_lift (cue_gives_plain fields "sound")) fun sound heard => ?_
  refine .bind (Issue.gives_lift (cue_gives_plain fields "music")) fun music played => ?_
  refine .last fun customs => .bind (.mapM _ fun d _ =>
    Issue.gives_lift (CustomEffect.ofDocument_gives_plain d)) fun custom plain => ?_
  exact .last fun events => .pure {
    flags := named
    addItems := kept
    health := whole health
    mana := whole mana
    experience := whole experience
    sound := heard
    music := played
    custom := plain }

theorem ofDocument_gives_plain (d : Document) : Issue.Gives Plain (ofDocument d) := by
  unfold ofDocument
  refine .branch (.pure ⟨⟨nofun, nofun⟩, nofun, nofun, nofun, nofun, nofun, nofun⟩) ?_
  split
  · exact .branch (ofFields_gives_plain _) (.throw _)
  · exact .throw _

/-- A bundle as it is read again: none of an item is one of it, and an empty name of what is removed
is none. -/
def reread (effect : Effect) : Effect :=
  { effect with
    addItems := effect.addItems.map Item.counted
    removeItems := effect.removeItems.map ItemRemoval.reread }

theorem reread_eq_self_iff {effect : Effect} :
    effect.reread = effect ↔ (∀ item ∈ effect.addItems, item.quantity ≠ 0) ∧
      ∀ removal ∈ effect.removeItems, removal.name = .null ∨ removal.name.isTruthy = true := by
  have parts : effect.reread = effect ↔ effect.addItems.map Item.counted = effect.addItems ∧
      effect.removeItems.map ItemRemoval.reread = effect.removeItems := by
    cases effect
    simp [reread]
  have items : effect.addItems.map Item.counted = effect.addItems ↔
      ∀ item ∈ effect.addItems, item.quantity ≠ 0 := by
    rw [map_eq_self_iff]
    exact forall₂_congr fun item _ => Item.counted_eq_self_iff
  have removals : effect.removeItems.map ItemRemoval.reread = effect.removeItems ↔
      ∀ removal ∈ effect.removeItems, removal.name = .null ∨ removal.name.isTruthy = true := by
    rw [map_eq_self_iff]
    exact forall₂_congr fun removal _ => ItemRemoval.reread_eq_self_iff
  rw [parts, items, removals]

theorem toDocument_reread {effect : Effect}
    (counted : ∀ item ∈ effect.addItems, item.quantity ≠ 0) :
    effect.reread.toDocument = effect.toDocument := by
  have items : effect.addItems.map Item.counted = effect.addItems :=
    map_eq_self_iff.2 fun item mem => Item.counted_eq_self_iff.2 (counted item mem)
  have removals : (effect.removeItems.map ItemRemoval.reread).map ItemRemoval.toDocument =
      effect.removeItems.map ItemRemoval.toDocument := by
    rw [List.map_map]
    exact List.map_congr_left fun removal _ => removal.toDocument_reread
  unfold toDocument reread
  dsimp only
  rw [items, removals, List.isEmpty_map]

/-- What a bundle is written as. -/
def slots (effect : Effect) : List (String × Option Document) := [
  ("health", effect.health.map .number), ("mana", effect.mana.map .number),
  ("gold", effect.gold.map .int), ("experience", effect.experience.map .number),
  ("attributes", if !effect.attributes.isEmpty then some (deltasDocument effect.attributes)
    else none),
  ("flags", if !effect.flags.isEmpty then some effect.flags.toDocument else none),
  ("addItems", if !effect.addItems.isEmpty then some (.list (effect.addItems.map Item.toDocument))
    else none),
  ("removeItems", if !effect.removeItems.isEmpty then
    some (.list (effect.removeItems.map ItemRemoval.toDocument)) else none),
  ("relationships", if !effect.relationships.isEmpty then some (deltasDocument effect.relationships)
    else none),
  ("sound", effect.sound.map AudioCue.toDocument), ("music", effect.music.map AudioCue.toDocument),
  ("custom", if !effect.custom.isEmpty then some (.list (effect.custom.map CustomEffect.toDocument))
    else none),
  ("events", if !effect.events.isEmpty then some (.list (effect.events.map Document.text))
    else none)]

theorem toDocument_eq (effect : Effect) :
    effect.toDocument = .object (Fields.present effect.slots) := by
  have optional {α : Type} (key : String) (value : Option α) (write : α → Document) :
      optionalPart key value write = Fields.slot key (value.map write) := by
    cases value <;> rfl
  have filled (key : String) (present : Bool) (d : Document) :
      part key present d = Fields.slot key (if present then some d else none) := by
    cases present <;> rfl
  unfold toDocument
  simp only [optional, filled, List.append_assoc]
  simp only [Fields.present, slots, List.flatMap_cons, List.flatMap_nil, List.append_nil]

/-! ### Canonical keys -/

/-- Under keys that stay different, fields keep their order. -/
theorem canonical_of_nodup {fields : Fields}
    (nodup : (fields.map fun entry => canonicalKey entry.1).Nodup) :
    canonical fields = fields.map fun (key, value) => (canonicalKey key, value) := by
  have grown : ∀ (rest known : Fields),
      (known.map Prod.fst ++ rest.map fun entry => canonicalKey entry.1).Nodup →
      rest.foldl (fun (known : Fields) (key, value) => known.put (canonicalKey key) value) known =
        known ++ rest.map fun (key, value) => (canonicalKey key, value) := by
    -- What is known already stays in front, and no later key is among it.
    intro rest
    induction rest with
    | nil => simp
    | cons entry rest ih =>
      intro known nodup
      obtain ⟨key, value⟩ := entry
      have new : canonicalKey key ∉ known.map Prod.fst := by
        rw [List.map_cons, List.nodup_append] at nodup
        exact fun old => nodup.2.2 _ old _ (by simp) rfl
      rw [List.foldl_cons]
      dsimp only
      rw [Fields.put_of_new _ new, ih]
      · simp
      · simpa using nodup
  exact grown fields [] nodup

/-- What a bundle is written as, under canonical keys. -/
def canonicalSlots (effect : Effect) : List (String × Option Document) :=
  effect.slots.map fun (key, value) => (canonicalKey key, value)

theorem keys_canonicalSlots (effect : Effect) :
    effect.canonicalSlots.map Prod.fst = knownKeys := rfl

theorem canonical_present (effect : Effect) :
    canonical (Fields.present effect.slots) = Fields.present effect.canonicalSlots := by
  have renamed (slots : List (String × Option Document)) :
      ((Fields.present slots).map fun (key, value) => (canonicalKey key, value)) =
        Fields.present (slots.map fun (key, value) => (canonicalKey key, value)) := by
    induction slots with
    | nil => rfl
    | cons entry slots ih =>
      obtain ⟨key, value⟩ := entry
      rw [Fields.present, List.flatMap_cons, List.map_append, List.map_cons]
      rw [Fields.present] at ih
      rw [ih]
      cases value <;> rfl
  have nodup : ((Fields.present effect.slots).map fun entry => canonicalKey entry.1).Nodup := by
    have keys := congrArg (List.map Prod.fst) (renamed effect.slots)
    rw [List.map_map] at keys
    have known := Fields.keys_present_sublist effect.canonicalSlots
    rw [keys_canonicalSlots] at known
    have distinct : knownKeys.Nodup := by decide
    exact keys ▸ distinct.sublist known
  rw [canonical_of_nodup nodup, renamed]
  rfl

theorem lookup_canonical (effect : Effect) (key : String) :
    List.lookup key (canonical (Fields.present effect.slots)) =
      (List.lookup key effect.canonicalSlots).join := by
  rw [canonical_present]
  refine Fields.lookup_present ?_ key
  rw [keys_canonicalSlots]
  decide

/-! ### Fields that are read again -/

theorem optionalInt_of_lookup {fields : Fields} {name : String} {value : Option Int}
    (found : List.lookup name fields = value.map Document.int) :
    optionalInt fields name = .ok value := by
  unfold optionalInt Fields.getD
  rw [found]
  cases value <;> rfl

theorem optionalInt_of_whole {fields : Fields} {name : String} {value : Option Number}
    (found : List.lookup name fields = value.map Document.number)
    (whole : ∀ n, value = some n → ∃ k, n = .int k) :
    ∃ read, optionalInt fields name = .ok read ∧ read.map Number.int = value := by
  cases value with
  | none => exact ⟨none, optionalInt_of_lookup found, rfl⟩
  | some n =>
    obtain ⟨k, rfl⟩ := whole n rfl
    exact ⟨some k, optionalInt_of_lookup found, rfl⟩

theorem intsOf_deltasDocument (name : String) (deltas : OrderedMap Int) :
    intsOf name (deltasDocument deltas) = .ok deltas :=
  OrderedMap.foldlM_insert fun _ _ _ => rfl

theorem cue_of_lookup {fields : Fields} {key : String} {heard : Option AudioCue}
    (found : List.lookup key fields = heard.map AudioCue.toDocument)
    (plain : ∀ cue, heard = some cue → cue.Plain) : cue fields key = .ok heard := by
  unfold cue Fields.getD
  rw [found]
  cases heard with
  | none => rfl
  | some own =>
    have read := AudioCue.ofDocument_toDocument (plain own rfl)
    have present : own.toDocument.isTruthy = true := rfl
    dsimp only [Option.map_some, Option.getD_some]
    rw [if_pos present, Result.bind_of_ok read]
    rfl

theorem itemToAdd_delivers {item : Item} (h : item.WellFormed) :
    Delivers (· = item.counted) (itemToAdd item.toDocument) := by
  have present : (item.toDocument.get "id").isTruthy = true := isTruthy_text_iff.2 h.id
  unfold itemToAdd
  rw [Item.toDocument]
  dsimp only
  rw [← Item.toDocument, if_pos present]
  exact delivers_lift (Item.ofDocument_toDocument h)

theorem getOr_list {fields : Fields} {key : String} {α : Type} {items : List α}
    {write : α → Document}
    (found : List.lookup key fields = if !items.isEmpty then some (.list (items.map write))
      else none) : fields.getOr key (.list []) = .list (items.map write) := by
  rw [Fields.getOr, found]
  cases items <;> rfl

theorem getOr_object {fields : Fields} {key : String} {α : Type} {map : OrderedMap α}
    {write : α → Document}
    (found : List.lookup key fields = if !map.isEmpty then
      some (.object (map.entries.map fun (name, value) => (name, write value))) else none) :
    fields.getOr key (.object []) =
      .object (map.entries.map fun (name, value) => (name, write value)) := by
  obtain ⟨entries, nodup⟩ := map
  rw [Fields.getOr, found]
  cases entries <;> rfl

/-- What is read of the document of a bundle that was read. -/
theorem ofFields_delivers {effect : Effect} (plain : effect.Plain)
    (identified : ∀ removal ∈ effect.removeItems, removal.id ≠ "") :
    Delivers (· = effect.reread) (ofFields (canonical (Fields.present effect.slots))) := by
  have look := effect.lookup_canonical
  obtain ⟨health, healthRead, healthSame⟩ := optionalInt_of_whole (look "health") plain.health
  obtain ⟨mana, manaRead, manaSame⟩ := optionalInt_of_whole (look "mana") plain.mana
  obtain ⟨experience, experienceRead, experienceSame⟩ :=
    optionalInt_of_whole (look "experience") plain.experience
  have gold := optionalInt_of_lookup (look "gold")
  have attributes := getOr_object (look "attributes")
  have flags := getOr_object (look "flags")
  have addItems := getOr_list (look "add_items")
  have removeItems := getOr_list (look "remove_items")
  have relationships := getOr_object (look "relationships")
  have sound := cue_of_lookup (look "sound") plain.sound
  have music := cue_of_lookup (look "music") plain.music
  have custom := getOr_list (look "custom")
  have events := getOr_list (look "events")
  unfold ofFields
  rw [attributes, flags, addItems, removeItems, relationships, custom, events]
  refine .next (delivers_lift healthRead) <| .next (delivers_lift manaRead) <| ?_
  refine .next (delivers_lift gold) <| .next (delivers_lift experienceRead) <| ?_
  refine .next (delivers_lift (intsOf_deltasDocument _ _)) <| .next (delivers_lift rfl) <| ?_
  refine .next (delivers_lift (Flags.ofFields_toFields plain.flags)) <|
    .next (delivers_lift rfl) <| ?_
  refine .next (.mapM_map_eq fun item mem => itemToAdd_delivers (plain.addItems item mem)) <| ?_
  refine .next (delivers_lift rfl) <| .next (.mapM_map_eq fun removal mem =>
    delivers_lift (ItemRemoval.ofDocument_toDocument (identified removal mem))) <| ?_
  refine .next (delivers_lift (intsOf_deltasDocument _ _)) <| .next (delivers_lift sound) <| ?_
  refine .next (delivers_lift music) <| .next (delivers_lift rfl) <| ?_
  refine .next (.mapM_map_eq fun custom mem =>
    delivers_lift (CustomEffect.ofDocument_toDocument (plain.custom custom mem))) <| ?_
  refine .next (delivers_lift rfl) ?_
  have shown : (effect.events.map Document.text).map Document.display = effect.events := by
    rw [List.map_map]
    exact List.map_id effect.events
  rw [healthSame, manaSame, experienceSame, shown, List.map_id']
  exact .pure rfl

/-- A bundle that was read is read again, none of an item as one of it and an empty name as none, if
each of its removals has an identity. -/
theorem ofDocument_toDocument {effect : Effect} (plain : effect.Plain)
    (identified : ∀ removal ∈ effect.removeItems, removal.id ≠ "") :
    Delivers (· = effect.reread) (ofDocument effect.toDocument) := by
  have read := ofFields_delivers plain identified
  have known : ∀ entry ∈ canonical (Fields.present effect.slots), entry.1 ∈ knownKeys := by
    intro entry mem
    rw [canonical_present] at mem
    have among := (Fields.keys_present_sublist effect.canonicalSlots).subset
      (List.mem_map_of_mem mem)
    rwa [keys_canonicalSlots] at among
  have none : (((canonical (Fields.present effect.slots)).map Prod.fst).filter fun key =>
      !knownKeys.contains key).isEmpty = true := by
    rw [List.isEmpty_iff, List.filter_eq_nil_iff]
    intro key mem
    obtain ⟨entry, among, rfl⟩ := List.mem_map.1 mem
    simp [known entry among]
  rw [toDocument_eq, ofDocument]
  split
  · rename_i absent
    have empty : Fields.present effect.slots = [] := by simpa [Document.isTruthy] using absent
    rw [empty] at read
    exact read
  · dsimp only
    rw [if_pos none]
    exact read

/-- A removal that has no identity is refused when it is read again. -/
theorem identified_of_read {effect again : Effect} {issued : Nat}
    (read : result (ofDocument effect.toDocument) issued = .ok again) :
    ∀ removal ∈ effect.removeItems, removal.id ≠ "" := by
  intro removal mem
  have written := getOr_list (effect.lookup_canonical "remove_items")
  have present : (Document.object (Fields.present effect.slots)).isTruthy = true := by
    -- Of an empty object nothing is asked, but then there is no removal either.
    rw [← Bool.not_eq_false]
    intro absent
    have none : Fields.present effect.slots = [] := by simpa [Document.isTruthy] using absent
    rw [none] at written
    have empty := Document.list.inj written
    cases List.map_eq_nil_iff.1 empty.symm ▸ mem
  have listed : Demand.rule (removal.toDocument.get "id").isTruthy ∈
      Demand.listing (.list (effect.removeItems.map ItemRemoval.toDocument)) removalDemands :=
    Demand.mem_listing (List.mem_map_of_mem mem) List.mem_cons_self
  have asked : Demand.rule (removal.toDocument.get "id").isTruthy ∈ demands effect.toDocument := by
    rw [toDocument_eq, demands, present]
    refine List.mem_cons_of_mem _ ?_
    unfold fieldDemands
    rw [written]
    simp only [List.mem_append, listed, true_or, or_true]
  have met := (ofDocument_decided effect.toDocument issued).ok_iff.1 ⟨again, read⟩ _ asked
  exact isTruthy_text_iff.1 met

/-- A bundle that was read is read again as itself exactly if it adds none of no item, and each of
its removals has an identity, and a name that is not empty if it has one. -/
theorem restored_iff {d : Document} {effect : Effect} {issued : Nat}
    (read : result (ofDocument d) issued = .ok effect) (later : Nat) :
    result (ofDocument effect.toDocument) later = .ok effect ↔
      (∀ item ∈ effect.addItems, item.quantity ≠ 0) ∧
      ∀ removal ∈ effect.removeItems, removal.id ≠ "" ∧
        (removal.name = .null ∨ removal.name.isTruthy = true) := by
  have plain : effect.Plain := (ofDocument_gives_plain d issued trivial).2 effect read
  have again (identified : ∀ removal ∈ effect.removeItems, removal.id ≠ "") :
      result (ofDocument effect.toDocument) later = .ok effect ↔ effect.reread = effect := by
    rw [(ofDocument_toDocument plain identified).result_eq later]
    exact ⟨Except.ok.inj, congrArg Except.ok⟩
  constructor
  · intro same
    have identified := identified_of_read same
    obtain ⟨counted, named⟩ := reread_eq_self_iff.1 ((again identified).1 same)
    exact ⟨counted, fun removal mem => ⟨identified removal mem, named removal mem⟩⟩
  · rintro ⟨counted, removals⟩
    refine (again fun removal mem => (removals removal mem).1).2 (reread_eq_self_iff.2 ?_)
    exact ⟨counted, fun removal mem => (removals removal mem).2⟩

/-- A token for five gold and a herb. -/
def tokenTrade : Document :=
  .object [("gold", .int (-5)), ("addItems", .list [.object [("id", "token")]]),
    ("removeItems", .list ["herb"])]

theorem tokenTrade_restored :
    ∃ effect, result (ofDocument tokenTrade) 0 = .ok effect ∧
      effect.removeItems = [{ id := "herb" }] ∧
      result (ofDocument effect.toDocument) 0 = .ok effect := by
  refine ⟨{
    gold := some (-5)
    addItems := [{ id := "token", name := "token" }]
    removeItems := [{ id := "herb" }] }, rfl, rfl, ?_⟩
  refine (restored_iff (rfl : result (ofDocument tokenTrade) 0 = _) 0).2 ⟨?_, ?_⟩
  · simp
  · simp

/-- Something to remove is read of an empty text, and refused where it is told by an object. -/
theorem nameless_removal_not_restored :
    ∃ effect, result (ofDocument (.object [("removeItems", .list [""])])) 0 = .ok effect ∧
      result (ofDocument effect.toDocument) 0 ≠ .ok effect := by
  refine ⟨{ removeItems := [{ id := "" }] }, rfl, ?_⟩
  intro restored
  have refused : result (ofDocument (toDocument { removeItems := [{ id := "" }] })) 0 =
      .error (.content (.removalWithoutId (.object [("id", ""), ("quantity", .int 1)]))) := rfl
  rw [refused] at restored
  cases restored

end Effect

end InteractiveFiction
