import InteractiveFiction.Repository

/-!
The Lantern Keeper, a short built-in story.  It has choices of every type, items, a character, a
timed curse, a teleport and two endings.
-/

set_option autoImplicit false

namespace InteractiveFiction

namespace Lantern

/-- The scenes, from the gate to the lamp room. -/
def scenes : List Document := [
  .object [
    ("id", "gate"),
    ("title", "The Gate"),
    ("content",
      .text ("Welcome, \x7bplayer.name\x7d. The lighthouse gate creaks in the wind. You carry " ++
        "\x7binventory.count.lantern_oil\x7d flasks of lantern oil.")),
    ("effects", .object [
      ("addItems", .list [
        .object [
          ("id", "lantern_oil"),
          ("name", "Lantern Oil"),
          ("type", "misc"),
          ("quantity", Document.int 2),
          ("stackable", .bool true),
          ("value", Document.int 5)]])]),
    ("choiceIds", .list ["enter_courtyard"]),
    ("backgroundMusic", "harbor-wind")],
  .object [
    ("id", "courtyard"),
    ("title", "The Courtyard"),
    ("content", "An old keeper tends a herb garden. Gold in your purse: \x7bplayer.gold\x7d."),
    ("effects", .object [
      ("addItems", .list [
        .object [
          ("id", "healing_potion"),
          ("name", "Healing Potion"),
          ("type", "potion"),
          ("stackable", .bool true),
          ("value", Document.int 20),
          ("properties", .object [("effects", .object [("health", Document.int 25)])])]])]),
    ("choiceIds", .list [
      "greet_keeper", "ask_about_light", "search_shed", "open_vault", "climb_stairs"]),
    ("characterIds", .list ["keeper"])],
  .object [
    ("id", "shed"),
    ("title", "The Shed"),
    ("content", "Rusty tools, fishing nets and, under a sack, a brass key."),
    ("effects", .object [
      ("gold", Document.int 15),
      ("addItems", .list [
        .object [
          ("id", "brass_key"),
          ("name", "Brass Key"),
          ("type", "key"),
          ("properties", .object [("keyId", "vault")])]])]),
    ("choiceIds", .list ["back_to_courtyard"])],
  .object [
    ("id", "vault"),
    ("title", "The Vault"),
    ("content", "Coins glitter beside a tall, dark mirror."),
    ("conditions", .object [("hasItem", "brass_key")]),
    ("effects", .object [("gold", Document.int 100),
      ("flags", .object [("vault_opened", .bool true)])]),
    ("choiceIds", .list ["touch_mirror", "back_to_courtyard"])],
  .object [
    ("id", "stairwell"),
    ("title", "The Stairwell"),
    ("content",
      "The spiral stairs groan. Health: \x7bplayer.health\x7d/\x7bplayer.maxHealth\x7d."),
    ("effects", .object [("health", Document.int (-10)), ("sound", "stairs-creak")]),
    ("choiceIds", .list ["dash_up", "take_it_slow"])],
  .object [
    ("id", "lamp_room"),
    ("title", "The Lamp Room"),
    ("content", "The great lens waits, cold and dark. Lamp lit: \x7bflag.lamp_lit\x7d."),
    ("choiceIds", .list ["light_lamp", "leave_dark"]),
    ("backgroundMusic", "lamp-room")]]

/-- The choices; the last two end the story. -/
def choices : List Document := [
  .object [
    ("id", "enter_courtyard"),
    ("text", "Push the gate open"),
    ("targetSceneId", "courtyard"),
    ("effects", .object [("experience", Document.int 50)])],
  .object [
    ("id", "greet_keeper"),
    ("text", "Greet the keeper"),
    ("targetSceneId", "courtyard"),
    ("conditions", .object [("not", .object [("flag", "met_keeper")])]),
    ("effects", .object [
      ("flags", .object [("met_keeper", .bool true)]),
      ("relationships", .object [("keeper", Document.int 25)])])],
  .object [
    ("id", "ask_about_light"),
    ("text", "Ask the keeper about the light"),
    ("type", "conditional"),
    ("targetSceneId", "stairwell"),
    ("effects", .object [("experience", Document.int 25),
      ("flags", .object [("knows_the_way", .bool true)])]),
    ("metadata", .object [("conditions", .object [("flag", "met_keeper")])])],
  .object [
    ("id", "search_shed"),
    ("text", "Search the shed"),
    ("targetSceneId", "shed"),
    ("conditions", .object [("notVisitedScene", "shed")])],
  .object [
    ("id", "open_vault"),
    ("text", "Unlock the vault \x7brequire:Brass Key\x7d"),
    ("targetSceneId", "vault"),
    ("requirements", .list [
      .object [("type", "item"), ("key", "brass_key"), ("errorMessage", "The vault is locked")]])],
  .object [("id", "climb_stairs"), ("text", "Climb the stairs"), ("targetSceneId", "stairwell")],
  .object [
    ("id", "back_to_courtyard"),
    ("text", "Return to the courtyard"),
    ("targetSceneId", "courtyard")],
  .object [
    ("id", "touch_mirror"),
    ("text", "Touch the mirror"),
    ("targetSceneId", "courtyard"),
    ("effects", .object [
      ("custom", .list [
        .object [("type", "teleport"), ("targetScene", "lamp_room")],
        .object [("type", "curse"), ("curseType", "frailty"), ("duration", Document.int 600)]])])],
  .object [
    ("id", "dash_up"),
    ("text", "Race up before the steps give way"),
    ("type", "timed"),
    ("targetSceneId", "lamp_room"),
    ("effects", .object [("experience", Document.int 100)]),
    ("metadata", .object [("timeLimit", Document.int 20)])],
  .object [
    ("id", "take_it_slow"),
    ("text", "Take it slow"),
    ("targetSceneId", "lamp_room"),
    ("effects", .object [("health", Document.int (-30))])],
  .object [
    ("id", "light_lamp"),
    ("text", "Light the lamp"),
    ("targetSceneId", .null),
    ("requirements", .list [
      .object [("type", "item"), ("key", "lantern_oil"),
        ("errorMessage", "You need lantern oil")]]),
    ("effects", .object [
      ("removeItems", .list [.object [("id", "lantern_oil"), ("quantity", Document.int 1)]]),
      ("flags", .object [("lamp_lit", .bool true)]),
      ("experience", Document.int 150),
      ("sound", "lamp-ignite")])],
  .object [
    ("id", "leave_dark"),
    ("text", "Leave the lamp dark"),
    ("targetSceneId", .null),
    ("effects", .object [("flags", .object [("lamp_lit", .bool false)])])]]

def characters : List Document := [
  .object [
    ("id", "keeper"),
    ("name", "Old Maren"),
    ("description", "The last keeper of the lighthouse."),
    ("traits", .list ["shy"]),
    ("preferences", .object [("likes", .list ["tea", "herbs"]), ("dislikes", .list ["noise"])]),
    ("dialogue", .list [
      .object [
        ("text", "Oh! A visitor. Mind the garden."),
        ("responses", .list ["Sorry", "Lovely herbs"]),
        ("priority", Document.int 0)],
      .object [
        ("text", "The lamp needs oil. Climb carefully, friend."),
        ("responses", .list ["I will"]),
        ("minRelationship", Document.int 20),
        ("requiredFlags", .object [("met_keeper", .bool true)]),
        ("priority", Document.int 1),
        ("optimalRelationship", Document.int 50)]]),
    ("tradeItems", .list [
      .object [("id", "herb_tea"), ("name", "Herb Tea"), ("type", "food"),
        ("value", Document.int 3)]]),
    ("quests", .list [
      .object [
        ("id", "relight"),
        ("description", "Relight the lamp before nightfall."),
        ("prerequisites", .list ["met_keeper"]),
        ("requiredRelationship", Document.int 10)]])]]

/-- Light, treasure and friendship. -/
def achievements : List Document := [
  .object [
    ("id", "first_light"),
    ("name", "First Light"),
    ("description", "Relight the lighthouse."),
    ("conditions", .object [("flag", "lamp_lit"), ("flagValue", .bool true)]),
    ("points", Document.int 50)],
  .object [
    ("id", "treasure_hunter"),
    ("name", "Treasure Hunter"),
    ("description", "Open the vault."),
    ("conditions", .object [("flag", "vault_opened")]),
    ("points", Document.int 25)],
  .object [
    ("id", "friend_of_the_keeper"),
    ("name", "Friend of the Keeper"),
    ("conditions", .object [("relationship", "keeper"), ("relationshipValue", Document.int 20)]),
    ("points", Document.int 20)]]

def id : Document := "lantern"

def document : Document :=
  .object [
    ("id", id),
    ("title", "The Lantern Keeper"),
    ("description", "Relight the lighthouse before the fishing fleet returns."),
    ("version", "1.0"),
    ("startingSceneId", "gate"),
    ("scenes", .list scenes),
    ("choices", .list choices),
    ("characters", .list characters),
    ("achievements", .list achievements)]

/-- A repository that holds the story alone, checked. -/
def repository : Issue Repository :=
  Repository.ofDocument document true

end Lantern

end InteractiveFiction
