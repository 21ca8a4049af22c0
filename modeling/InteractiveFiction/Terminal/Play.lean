import InteractiveFiction.Terminal.Console
import InteractiveFiction.Text.Digit

/-!
A story played at a console, one line of the player at a time.

* `PlayerCommand.ofLine`: what a line means.
* `Play.start`, `Play.answer`: the first scene, and what follows from a line.
* `Play.run`: a whole game, for all lines of its player.
-/

set_option autoImplicit false

namespace InteractiveFiction

inductive PlayerCommand where
  | nothing
  | quit
  /-- The digits of a choice, which may be of any script. -/
  | choose (digits : String)
  | inventory
  | use (item : String)
  | interact (character kind : String)
  | save (name : String)
  | listSaves
  | help
deriving DecidableEq, Repr

namespace PlayerCommand

/-- The part of a line before its first space, and the part after it. -/
def splitWord (line : String) : String × String :=
  let word := line.toList.takeWhile (· != ' ')
  (String.ofList word, String.ofList (line.toList.drop (word.length + 1)))

def orElse (text default : String) : String :=
  if text.isEmpty then default else text

def ofLine (line : String) : PlayerCommand :=
  let line := trimBlank line
  let (verb, rest) := splitWord line
  let rest := trimBlank rest
  if line.isEmpty then .nothing
  else if line = "q" || line = "quit" then .quit
  else if verb.toList.all isAnyDigit then .choose verb
  else
    match verb with
    | "i" => .inventory
    | "u" => .use rest
    | "t" =>
      let (character, kind) := splitWord rest
      .interact character (orElse (trimBlank kind) "talk")
    | "s" => .save (orElse rest "Quick save")
    | "l" => .listSaves
    | _ => .help

end PlayerCommand

namespace Play

def helpText : List String := [
  "",
  "    Run one interactive command. Returns the scene to display next.",
  "",
  "    Commands:",
  "        <number>              make the numbered choice",
  "        i                     show inventory",
  "        u <item_id>           use an item",
  "        t <character> [kind]  interact (talk, trade, quest, gift)",
  "        s <name>              save",
  "        l                     list saves",
  "    "]

/-- The choice of a number, counted from one. -/
def numbered? (presented : PresentedScene) (number : Int) : Option PresentedChoice :=
  if number < 1 then none else presented.choices[(number - 1).toNat]?

/-! ## Commands -/

def choose (presented : PresentedScene) (digits : String) : Console PresentedScene := do
  let number ← ((Document.text digits).toInt : Turn Int)
  match numbered? presented number with
  | none =>
    Console.printLine "  No such choice."
    pure presented
  | some offered =>
    let outcome ← Turn.makeChoice offered.choice.id
    let descriptions := outcome.effects.map Outcome.description
    Console.printLines ((descriptions.filter fun d => !d.isEmpty).map fun d => s!"  * {d}")
    match outcome.scene with
    | some next =>
      Console.printScene next
      pure next
    | none =>
      Console.printEnding
      pure presented

def showInventory : Console Unit := do
  let state ← Turn.state
  let player := state.player
  Console.printLine (s!"  {player.name.display} - level {player.level}, " ++
    s!"health {player.health}/{player.maxHealth}, gold {player.gold}")
  Console.printLines (state.inventory.map fun item =>
    s!"  - {item.id}: {item.name.display} x{item.quantity}")

def showSaves : Console Unit := do
  let slots ← Turn.listSlots
  Console.printLines (slots.map fun slot =>
    s!"  {slot.id.display}: {slot.name.display} ({slot.sceneId.display}, {slot.storyProgress}%)")

/-- Carries out a command, and gives the scene that is shown from then on. -/
def perform (presented : PresentedScene) : PlayerCommand → Console PresentedScene
  | .choose digits => choose presented digits
  | .inventory => do
    showInventory
    pure presented
  | .use item => do
    let use ← Turn.useItem item
    Console.printLine s!"  {use.message}"
    pure presented
  | .interact character kind => do
    let interaction ← Turn.interact character kind
    Console.printLine s!"  {interaction.message.display}"
    Console.printLines (interaction.options.map fun option => s!"    ~ {option.display}")
    pure presented
  | .save name => do
    let slot ← Turn.manualSave name
    Console.printLine s!"  Saved to {slot.id.display}"
    pure presented
  | .listSaves => do
    showSaves
    pure presented
  | .help => do
    Console.printLines helpText
    pure presented
  | .nothing | .quit => pure presented

/-! ## The course of a game -/

def start (story player : Document) : Console PresentedScene := do
  Turn.wake
  let presented ← Turn.startNewGame story player
  Console.printScene presented
  pure presented

/-- Lets due timers fire and asks for a line. -/
def prompt : Console Unit := do
  Turn.settle
  Console.print "\n> "

/-- Answers a line, and gives the scene to go on with unless the game is over.  A fault of the
game is told to the player, who may try something else. -/
def answer (presented : PresentedScene) (line : String) : Console (Option PresentedScene) := do
  match PlayerCommand.ofLine line with
  | .nothing => pure (some presented)
  | .quit =>
    let _ ← Turn.autosave
    pure none
  | command =>
    let next ← tryCatch (perform presented command) fun fault => do
      if fault.isOfGame then
        Console.printLine s!"  {fault.message}"
        pure presented
      else throw fault
    pure (if (← Turn.engine).status = .ended then none else some next)

def run (presented : PresentedScene) : List String → Console Unit
  | [] => do
    prompt
    throw .inputEnded
  | line :: lines => do
    prompt
    match ← answer presented line with
    | some next => run next lines
    | none => pure ()

end Play

end InteractiveFiction
