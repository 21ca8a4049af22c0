import InteractiveFiction.Lantern
import InteractiveFiction.Terminal.Console

/-!
The built-in story played by itself, along a route.  Where the route cannot be kept to, the first
choice is made.
-/

set_option autoImplicit false

namespace InteractiveFiction

namespace Demo

def route : List Document := [
  "enter_courtyard", "greet_keeper", "search_shed", "back_to_courtyard", "open_vault",
  "touch_mirror", "light_lamp"]

/-- The next choice, and what is left of the route. -/
def next (presented : PresentedScene) (route : List Document) :
    Result (Document × List Document) :=
  match route, presented.choices with
  | id :: rest, choices =>
    if (presented.choice? id).isSome then pure (id, rest)
    else
      match choices with
      | offered :: _ => pure (offered.choice.id, route)
      | [] => throw .outOfRange
  | [], offered :: _ => pure (offered.choice.id, [])
  | [], [] => throw .outOfRange

def news? (event : Event) : Option String :=
  let shown (key : String) : String := (Fields.getD event.payload key .null).display
  match event.name with
  | "achievementUnlocked" => some ("  ** Achievement: " ++ shown "name")
  | "levelUp" => some ("  ** Level " ++ shown "new_level" ++ "!")
  | _ => none

/-- Tells what happens in a turn, before its result. -/
def telling {α : Type} (turn : Turn α) : Console α := do
  let before := (← Turn.engine).published.length
  let result ← (tryCatch (Except.ok <$> turn) fun fault => pure (.error fault) : Turn (Result α))
  let news := (← Turn.engine).published.drop before
  Console.printLines (news.filterMap fun record => news? record.event)
  (result : Turn α)

/-- Plays on for at most so many choices. -/
def play (presented : PresentedScene) (route : List Document) : Nat → Console Unit
  | 0 => pure ()
  | fuel + 1 => do
    Turn.settle
    let (id, route) ← (next presented route : Turn (Document × List Document))
    Console.printLine ""
    Console.printLine s!"> {id.display}"
    let outcome ← telling (Turn.makeChoice id)
    match outcome.scene with
    | some next =>
      Console.printScene next
      play next route fuel
    | none => Console.printEnding

/-- No play-through of the story along its first choices is longer. -/
def choiceLimit : Nat := 100

def config : EngineConfig where
  settings := { autosave := .bool false }

def run (player : Document) : Console Unit := do
  Turn.wake
  let presented ← telling (Turn.startNewGame Lantern.id player)
  Console.printScene presented
  play presented route choiceLimit

end Demo

end InteractiveFiction
