import InteractiveFiction.Engine.Passage

/-!
A console: a sitting whose course is printed.

What was printed before a fault stays printed.
-/

set_option autoImplicit false

namespace InteractiveFiction

structure Desk where
  sitting : Sitting
  printed : String := ""

abbrev Console := ExceptT Fault (StateM Desk)

namespace Console

def ofTurn {α : Type} (turn : Turn α) : Console α := do
  let (result, sitting) := (turn.run).run (← get).sitting
  modify fun desk => { desk with sitting }
  match result with
  | .ok value => pure value
  | .error fault => throw fault

instance : MonadLift Turn Console := ⟨ofTurn⟩

def print (text : String) : Console Unit :=
  modifyThe Desk fun desk => { desk with printed := desk.printed ++ text }

def printLine (text : String) : Console Unit :=
  print (text ++ "\n")

def printLines (lines : List String) : Console Unit :=
  lines.forM printLine

/-! ## Scenes and endings -/

def printScene (presented : PresentedScene) : Console Unit := do
  printLine ""
  printLine s!"== {presented.scene.title.display} =="
  printLine presented.content
  printLines (presented.choices.mapIdx fun index offered => s!"  {index + 1}. {offered.text}")

def printEnding : Console Unit := do
  let state ← Turn.state
  printLine ""
  printLine "== The End =="
  let visited ← (Turn.visitedCount state : Turn Nat)
  printLine (s!"Scenes visited: {visited}  " ++
    s!"Story progress: {state.progress.storyProgress}%")
  let achievements := state.progress.achievementsUnlocked
  if !achievements.isEmpty then
    let names ← (Document.joined ", " achievements : Turn String)
    printLine s!"Achievements: {names}"

end Console

end InteractiveFiction
