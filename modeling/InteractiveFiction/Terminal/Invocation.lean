import InteractiveFiction.Terminal.Arguments

/-!
What the program is asked to do when it is started.
-/

set_option autoImplicit false

namespace InteractiveFiction

/-- A wish to play: the built-in story, or one of a file. -/
structure PlayRequest where
  file : Option String := none
  /-- The id of the story, where a file holds several. -/
  story : Option String := none
  player : String := "Player"
  saveFolder : Option String := none
deriving DecidableEq, Repr

inductive Invocation where
  | play (request : PlayRequest)
  | validate (file : String)
  | demo (player : String)
  | serve (host : String) (port : Int)
  | nothing
deriving DecidableEq, Repr

namespace Invocation

/-! ## Grammars -/

def mainGrammar : ArgumentGrammar where
  options := [OptionSpec.help, { key := "verbose", spellings := ["--verbose", "-v"] }]
  operand := .command

def textOption (key spelling : String) : OptionSpec :=
  { key, spellings := [spelling], takesValue := true }

def playGrammar : ArgumentGrammar where
  options := [OptionSpec.help, textOption "story" "--story", textOption "name" "--name",
    textOption "saveFolder" "--save-dir"]
  operand := .optional

def validateGrammar : ArgumentGrammar where
  options := [OptionSpec.help]
  operand := .required

def demoGrammar : ArgumentGrammar where
  options := [OptionSpec.help, textOption "name" "--name"]
  operand := .none

def port? (text : String) : Option Int :=
  (Document.text text).toInt.toOption

def serveGrammar : ArgumentGrammar where
  options := [OptionSpec.help, textOption "host" "--host",
    { textOption "port" "--port" with accepts := fun text => (port? text).isSome }]
  operand := .none

/-! ## Commands -/

/-- Reads the arguments of a command; none of them may be left over. -/
def readAll (grammar : ArgumentGrammar) (surplus : Bool) (arguments : List String) :
    Except ArgumentStop ArgumentValues := do
  let values ← grammar.read arguments
  if surplus || values.surplus then throw .misuse
  pure values

def ofCommand (command : String) (surplus : Bool) (arguments : List String) :
    Except ArgumentStop Invocation := do
  match command with
  | "play" =>
    let values ← readAll playGrammar surplus arguments
    pure (.play {
      file := values.operand.filter (· ≠ "")
      story := (values.value? "story").filter (· ≠ "")
      player := (values.value? "name").getD "Player"
      saveFolder := values.value? "saveFolder" })
  | "validate" =>
    let values ← readAll validateGrammar surplus arguments
    pure (.validate (values.operand.getD ""))
  | "demo" =>
    let values ← readAll demoGrammar surplus arguments
    pure (.demo ((values.value? "name").getD "Ada"))
  | "serve" =>
    let values ← readAll serveGrammar surplus arguments
    pure (.serve ((values.value? "host").getD "127.0.0.1")
      (((values.value? "port").bind port?).getD 8000))
  | _ => throw .misuse

def ofArguments (arguments : List String) : Except ArgumentStop Invocation := do
  let values ← mainGrammar.read arguments
  match values.operand with
  | some command => ofCommand command values.surplus values.rest
  | none => if values.surplus then throw .misuse else pure .nothing

/-! ## Help -/

def usage : String :=
  "usage: fabula [-h] [--verbose] \x7bplay,validate,demo,serve\x7d ..."

def helpLines : List String := [
  usage,
  "",
  "Fabula - Interactive Fiction Rule Engine",
  "",
  "positional arguments:",
  "  \x7bplay,validate,demo,serve\x7d",
  "                        Commands",
  "    play                Play a story interactively",
  "    validate            Validate a story document",
  "    demo                Auto-play the built-in story",
  "    serve               Run the REST API",
  "",
  "options:",
  "  -h, --help            show this help message and exit",
  "  --verbose, -v         Debug logging"]

end Invocation

end InteractiveFiction
