import InteractiveFiction.Document.Coercion

/-!
The arguments of a program: options, which start with a hyphen, and words.

An option may be shortened as long as no other one starts the same, and its value may be joined to
it by `=`.  Flags of one letter may be written together.  After `--` everything is a word.
-/

set_option autoImplicit false

namespace InteractiveFiction

structure OptionSpec where
  key : String
  spellings : List String
  takesValue : Bool := false
  accepts : String → Bool := fun _ => true

/-- What a program expects besides its options. -/
inductive Operand where
  | none | optional | required
  /-- A word that leaves all that follows to someone else. -/
  | command
deriving DecidableEq, Repr

structure ArgumentGrammar where
  options : List OptionSpec
  operand : Operand

inductive ArgumentStop where
  | help | misuse
deriving DecidableEq, Repr

inductive Attachment where
  | apart
  | joined (value : String)
  | tail (letters : List Char)
deriving DecidableEq

inductive ArgumentClass where
  | word
  | option (spec : OptionSpec) (attachment : Attachment)
  | unknown

/-- What was given, the last first. -/
structure ArgumentValues where
  given : List (String × String) := []
  operand : Option String := none
  /-- What was left to a command. -/
  rest : List String := []
  /-- Whether something was given that is not expected. -/
  surplus : Bool := false
deriving DecidableEq

namespace OptionSpec

def helpKey : String := "help"

def help : OptionSpec := { key := helpKey, spellings := ["-h", "--help"] }

end OptionSpec

namespace ArgumentGrammar

variable (grammar : ArgumentGrammar)

/-! ## Classes of arguments -/

/-- The option of exactly this spelling. -/
def spelled? (spelling : String) : Option OptionSpec :=
  grammar.options.find? fun option => option.spellings.contains spelling

/-- The part before the first `=`, and the part after it if there is one. -/
def splitJoined (argument : String) : String × Option String :=
  let name := argument.toList.takeWhile (· != '=')
  match argument.toList.drop name.length with
  | [] => (argument, none)
  | _ :: value => (String.ofList name, some (String.ofList value))

/-- Whether a text is an integer or a decimal fraction below zero. -/
def isNegativeNumber (argument : String) : Bool :=
  match argument.toList with
  | '-' :: number =>
    let whole := number.takeWhile isDecimalDigit
    match number.drop whole.length with
    | [] => !whole.isEmpty
    | '.' :: fraction => !fraction.isEmpty && fraction.all isDecimalDigit
    | _ => false
  | _ => false

def candidates (argument : String) : List (OptionSpec × Attachment) :=
  let (name, value) := splitJoined argument
  grammar.options.flatMap fun option => option.spellings.filterMap fun spelling =>
    match argument.toList with
    | '-' :: '-' :: _ =>
      if spelling.startsWith name then
        some (option, match value with
          | some value => .joined value
          | none => .apart)
      else none
    | '-' :: letter :: letters =>
      if spelling = String.ofList ['-', letter] then some (option, .tail letters) else none
    | _ => none

/-- What an argument before `--` is; nothing when it may be short for several options. -/
def classify? (argument : String) : Option ArgumentClass :=
  if !argument.startsWith "-" || argument = "-" then some .word
  else
    let (name, value) := splitJoined argument
    match grammar.spelled? argument, value, grammar.spelled? name with
    | some option, _, _ => some (.option option .apart)
    | none, some value, some option => some (.option option (.joined value))
    | none, _, _ =>
      match grammar.candidates argument with
      | [] =>
        some (if isNegativeNumber argument || argument.contains ' ' then .word else .unknown)
      | [(option, attachment)] => some (.option option attachment)
      | _ => none

def isWord (argument : String) : Bool :=
  argument ≠ "--" &&
    match grammar.classify? argument with
    | some .word => true
    | _ => false

def isClear (argument : String) : Bool :=
  (grammar.classify? argument).isSome

/-! ## Reading -/

def give (values : ArgumentValues) (option : OptionSpec) (value : String) :
    Except ArgumentStop ArgumentValues :=
  if option.accepts value then
    pure { values with given := (option.key, value) :: values.given }
  else throw .misuse

def raise (values : ArgumentValues) (flag : OptionSpec) : Except ArgumentStop ArgumentValues :=
  if flag.key = OptionSpec.helpKey then throw .help
  else pure { values with given := (flag.key, "") :: values.given }

/-- The flags that are written together, and whether all of them are known. -/
def cluster (flag : OptionSpec) : List Char → Except ArgumentStop (List OptionSpec × Bool)
  | [] => pure ([flag], true)
  | letter :: letters => do
    if letter = '-' || letter = '=' then throw .misuse
    match grammar.spelled? (String.ofList ['-', letter]) with
    | some next => do
      let (flags, known) ← cluster next letters
      pure (flag :: flags, known)
    | none => pure ([flag], false)

def raiseAll (values : ArgumentValues) (flag : OptionSpec) (letters : List Char) :
    Except ArgumentStop ArgumentValues := do
  let (flags, known) ← grammar.cluster flag letters
  let values ← flags.foldlM raise values
  pure { values with surplus := values.surplus || !known }

/-- Takes a word as the operand, if one is expected and there is none yet. -/
def place (values : ArgumentValues) (word : String) : ArgumentValues :=
  match grammar.operand, values.operand with
  | .none, _ | _, some _ => { values with surplus := true }
  | _, none => { values with operand := some word }

/-- Reads on after `--`, which belongs to the operand before or after it; `recent` tells whether
the operand stands just before it. -/
def readWords (values : ArgumentValues) (recent : Bool) (words : List String) :
    Except ArgumentStop ArgumentValues :=
  match grammar.operand with
  | .command => throw .misuse
  | .none => pure { values with surplus := true }
  | _ =>
    if values.operand.isSome && !recent then pure { values with surplus := true }
    else pure (words.foldl grammar.place values)

/-- Reads arguments; `recent` tells whether the operand was the last one read. -/
def readFrom (values : ArgumentValues) (recent : Bool) :
    List String → Except ArgumentStop ArgumentValues
  | [] => pure values
  | "--" :: words => grammar.readWords values recent words
  | argument :: rest =>
    match grammar.classify? argument with
    | none => throw .misuse
    | some .unknown => readFrom { values with surplus := true } false rest
    | some .word =>
      match grammar.operand with
      | .command => pure { values with operand := some argument, rest }
      | _ => readFrom (grammar.place values argument) values.operand.isNone rest
    | some (.option option .apart) =>
      if option.takesValue then
        match rest with
        | value :: rest =>
          if grammar.isWord value then do readFrom (← give values option value) false rest
          else throw .misuse
        | [] => throw .misuse
      else do readFrom (← raise values option) false rest
    | some (.option option (.joined value)) =>
      if option.takesValue then do readFrom (← give values option value) false rest
      else throw .misuse
    | some (.option option (.tail letters)) =>
      if option.takesValue then
        do readFrom (← give values option (String.ofList letters)) false rest
      else do readFrom (← grammar.raiseAll values option letters) false rest

def read (arguments : List String) : Except ArgumentStop ArgumentValues := do
  if (arguments.takeWhile (· ≠ "--")).all grammar.isClear then
    let values ← grammar.readFrom {} false arguments
    if grammar.operand = .required && values.operand.isNone then throw .misuse
    pure values
  else throw .misuse

end ArgumentGrammar

namespace ArgumentValues

def value? (values : ArgumentValues) (key : String) : Option String :=
  values.given.lookup key

end ArgumentValues

end InteractiveFiction
