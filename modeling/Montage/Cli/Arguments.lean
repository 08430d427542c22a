import Montage.Engine.Config

/-!
# Command line arguments

The tool has four commands. An argument that begins with a hyphen names
options, a double hyphen ends them, and everything else is an operand. The
first thing that is wrong, or that asks for help, decides; options may not be
repeated, and paths may not be empty.
-/

namespace Montage.Cli

/-- What the tool is asked to do. -/
inductive Command where
  /-- show the program of a manifest -/
  | plan (manifest : String) (probe : Bool)
  /-- carry out the program of a manifest; the timeout is in milliseconds -/
  | compose (manifest output : String) (timeout : Option Nat) (probe : Bool)
  /-- show the schema of manifests -/
  | schema
  /-- show where the engine's programs are -/
  | check
deriving DecidableEq

/-- What help is asked for. -/
inductive Topic where
  | overview
  | plan
  | compose
  | schema
  | check
  | help
deriving DecidableEq

/-- What some arguments amount to. -/
inductive Invocation where
  | command (command : Command)
  | help (topic : Topic)
  | version
  | misuse
deriving DecidableEq

/-! ## Single arguments -/

/-- What an argument looks like. -/
inductive Argument where
  | operand
  | endOfOptions
  /-- a long option, with the value after an equals sign -/
  | long (name : String) (attached : Option String)
  /-- an option of one letter, with what follows the letter -/
  | short (letter : Char) (following : List Char)

/-- What an argument looks like. A hyphen alone is an operand. -/
def Argument.ofText (text : String) : Argument :=
  match text.toList with
  | ['-', '-'] => endOfOptions
  | '-' :: '-' :: cs =>
    let attached := match cs.dropWhile (· ≠ '=') with
      | [] => none
      | _ :: value => some (String.ofList value)
    long (String.ofList (cs.takeWhile (· ≠ '='))) attached
  | '-' :: letter :: following => short letter following
  | _ => operand

/-! ## The form of a command -/

/-- An option of a command. -/
structure OptionForm where
  name : String
  letter : Option Char := none
  /-- the values it takes, if it takes one -/
  accepts : Option (String → Bool) := none

/-- How many operands and which options a command takes. -/
structure Form where
  operands : Nat
  options : List OptionForm

/-- What was given to a command. -/
structure Given where
  operands : List String := []
  /-- options by name; those without a value have an empty one -/
  options : List (String × String) := []

/-- Why the rest of a command's arguments is not looked at. -/
inductive Stop where
  | help
  | misuse

/-- The value right after a letter; an equals sign may stand between them. -/
def attachedToLetter : List Char → Option String
  | [] => none
  | '=' :: value => some (String.ofList value)
  | value => some (String.ofList value)

/-- The option of an argument by its name, with its attached value. -/
def Form.option? (form : Form) : Argument → Option (String × Option String)
  | .long name attached => some (name, attached)
  | .short 'h' _ => some ("help", none)
  | .short letter following =>
    (form.options.find? fun option => option.letter == some letter).map fun option =>
      (option.name, attachedToLetter following)
  | _ => none

/-- Note an option with its value. -/
def Given.note (given : Given) (option : OptionForm) (value : String) : Except Stop Given :=
  if (given.options.lookup option.name).isSome then .error .misuse
  else if (option.accepts.getD fun _ => true) value then
    .ok { given with options := given.options ++ [(option.name, value)] }
  else .error .misuse

/-- Note an operand, a path. -/
def Given.noteOperand (form : Form) (given : Given) (text : String) : Except Stop Given :=
  if given.operands.length < form.operands && !text.isEmpty then
    .ok { given with operands := given.operands ++ [text] }
  else .error .misuse

/-- Look through the arguments of a command. -/
def Form.scan (form : Form) (given : Given) : List String → Except Stop Given
  | [] => .ok given
  | text :: rest =>
    match Argument.ofText text with
    | .operand => do form.scan (← given.noteOperand form text) rest
    | .endOfOptions => rest.foldlM (Given.noteOperand form) given
    | argument =>
      match form.option? argument with
      | none => .error .misuse
      | some ("help", none) => .error .help
      | some (name, attached) =>
        match form.options.find? (·.name == name), attached, rest with
        | none, _, _ => .error .misuse
        | some option, some value, rest =>
          if option.accepts.isNone then .error .misuse
          else do form.scan (← given.note option value) rest
        | some option, none, rest =>
          if option.accepts.isNone then do form.scan (← given.note option "") rest
          else
            match rest with
            | [] => .error .misuse
            | value :: rest =>
              match Argument.ofText value with
              | .operand => do form.scan (← given.note option value) rest
              | _ => .error .misuse

/-! ## Commands -/

/-- An option without a value. -/
def flag (name : String) : OptionForm := { name }

/-- A path that may be given. -/
def isPath (text : String) : Bool := !text.isEmpty

/-- The arguments of `plan`. -/
def planForm : Form := ⟨1, [flag "probe"]⟩

/-- The arguments of `compose`. -/
def composeForm : Form where
  operands := 1
  options := [
    { name := "output", letter := some 'o', accepts := some isPath },
    { name := "timeout", accepts := some fun text => (EngineConfig.seconds? text).isSome },
    flag "no-probe"]

/-- No arguments. -/
def bareForm : Form := ⟨0, []⟩

/-- The timeout of `compose`: the option's, or else the variable's, which must
be a number too. -/
def timeout? (environment : Environment) (given : Given) : Except Stop (Option Nat) :=
  match given.options.lookup "timeout" with
  | some text => .ok (EngineConfig.seconds? text)
  | none =>
    match environment.entries.lookup "VCOMP_TIMEOUT_SECS" with
    | none => .ok none
    | some value =>
      match (Text.Utf8.decode? value).bind EngineConfig.seconds? with
      | some timeout => .ok (some timeout)
      | none => .error .misuse

/-- The command `plan`. -/
def planOf (given : Given) : Except Stop Command :=
  match given.operands with
  | [manifest] => .ok (.plan manifest (given.options.lookup "probe").isSome)
  | _ => .error .misuse

/-- The command `compose`. -/
def composeOf (environment : Environment) (given : Given) : Except Stop Command := do
  let timeout ← timeout? environment given
  match given.operands, given.options.lookup "output" with
  | [manifest], some output =>
    return .compose manifest output timeout (given.options.lookup "no-probe").isNone
  | _, _ => throw .misuse

/-- What the arguments of a command amount to. -/
def invoke (topic : Topic) (form : Form) (build : Given → Except Stop Command)
    (args : List String) : Invocation :=
  match form.scan {} args with
  | .error .help => .help topic
  | .error .misuse => .misuse
  | .ok given =>
    match build given with
    | .ok command => .command command
    | .error _ => .misuse

/-- Help on the command of a name. -/
def helpOn : List String → Invocation
  | [] => .help .overview
  | ["plan"] => .help .plan
  | ["compose"] => .help .compose
  | ["schema"] => .help .schema
  | ["check"] => .help .check
  | ["help"] => .help .help
  | _ => .misuse

/-- What arguments amount to in an environment. -/
def Invocation.ofArgs (environment : Environment) : List String → Invocation
  | [] => .misuse
  | "plan" :: args => invoke .plan planForm planOf args
  | "compose" :: args => invoke .compose composeForm (composeOf environment) args
  | "schema" :: args => invoke .schema bareForm (fun _ => .ok .schema) args
  | "check" :: args => invoke .check bareForm (fun _ => .ok .check) args
  | "help" :: args => helpOn args
  | text :: _ =>
    match Argument.ofText text with
    | .long "help" none => .help .overview
    | .long "version" none => .version
    | .short 'h' _ => .help .overview
    | .short 'V' _ => .version
    | _ => .misuse

end Montage.Cli
