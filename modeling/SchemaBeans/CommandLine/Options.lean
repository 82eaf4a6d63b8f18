import SchemaBeans.CommandLine.Grammar
import SchemaBeans.Settings.Environment

/-!
# The command line of the program

The program has two commands, one that generates classes and one that lists the rules, and options
before the command for the log. Arguments that neither the command nor the program has a use for
are an error; errors within the command come first.
-/
namespace SchemaBeans.CommandLine

/-- What a run meets that neither its arguments nor its environment nor its files decide: a release
of the argument parser and an encoding of the standard output. The defaults are one platform among
others; what is proved of runs holds on every platform. -/
structure Platform where
  /-- Whether the argument parser drops a text of two hyphens that is written into an argument as
  the value of an option, so that the option is given without a value. -/
  dropsHyphens : Bool := true
  /-- Whether the argument parser gives help for `-h` with letters after it that name no option. -/
  passesLetters : Bool := false
  /-- The surrogates without their partners that the standard output takes, each as a byte. It takes
  no others, and it need not take any. -/
  takesUnit : Nat → Bool := fun unit => 0xDC80 ≤ unit && unit ≤ 0xDCFF

namespace Platform

/-- The value of an option, unless the argument parser drops it. -/
def valueOf? (platform : Platform) (value : String) : Option String :=
  if platform.dropsHyphens && value = "--" then none else some value

/-- The text that an option is given by its value, where one that is dropped counts as empty. -/
def textOf (platform : Platform) (value : String) : String := (platform.valueOf? value).getD ""

end Platform

/-- How the log is kept, as given by options. -/
structure LogOptions where
  /-- The name of the threshold, unless it was dropped. -/
  level : Option String := some "WARNING"
  /-- Whether the log is written as JSON. -/
  json : Bool := false
deriving DecidableEq, Repr, Inhabited

/-- What classes are generated for and how, as given by options and operands. -/
structure GenerateOptions where
  /-- The paths of the schema files. -/
  schemas : List String := []
  /-- The name of the class. -/
  className : Option String := none
  /-- The package of the classes. -/
  package : Option String := none
  /-- The settings that are given. -/
  overrides : SettingsOverrides := {}
  /-- Whether the number of workers is given and was dropped. -/
  workersDropped : Bool := false
  /-- Whether the report is written as JSON. -/
  json : Bool := false
deriving DecidableEq, Repr, Inhabited

/-- A command. -/
inductive Command where
  /-- Show what the program can do. -/
  | overview
  /-- List the rules. -/
  | rules
  /-- Generate classes. -/
  | generate (options : GenerateOptions)
deriving DecidableEq, Repr

/-- A command with the options for the log. -/
structure Invocation where
  /-- How the log is kept. -/
  log : LogOptions
  /-- The command. -/
  command : Command
deriving DecidableEq, Repr

/-- The paths of the files that a command reads. -/
def Command.paths : Command → List String
  | overview | rules => []
  | generate options => options.schemas

/-- The program or one of its commands, which have a usage and a help text each. -/
inductive Topic where
  /-- The program. -/
  | program
  /-- The command that generates classes. -/
  | generate
  /-- The command that lists the rules. -/
  | rules
deriving DecidableEq, Repr

namespace Topic

/-- The name by which a topic is called. -/
def name : Topic → String
  | program => "schemaloom"
  | generate => "schemaloom generate"
  | rules => "schemaloom rules"

/-- The lines that show how a topic is called. -/
def usageLines : Topic → List String
  | program => [
    "usage: schemaloom [-h] [--log-level LOG_LEVEL] [--log-json]",
    "                  \x7bgenerate,rules\x7d ..."]
  | generate => [
    "usage: schemaloom generate [-h] [--class-name CLASS_NAME] [--package PACKAGE]",
    "                           [--jsr303] [--jakarta] [--swagger2] [--primitives]",
    "                           [--builders] [--workers WORKERS] [--json]",
    "                           schemas [schemas ...]"]
  | rules => ["usage: schemaloom rules [-h]"]

/-- The lines that explain a topic. -/
def detailLines : Topic → List String
  | program => [
    "",
    "Generate Java class models from JSON schemas",
    "",
    "positional arguments:",
    "  \x7bgenerate,rules\x7d      Available commands",
    "    generate            Generate classes from schema files",
    "    rules               List pipeline rules",
    "",
    "options:",
    "  -h, --help            show this help message and exit",
    "  --log-level LOG_LEVEL",
    "                        Log level (default: WARNING)",
    "  --log-json            Emit logs as JSON"]
  | generate => [
    "",
    "positional arguments:",
    "  schemas               Schema files (one class per file)",
    "",
    "options:",
    "  -h, --help            show this help message and exit",
    "  --class-name CLASS_NAME, -c CLASS_NAME",
    "                        Class name (only with a single schema; default: title",
    "                        or file name)",
    "  --package PACKAGE, -p PACKAGE",
    "                        Target package (default: SCHEMALOOM_TARGET_PACKAGE)",
    "  --jsr303              Add @NotNull to required fields",
    "  --jakarta             Use jakarta.validation annotations",
    "  --swagger2            Add @ApiModelProperty metadata",
    "  --primitives          Use primitive types for integer, number and boolean",
    "  --builders            Add withX builder methods",
    "  --workers WORKERS     Worker threads (default: SCHEMALOOM_MAX_WORKERS or 4)",
    "  --json                Print a JSON report instead of text"]
  | rules => [
    "",
    "options:",
    "  -h, --help  show this help message and exit"]

/-- The help text of a topic, in lines. -/
def helpLines (topic : Topic) : List String := topic.usageLines ++ topic.detailLines

end Topic

/-- Why a command line gives no command. -/
inductive Refusal where
  /-- Help on a topic is asked for. -/
  | help (topic : Topic)
  /-- The arguments of a topic cannot be used. -/
  | usage (topic : Topic) (error : UsageError)
deriving DecidableEq, Repr

/-- Why reading the arguments of a topic stops. -/
def Stop.refusal (topic : Topic) : Stop → Refusal
  | help => .help topic
  | usage error => .usage topic error

/-- The options before the command. -/
def logOptions (platform : Platform) : List (OptionSpec LogOptions) := [
  .help platform.passesLetters,
  .text ["--log-level"] fun value options => { options with level := platform.valueOf? value },
  .flag ["--log-json"] fun options => { options with json := true }]

/-- The names of the option for the number of workers. -/
def workersNames : List String := ["--workers"]

/-- The option for the number of workers. -/
def workersOption (platform : Platform) : OptionSpec GenerateOptions where
  names := workersNames
  takesValue := true
  act value options :=
    let giveWorkers (maxWorkers : Option Int) (workersDropped : Bool) : GenerateOptions :=
      { options with overrides := { options.overrides with maxWorkers }, workersDropped }
    match platform.valueOf? value with
    | none => .ok (giveWorkers none true)
    | some numeral =>
      match Text.integer? numeral with
      | some workers => .ok (giveWorkers (some workers) false)
      | none => .error (.usage (.invalidInteger workersNames numeral))

/-- An option that turns a setting on. -/
def settingFlag (name : String) (set : SettingsOverrides → SettingsOverrides) :
    OptionSpec GenerateOptions :=
  .flag [name] fun options => { options with overrides := set options.overrides }

/-- The options of the command that generates classes. -/
def generateOptions (platform : Platform) : List (OptionSpec GenerateOptions) := [
  .help platform.passesLetters,
  .text ["--class-name", "-c"] fun name options =>
    { options with className := some (platform.textOf name) },
  .text ["--package", "-p"] fun name options =>
    { options with package := some (platform.textOf name) },
  settingFlag "--jsr303" fun settings => { settings with notNullAnnotations := some true },
  settingFlag "--jakarta" fun settings => { settings with jakarta := some true },
  settingFlag "--swagger2" fun settings => { settings with swagger2 := some true },
  settingFlag "--primitives" fun settings => { settings with primitives := some true },
  settingFlag "--builders" fun settings => { settings with builders := some true },
  workersOption platform,
  .flag ["--json"] fun options => { options with json := true }]

/-- A command with the arguments that are left over. -/
structure ReadCommand where
  /-- The command. -/
  command : Command
  /-- The arguments that are left over. -/
  extras : List String

/-- Read the arguments of the command that generates classes. -/
def readGenerate (platform : Platform) (arguments : List String) : Except Refusal ReadCommand :=
  match takeArguments (generateOptions platform) .run {} arguments with
  | .error stop => .error (stop.refusal .generate)
  | .ok taken =>
    if taken.operands.isEmpty then .error (.usage .generate (.operandsMissing "schemas"))
    else .ok ⟨.generate { taken.values with schemas := taken.operands }, taken.extras⟩

/-- Read the arguments of the command that lists the rules. -/
def readRules (platform : Platform) (arguments : List String) : Except Refusal ReadCommand :=
  match takeArguments [OptionSpec.help platform.passesLetters] .none () arguments with
  | .error stop => .error (stop.refusal .rules)
  | .ok taken => .ok ⟨.rules, taken.extras⟩

/-- Read a command and its arguments; without one the program gives an overview. -/
def readCommand (platform : Platform) : List String → Except Refusal ReadCommand
  | [] => .ok ⟨.overview, []⟩
  | "generate" :: arguments => readGenerate platform arguments
  | "rules" :: arguments => readRules platform arguments
  | name :: _ => .error (.usage .program (.unknownCommand name ["generate", "rules"]))

/-- Read the arguments of the program. -/
def readInvocation (arguments : List String) (platform : Platform := {}) :
    Except Refusal Invocation :=
  match takeArguments (logOptions platform) .rest {} arguments with
  | .error stop => .error (stop.refusal .program)
  | .ok taken => do
    let read ← readCommand platform taken.operands
    match taken.extras ++ read.extras with
    | [] => return ⟨taken.values, read.command⟩
    | extras => .error (.usage .program (.unrecognized extras))

end SchemaBeans.CommandLine
