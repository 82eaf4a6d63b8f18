import SchemaBeans.Text.Numerals
import SchemaBeans.Text.Printable

/-!
# Arguments of a command

A command takes options and operands. An option is named in full, by a long name that is cut short
where that is not ambiguous, or by a letter; its value follows it, or is written into the same
argument. After the argument `--` all arguments are operands.

Reading has two passes. The first gives each argument its role, and refuses a cut name that fits
several options. The second takes options and operands in order; an argument with no use is left
over, which is for the caller to judge.
-/
namespace SchemaBeans.CommandLine

/-- What is wrong with arguments. -/
inductive UsageError where
  /-- A cut name fits several options. -/
  | ambiguous (argument : String) (candidates : List String)
  /-- An option, given by its names, has no value. -/
  | valueMissing (names : List String)
  /-- An option that takes no value has one. -/
  | valueIgnored (names : List String) (value : String)
  /-- The value of an option is no integer. -/
  | invalidInteger (names : List String) (value : String)
  /-- A command is not known. -/
  | unknownCommand (name : String) (known : List String)
  /-- Operands, given by their name, are missing. -/
  | operandsMissing (name : String)
  /-- Arguments are left over. -/
  | unrecognized (arguments : List String)
deriving DecidableEq, Repr

/-- The wording of an error of usage. -/
def UsageError.message : UsageError → String
  | ambiguous argument candidates =>
    s!"ambiguous option: {argument} could match " ++ ", ".intercalate candidates
  | valueMissing names => "argument " ++ "/".intercalate names ++ ": expected one argument"
  | valueIgnored names value =>
    "argument " ++ "/".intercalate names ++ s!": ignored explicit argument {Text.quoted value}"
  | invalidInteger names value =>
    "argument " ++ "/".intercalate names ++ s!": invalid int value: {Text.quoted value}"
  | unknownCommand name known =>
    s!"argument command: invalid choice: {Text.quoted name} (choose from " ++
      ", ".intercalate (known.map Text.quoted) ++ ")"
  | operandsMissing name => "the following arguments are required: " ++ name
  | unrecognized arguments => "unrecognized arguments: " ++ " ".intercalate arguments

/-- Why reading arguments stops. -/
inductive Stop where
  /-- Help is asked for. -/
  | help
  /-- The arguments cannot be used. -/
  | usage (error : UsageError)
deriving DecidableEq, Repr

/-- An option of a command that gathers values of type `σ`. -/
structure OptionSpec (σ : Type) where
  /-- Its names, long ones with two hyphens and letters with one. -/
  names : List String
  /-- Whether it takes a value. -/
  takesValue : Bool
  /-- What it does with its value, which is empty if it takes none. -/
  act : String → σ → Except Stop σ
  /-- Whether letters that are written after its own and name no option are passed over. -/
  passesLetters : Bool := false

namespace OptionSpec

variable {σ : Type}

/-- The option that asks for help. -/
def help (passesLetters : Bool) : OptionSpec σ where
  names := ["-h", "--help"]
  takesValue := false
  act _ _ := .error .help
  passesLetters

/-- An option that sets something. -/
def flag (names : List String) (set : σ → σ) : OptionSpec σ where
  names
  takesValue := false
  act _ state := .ok (set state)

/-- An option with a text as value. -/
def text (names : List String) (set : String → σ → σ) : OptionSpec σ where
  names
  takesValue := true
  act value state := .ok (set value state)

end OptionSpec

/-- What a command does with its operands. -/
inductive OperandUse where
  /-- It takes none. -/
  | none
  /-- It takes the first run of operands. -/
  | run
  /-- It takes the first operand and every argument after it, options included. -/
  | rest
deriving DecidableEq, Repr

/-- The role of an argument. -/
inductive Role (σ : Type) where
  /-- It is an operand. -/
  | operand
  /-- It is the argument after which all are operands. -/
  | separator
  /-- It is an option that is written as `name`, with a value if one is written into it. -/
  | option (spec : OptionSpec σ) (name : String) (value : Option String)
  /-- It has the form of an option and is none. -/
  | unknown

/-- The option of a name. -/
def findOption {σ : Type} (options : List (OptionSpec σ)) (name : String) :
    Option (OptionSpec σ) :=
  options.find? (·.names.contains name)

/-- The names of options with the options themselves. -/
def namedOptions {σ : Type} (options : List (OptionSpec σ)) : List (String × OptionSpec σ) :=
  options.flatMap fun spec => spec.names.map (·, spec)

/-- The text before the first equals sign and, if there is one, the text after it. -/
def splitValue (argument : String) : String × Option String :=
  let chars := argument.toList
  (String.ofList (chars.takeWhile (· != '=')),
    match chars.dropWhile (· != '=') with
    | [] => none
    | _ :: value => some (String.ofList value))

/-- Whether a text is a negative number: a hyphen and digits, with at most one point among them and
a digit after it. A line feed may follow. -/
def isNegativeNumber (argument : List Char) : Bool :=
  let isDecimal c := (Text.decimalValue? c).isSome
  let trimmed := if argument.getLast? == some '\n' then argument.dropLast else argument
  match trimmed with
  | '-' :: number =>
    match number.dropWhile isDecimal with
    | [] => !number.isEmpty
    | '.' :: fraction => !fraction.isEmpty && fraction.all isDecimal
    | _ => false
  | _ => false

/-- The options that an argument may be meant to name, with the name in full and the value. -/
def candidates {σ : Type} (options : List (OptionSpec σ)) (argument : String) :
    List (String × OptionSpec σ × Option String) :=
  match argument.toList with
  | '-' :: '-' :: _ =>
    let (cut, value) := splitValue argument
    (namedOptions options).filterMap fun (name, spec) =>
      if cut.toList.isPrefixOf name.toList then some (name, spec, value) else none
  | '-' :: letter :: value =>
    (namedOptions options).filterMap fun (name, spec) =>
      if name.toList = ['-', letter] then some (name, spec, some (String.ofList value))
      else if argument.toList.isPrefixOf name.toList then some (name, spec, none)
      else none
  | _ => []

/-- The role of an argument before the separator. -/
def roleOf {σ : Type} (options : List (OptionSpec σ)) (argument : String) :
    Except UsageError (Role σ) :=
  match argument.toList with
  | '-' :: _ :: _ =>
    match findOption options argument with
    | some spec => .ok (.option spec argument none)
    | none =>
      match splitValue argument with
      | (name, some value) =>
        match findOption options name with
        | some spec => .ok (.option spec name (some value))
        | none => ofCandidates
      | _ => ofCandidates
  | _ => .ok .operand
where
  /-- The role of an argument that names no option in full. -/
  ofCandidates : Except UsageError (Role σ) :=
    match candidates options argument with
    | [(name, spec, value)] => .ok (.option spec name value)
    | [] =>
      if isNegativeNumber argument.toList || argument.toList.contains ' ' then .ok .operand
      else .ok .unknown
    | several => .error (.ambiguous argument (several.map (·.1)))

/-- The arguments with their roles. -/
def rolesOf {σ : Type} (options : List (OptionSpec σ)) :
    List String → Except UsageError (List (String × Role σ))
  | [] => .ok []
  | "--" :: rest => .ok (("--", .separator) :: rest.map (·, .operand))
  | argument :: rest => do
    let role ← roleOf options argument
    let roles ← rolesOf options rest
    return (argument, role) :: roles

/-- Options that are used with their values, and an option that waits for its value. -/
structure Uses (σ : Type) where
  /-- The options with their values, in order. -/
  complete : List (OptionSpec σ × String)
  /-- The option whose value is the next argument. -/
  waiting : Option (OptionSpec σ)

/-- The use of an option that has no value written into its argument. -/
def useAlone {σ : Type} (spec : OptionSpec σ) : Uses σ :=
  if spec.takesValue then ⟨[], some spec⟩ else ⟨[(spec, "")], none⟩

/-- The uses of an argument whose option has a value written into it. The value of a letter that
takes none is read as further letters. -/
def useWithValue {σ : Type} (options : List (OptionSpec σ)) :
    OptionSpec σ → Bool → List Char → Except UsageError (Uses σ)
  | spec, _, [] =>
    if spec.takesValue then .ok ⟨[(spec, "")], none⟩ else .error (.valueIgnored spec.names "")
  | spec, isLetter, first :: rest =>
    let value := String.ofList (first :: rest)
    if spec.takesValue then .ok ⟨[(spec, value)], none⟩
    else if isLetter then
      match findOption options (String.ofList ['-', first]) with
      | none =>
        if spec.passesLetters then .ok ⟨[(spec, "")], none⟩
        else .error (.valueIgnored spec.names value)
      | some next => do
        let uses ← if rest.isEmpty then .ok (useAlone next) else useWithValue options next true rest
        return { uses with complete := (spec, "") :: uses.complete }
    else .error (.valueIgnored spec.names value)

/-- The uses of an argument that is an option. -/
def usesOf {σ : Type} (options : List (OptionSpec σ)) (spec : OptionSpec σ) (name : String)
    (value : Option String) : Except UsageError (Uses σ) :=
  match value with
  | none => .ok (useAlone spec)
  | some value => useWithValue options spec (name.toList[1]? != some '-') value.toList

/-- Let options act in order. -/
def actAll {σ : Type} (uses : List (OptionSpec σ × String)) (state : σ) : Except Stop σ :=
  uses.foldlM (fun state use => use.1.act use.2 state) state

/-- Whether a run of operands has been taken. -/
inductive Run where
  /-- No operand has been met. -/
  | ahead
  /-- The run goes on. -/
  | open
  /-- The run is over. -/
  | over
deriving DecidableEq, Repr

/-- What is taken from arguments. -/
structure Taken (σ : Type) where
  /-- What the options have gathered. -/
  values : σ
  /-- The operands that are used. -/
  operands : List String := []
  /-- How far the run of operands has come. -/
  run : Run := .ahead
  /-- The arguments that are left over. -/
  extras : List String := []

namespace Taken

variable {σ : Type}

/-- Go on after an argument that ends a run of operands. -/
def endRun (taken : Taken σ) : Taken σ :=
  { taken with run := if taken.run = .open then .over else taken.run }

/-- Leave an argument over. -/
def leave (taken : Taken σ) (argument : String) : Taken σ :=
  { taken with extras := taken.extras ++ [argument] }

/-- Take an operand, or leave it over after the end of the run. -/
def operand (taken : Taken σ) (use : OperandUse) (argument : String) : Taken σ :=
  if use = .none ∨ taken.run = .over then taken.leave argument
  else { taken with operands := taken.operands ++ [argument], run := .open }

/-- Pass the separator, or leave it over if no operand can be taken after it. -/
def separator (taken : Taken σ) (use : OperandUse) (isLast : Bool) : Taken σ :=
  if use = .none ∨ taken.run = .over ∨ (taken.run = .ahead ∧ isLast) then taken.leave "--"
  else taken

end Taken

/-- Take options and operands in order. -/
def take {σ : Type} (options : List (OptionSpec σ)) (use : OperandUse) :
    List (String × Role σ) → Taken σ → Except Stop (Taken σ)
  | [], taken => .ok taken
  | (argument, .operand) :: rest, taken =>
    if use = .rest then .ok { taken with operands := argument :: rest.map (·.1) }
    else take options use rest (taken.operand use argument)
  | (argument, .separator) :: rest, taken =>
    if use = .rest ∧ ¬rest.isEmpty then
      .ok { taken with operands := argument :: rest.map (·.1) }
    else take options use rest (taken.separator use rest.isEmpty)
  | (argument, .unknown) :: rest, taken => take options use rest (taken.endRun.leave argument)
  | (_, .option spec name value) :: rest, taken =>
    match usesOf options spec name value with
    | .error error => .error (.usage error)
    | .ok ⟨complete, none⟩ => do
      let values ← actAll complete taken.values
      take options use rest { taken.endRun with values }
    | .ok ⟨complete, some waiting⟩ =>
      match rest with
      | (argument, .operand) :: rest => do
        let values ← actAll (complete ++ [(waiting, argument)]) taken.values
        take options use rest { taken.endRun with values }
      | _ => .error (.usage (.valueMissing waiting.names))

/-- What a command takes from arguments. -/
def takeArguments {σ : Type} (options : List (OptionSpec σ)) (use : OperandUse) (initial : σ)
    (arguments : List String) : Except Stop (Taken σ) :=
  match rolesOf options arguments with
  | .error error => .error (.usage error)
  | .ok roles => take options use roles { values := initial }

end SchemaBeans.CommandLine
