import SchemaBeans.CommandLine.Options

/-!
# What reading arguments keeps

All options that are used while arguments are read are options of the command: neither a name that
is cut short nor letters in one argument lead to another (`within_usesOf`). So what each option of a
command keeps of the gathered values, reading keeps (`takeArguments_keeps`). The package is gathered
beside the settings that take precedence, which never hold one (`noPackage_of_read`); and only an
argument parser that drops two hyphens leaves a level or a number of workers without a value
(`isSome_level_of_read`, `workersDropped_of_read`).
-/
namespace SchemaBeans.CommandLine

variable {σ : Type} {options : List (OptionSpec σ)}

/-- If steps that follow each other give a result, the first of them gives a value. -/
theorem exists_of_bind_eq_ok {ε α β : Type} {step : Except ε α} {next : α → Except ε β} {result : β}
    (gave : step >>= next = .ok result) : ∃ value, step = .ok value ∧ next value = .ok result := by
  cases step with
  | error fault => cases gave
  | ok value => exact ⟨value, rfl, gave⟩

/-- An option keeps a property of the gathered values, whatever its value is. -/
def OptionSpec.Keeps (holds : σ → Prop) (spec : OptionSpec σ) : Prop :=
  ∀ ⦃value state after⦄, spec.act value state = .ok after → holds state → holds after

namespace OptionSpec

variable {holds : σ → Prop} {names : List String}

/-- Help ends the reading. -/
theorem keeps_help {passesLetters : Bool} :
    (help passesLetters : OptionSpec σ).Keeps holds := by
  intro value state after acted held
  cases acted

/-- An option that sets something keeps what is kept by setting it. -/
theorem keeps_flag {set : σ → σ} (kept : ∀ state, holds state → holds (set state)) :
    (flag names set).Keeps holds := by
  intro value state after acted held
  cases acted
  exact kept state held

/-- An option with a text keeps what is kept by any text. -/
theorem keeps_text {set : String → σ → σ} (kept : ∀ value state, holds state →
    holds (set value state)) : (text names set).Keeps holds := by
  intro value state after acted held
  cases acted
  exact kept value state held

end OptionSpec

/-- An option that is found by its name is one of the command. -/
theorem mem_of_findOption {name : String} {spec : OptionSpec σ}
    (found : findOption options name = some spec) : spec ∈ options :=
  List.mem_of_find?_eq_some found

/-- An option with one of its names is one of the command. -/
theorem mem_of_mem_namedOptions {name : String} {spec : OptionSpec σ}
    (named : (name, spec) ∈ namedOptions options) : spec ∈ options := by
  obtain ⟨other, known, listed⟩ := List.mem_flatMap.mp named
  obtain ⟨_, _, same⟩ := List.mem_map.mp listed
  obtain rfl : other = spec := congrArg Prod.snd same
  exact known

/-- An option that an argument may be meant to name is one of the command. -/
theorem mem_of_mem_candidates {argument name : String} {spec : OptionSpec σ}
    {value : Option String} (meant : (name, spec, value) ∈ candidates options argument) :
    spec ∈ options := by
  unfold candidates at meant
  split at meant
  · obtain ⟨named, known, chosen⟩ := List.mem_filterMap.mp meant
    simp only [] at chosen
    split at chosen
    · cases chosen
      exact mem_of_mem_namedOptions known
    · cases chosen
  · obtain ⟨named, known, chosen⟩ := List.mem_filterMap.mp meant
    simp only [] at chosen
    split at chosen
    · cases chosen
      exact mem_of_mem_namedOptions known
    · split at chosen
      · cases chosen
        exact mem_of_mem_namedOptions known
      · cases chosen
  · cases meant

/-- An argument that is an option without naming one in full is one of the command. -/
theorem mem_of_ofCandidates {argument name : String} {spec : OptionSpec σ} {value : Option String}
    (role : roleOf.ofCandidates options argument = .ok (.option spec name value)) :
    spec ∈ options := by
  unfold roleOf.ofCandidates at role
  split at role
  · rename_i only
    cases role
    exact mem_of_mem_candidates (only ▸ List.mem_singleton_self _)
  · split at role <;> cases role
  · cases role

/-- An argument that is an option is one of the command. -/
theorem mem_of_roleOf {argument name : String} {spec : OptionSpec σ} {value : Option String}
    (role : roleOf options argument = .ok (.option spec name value)) : spec ∈ options := by
  unfold roleOf at role
  split at role
  · split at role
    · rename_i found
      cases role
      exact mem_of_findOption found
    · split at role
      · split at role
        · rename_i found
          cases role
          exact mem_of_findOption found
        · exact mem_of_ofCandidates role
      · exact mem_of_ofCandidates role
  · cases role

/-- The arguments that are options are options of the command. -/
def RolesWithin (options : List (OptionSpec σ)) (roles : List (String × Role σ)) : Prop :=
  ∀ ⦃argument spec name value⦄, (argument, .option spec name value) ∈ roles → spec ∈ options

/-- The arguments after the first are options of the command as well. -/
theorem RolesWithin.tail {first : String × Role σ} {rest : List (String × Role σ)}
    (within : RolesWithin options (first :: rest)) : RolesWithin options rest :=
  fun _ _ _ _ listed => within (List.mem_cons_of_mem first listed)

/-- The roles of arguments are those of options of the command. -/
theorem within_rolesOf {arguments : List String} {roles : List (String × Role σ)}
    (read : rolesOf options arguments = .ok roles) : RolesWithin options roles := by
  intro argument spec name value listed
  fun_induction rolesOf options arguments generalizing roles with
  | case1 =>
    cases read
    cases listed
  | case2 rest =>
    cases read
    simp at listed
  | case3 first rest other ih =>
    obtain ⟨found, role, read⟩ := exists_of_bind_eq_ok read
    obtain ⟨following, later, read⟩ := exists_of_bind_eq_ok read
    obtain rfl := Except.ok.inj read
    rcases List.mem_cons.mp listed with same | listed
    · obtain ⟨rfl, rfl⟩ := Prod.mk.inj same
      exact mem_of_roleOf role
    · exact ih later listed

/-- The options that are used are options of the command. -/
structure Uses.Within (options : List (OptionSpec σ)) (uses : Uses σ) : Prop where
  /-- Those that have their values are. -/
  complete : ∀ use ∈ uses.complete, use.1 ∈ options
  /-- The one that waits for its value is. -/
  waiting : ∀ spec, uses.waiting = some spec → spec ∈ options

/-- No option is used and none waits. -/
theorem within_nil : Uses.Within options ⟨[], none⟩ := ⟨by simp, nofun⟩

/-- One more option of the command is used with a value. -/
theorem Uses.Within.cons {uses : Uses σ} (within : uses.Within options) {spec : OptionSpec σ}
    (known : spec ∈ options) (value : String) :
    Uses.Within options { uses with complete := (spec, value) :: uses.complete } where
  complete use member := by
    rcases List.mem_cons.mp member with rfl | member
    · exact known
    · exact within.complete use member
  waiting := within.waiting

/-- An option of the command that stands alone uses only itself. -/
theorem within_useAlone {spec : OptionSpec σ} (known : spec ∈ options) :
    (useAlone spec).Within options := by
  unfold useAlone
  split
  · refine ⟨by simp, fun other same => ?_⟩
    obtain rfl := Option.some.inj same
    exact known
  · exact within_nil.cons known ""

/-- Letters in one argument lead to options of the command. -/
theorem within_useWithValue {spec : OptionSpec σ} (known : spec ∈ options) {isLetter : Bool}
    {value : List Char} {uses : Uses σ}
    (used : useWithValue options spec isLetter value = .ok uses) : uses.Within options := by
  fun_induction useWithValue options spec isLetter value generalizing uses with
  | case1 spec _ takes =>
    cases used
    exact within_nil.cons known ""
  | case3 spec _ first rest value takes =>
    cases used
    exact within_nil.cons known _
  | case4 spec first rest takes unnamed passes =>
    cases used
    exact within_nil.cons known ""
  | case6 spec first rest takes next found record last =>
    cases used
    exact (within_useAlone (mem_of_findOption found)).cons known ""
  | case7 spec first rest takes next found record more ih =>
    obtain ⟨following, later, used⟩ := exists_of_bind_eq_ok used
    cases used
    exact (ih (mem_of_findOption found) later).cons known ""
  | case2 | case5 | case8 => cases used

/-- The uses of an option of the command are options of the command. -/
theorem within_usesOf {spec : OptionSpec σ} (known : spec ∈ options) {name : String}
    {value : Option String} {uses : Uses σ} (used : usesOf options spec name value = .ok uses) :
    uses.Within options := by
  cases value with
  | none =>
    cases used
    exact within_useAlone known
  | some value => exact within_useWithValue known used

section Keeping

variable {holds : σ → Prop} (kept : ∀ spec ∈ options, spec.Keeps holds)

include kept

/-- Options of the command that act in order keep what each of them keeps. -/
theorem actAll_keeps {uses : List (OptionSpec σ × String)} (known : ∀ use ∈ uses, use.1 ∈ options)
    {state after : σ} (acted : actAll uses state = .ok after) (held : holds state) :
    holds after := by
  induction uses generalizing state with
  | nil =>
    cases acted
    exact held
  | cons use rest ih =>
    rw [actAll, List.foldlM_cons] at acted
    obtain ⟨middle, first, acted⟩ := exists_of_bind_eq_ok acted
    have one := kept use.1 (known use List.mem_cons_self) first held
    exact ih (fun other member => known other (List.mem_cons_of_mem use member)) acted one

/-- Arguments with their roles keep what each option of the command keeps. -/
theorem take_keeps {use : OperandUse} {roles : List (String × Role σ)}
    (within : RolesWithin options roles) {before after : Taken σ}
    (taken : take options use roles before = .ok after) (held : holds before.values) :
    holds after.values := by
  fun_induction take options use roles before generalizing after with
  | case1 | case2 | case4 =>
    cases taken
    exact held
  | case3 argument rest before several ih =>
    have same : (before.operand use argument).values = before.values := by
      unfold Taken.operand Taken.leave
      split <;> rfl
    exact ih within.tail taken (same ▸ held)
  | case5 argument rest before goes ih =>
    have same : (before.separator use rest.isEmpty).values = before.values := by
      unfold Taken.separator Taken.leave
      split <;> rfl
    exact ih within.tail taken (same ▸ held)
  | case6 argument rest before ih => exact ih within.tail taken held
  | case7 | case10 => cases taken
  | case8 argument spec name value rest before complete used ih =>
    have known := (within_usesOf (within List.mem_cons_self) used).complete
    obtain ⟨values, acted, taken⟩ := exists_of_bind_eq_ok taken
    exact ih values within.tail taken (actAll_keeps kept known acted held)
  | case9 argument spec name value before complete waiting used operand rest ih =>
    have uses := within_usesOf (within List.mem_cons_self) used
    have known : ∀ use ∈ complete ++ [(waiting, operand)], use.1 ∈ options := by
      intro use member
      rcases List.mem_append.mp member with member | member
      · exact uses.complete use member
      · rw [List.mem_singleton.mp member]
        exact uses.waiting waiting rfl
    obtain ⟨values, acted, taken⟩ := exists_of_bind_eq_ok taken
    exact ih values within.tail.tail taken (actAll_keeps kept known acted held)

/-- Reading arguments keeps what each option of the command keeps. -/
theorem takeArguments_keeps {use : OperandUse} {initial : σ} {arguments : List String}
    {taken : Taken σ} (read : takeArguments options use initial arguments = .ok taken)
    (held : holds initial) : holds taken.values := by
  unfold takeArguments at read
  split at read
  · cases read
  · rename_i roles
    exact take_keeps kept (within_rolesOf roles) read held

end Keeping

/-- Whether the settings that take precedence hold no package. -/
def GenerateOptions.NoPackage (options : GenerateOptions) : Prop :=
  options.overrides.targetPackage = none

/-- The number of workers is no package. -/
theorem keeps_workersOption (platform : Platform) :
    (workersOption platform).Keeps GenerateOptions.NoPackage := by
  intro value state after acted held
  unfold workersOption at acted
  simp only [] at acted
  split at acted
  · cases acted
    exact held
  · split at acted
    · cases acted
      exact held
    · cases acted

/-- No option of the command for files puts a package among the settings that take precedence. -/
theorem keeps_noPackage (platform : Platform) :
    ∀ spec ∈ generateOptions platform, spec.Keeps GenerateOptions.NoPackage := by
  have text {names : List String} {set : String → GenerateOptions → GenerateOptions}
      (kept : ∀ value state, (set value state).overrides = state.overrides) :
      (OptionSpec.text names set).Keeps GenerateOptions.NoPackage :=
    OptionSpec.keeps_text fun value state held => (congrArg _ (kept value state)).trans held
  have setting {name : String} {set : SettingsOverrides → SettingsOverrides}
      (kept : ∀ overrides, (set overrides).targetPackage = overrides.targetPackage) :
      (settingFlag name set).Keeps GenerateOptions.NoPackage :=
    OptionSpec.keeps_flag fun state held => (kept state.overrides).trans held
  simp only [generateOptions, List.forall_mem_cons]
  exact ⟨OptionSpec.keeps_help, text fun _ _ => rfl, text fun _ _ => rfl, setting fun _ => rfl,
    setting fun _ => rfl, setting fun _ => rfl, setting fun _ => rfl, setting fun _ => rfl,
    keeps_workersOption platform, OptionSpec.keeps_flag fun _ held => held,
    List.forall_mem_nil _⟩

section Platform

variable {platform : Platform}

/-- An argument parser that keeps two hyphens drops no value. -/
theorem Platform.valueOf?_of_keeps (platform : Platform) (keeps : platform.dropsHyphens = false)
    (value : String) : platform.valueOf? value = some value := by
  rw [valueOf?, keeps, Bool.false_and, if_neg Bool.false_ne_true]

/-- An argument parser that keeps two hyphens drops no level of the log. -/
theorem isSome_level_of_read {arguments : List String} {invocation : Invocation}
    (understood : readInvocation arguments platform = .ok invocation)
    (keeps : platform.dropsHyphens = false) : invocation.log.level.isSome = true := by
  have kept : ∀ spec ∈ logOptions platform, spec.Keeps fun log => log.level.isSome = true := by
    simp only [logOptions, List.forall_mem_cons, platform.valueOf?_of_keeps keeps]
    exact ⟨OptionSpec.keeps_help, OptionSpec.keeps_text fun _ _ _ => rfl,
      OptionSpec.keeps_flag fun _ held => held, List.forall_mem_nil _⟩
  unfold readInvocation at understood
  split at understood
  · cases understood
  · rename_i taken gathered
    obtain ⟨read, _, understood⟩ := exists_of_bind_eq_ok understood
    split at understood
    · cases understood
      exact takeArguments_keeps kept gathered rfl
    · cases understood

/-- The command of an invocation is read from the operands of the program. -/
theorem exists_readCommand_of_read {arguments : List String} {invocation : Invocation}
    (understood : readInvocation arguments platform = .ok invocation) :
    ∃ operands extras, readCommand platform operands = .ok ⟨invocation.command, extras⟩ := by
  unfold readInvocation at understood
  split at understood
  · cases understood
  · rename_i taken _
    obtain ⟨read, command, understood⟩ := exists_of_bind_eq_ok understood
    split at understood
    · cases understood
      exact ⟨taken.operands, read.extras, command⟩
    · cases understood

/-- The options of the command for files are read from the arguments after its name. -/
theorem exists_taken_of_readCommand {operands extras : List String} {options : GenerateOptions}
    (command : readCommand platform operands = .ok ⟨.generate options, extras⟩) :
    ∃ arguments taken, takeArguments (generateOptions platform) .run {} arguments = .ok taken ∧
      options = { taken.values with schemas := taken.operands } := by
  unfold readCommand at command
  split at command
  · cases command
  · rename_i arguments
    unfold readGenerate at command
    split at command
    · cases command
    · rename_i taken read
      split at command
      · cases command
      · cases command
        exact ⟨arguments, taken, read, rfl⟩
  · rename_i arguments
    unfold readRules at command
    split at command <;> cases command
  · cases command

section Generate

variable {arguments : List String} {log : LogOptions} {options : GenerateOptions}
  (understood : readInvocation arguments platform = .ok ⟨log, .generate options⟩)

include understood

/-- The options of the command for files have what each of its options keeps, whatever the paths
are. -/
theorem holds_of_read {holds : GenerateOptions → Prop}
    (kept : ∀ spec ∈ generateOptions platform, spec.Keeps holds) (held : holds {})
    (pathless : ∀ options schemas, holds options → holds { options with schemas }) :
    holds options := by
  obtain ⟨operands, extras, command⟩ := exists_readCommand_of_read understood
  obtain ⟨own, taken, read, rfl⟩ := exists_taken_of_readCommand command
  exact pathless taken.values taken.operands (takeArguments_keeps kept read held)

/-- The settings that take precedence and are read from arguments hold no package. -/
theorem noPackage_of_read : options.NoPackage :=
  holds_of_read understood (keeps_noPackage platform) rfl fun _ _ held => held

/-- An argument parser that keeps two hyphens drops no number of workers. -/
theorem workersDropped_of_read (keeps : platform.dropsHyphens = false) :
    options.workersDropped = false := by
  have workers : (workersOption platform).Keeps fun options => options.workersDropped = false := by
    intro value state after acted held
    simp only [workersOption, platform.valueOf?_of_keeps keeps] at acted
    split at acted
    · cases acted
      rfl
    · cases acted
  have kept : ∀ spec ∈ generateOptions platform,
      spec.Keeps fun options => options.workersDropped = false := by
    simp only [generateOptions, settingFlag, List.forall_mem_cons]
    exact ⟨OptionSpec.keeps_help, OptionSpec.keeps_text fun _ _ held => held,
      OptionSpec.keeps_text fun _ _ held => held, OptionSpec.keeps_flag fun _ held => held,
      OptionSpec.keeps_flag fun _ held => held, OptionSpec.keeps_flag fun _ held => held,
      OptionSpec.keeps_flag fun _ held => held, OptionSpec.keeps_flag fun _ held => held,
      workers, OptionSpec.keeps_flag fun _ held => held, List.forall_mem_nil _⟩
  exact holds_of_read understood kept rfl fun _ _ held => held

end Generate

end Platform

end SchemaBeans.CommandLine
