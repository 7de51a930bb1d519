import DocOutline.Settings.Basic

/-!
# Command line arguments

Options with a value take it from behind an equals sign, from the rest of a cluster of short
options, or from the next argument. In the last case the option is settled only when the next option
begins or the arguments end.
-/

namespace DocOutline.CommandLine

/-- What the command line can say. -/
inductive Flag where
  | package
  | outputFile
  | tomlFile
  | todoFile
  | mermaidFile
  | toc
  | privateMembers
  | debug
  | quiet
  | logFile
  | config
  | help
  | version
  deriving DecidableEq, Repr, Inhabited

namespace Flag

/-- Whether an option has a value. -/
def takesValue : Flag → Bool
  | .toc | .privateMembers | .debug | .quiet | .help | .version => false
  | _ => true

/-- Whether an option's value may be empty. -/
def allowsEmpty : Flag → Bool
  | .package => true
  | _ => false

/-- The long names of options. -/
def longNames : List (Text × Flag) :=
  ([("package", .package), ("output-file", .outputFile), ("toml-file", .tomlFile),
    ("tml", .tomlFile), ("todo-file", .todoFile), ("td", .todoFile),
    ("mermaid-file", .mermaidFile), ("mmd", .mermaidFile), ("toc", .toc),
    ("private-def", .privateMembers), ("debug", .debug), ("quiet", .quiet), ("logfile", .logFile),
    ("config", .config), ("help", .help), ("version", .version)] : List (String × Flag)).map
    fun (name, flag) => (name.toList, flag)

/-- The option with a long name. -/
def ofLong? (name : Text) : Option Flag := longNames.lookup name

/-- The option with a short name. -/
def ofShort? (c : Char) : Option Flag :=
  if c = 'p' then some .package
  else if c = 'o' then some .outputFile
  else if c = 'c' then some .config
  else if c = 'h' then some .help
  else if c = 'V' then some .version
  else none

end Flag

/-- Why arguments are not accepted, or what they ask for instead of a run. -/
inductive Refusal where
  | showHelp
  | showVersion
  | missingArgument
  | invalidValue
  | unknownArgument
  | conflict
  | tooManyValues
  deriving DecidableEq, Repr, Inhabited

/-- The exit code without a run: asking for help or the version is no mistake. -/
def Refusal.code : Refusal → Nat
  | .showHelp | .showVersion => 0
  | _ => 2

/-- What was read so far. -/
structure Progress where
  /-- The options that are settled, with their values. -/
  given : List (Flag × Text)
  /-- The option that was read last, if it takes its value from another argument. -/
  pending : Option (Flag × Option Text)
  deriving DecidableEq, Repr, Inhabited

namespace Progress

/-- Settles an option. It cannot be given twice, and most values cannot be empty. -/
def settle (p : Progress) (flag : Flag) (value : Text) : Except Refusal Progress :=
  if (p.given.lookup flag).isSome then .error .conflict
  else if flag.takesValue && value.isEmpty && !flag.allowsEmpty then .error .invalidValue
  else .ok { given := p.given ++ [(flag, value)], pending := none }

/-- Settles the option that was read last. It has to have its value by now. -/
def flush (p : Progress) : Except Refusal Progress :=
  match p.pending with
  | none => .ok p
  | some (_, none) => .error .invalidValue
  | some (flag, some value) => p.settle flag value

/-- An option without a value. Help and the version end the reading. -/
def takeFlag (p : Progress) (flag : Flag) : Except Refusal Progress := do
  let p ← p.flush
  match flag with
  | .help => throw .showHelp
  | .version => throw .showVersion
  | _ => p.settle flag []

/-- An option with its value, or one that waits for it. -/
def takeOption (p : Progress) (flag : Flag) (value : Option Text) : Except Refusal Progress := do
  let p ← p.flush
  match value with
  | some v => p.settle flag v
  | none => return { p with pending := some (flag, none) }

/-- A long option behind its dashes. -/
def takeLong (p : Progress) (body : Text) : Except Refusal Progress :=
  let name := body.takeWhile (· != '=')
  let value := match body.dropWhile (· != '=') with
    | [] => none
    | _ :: v => some v
  match Flag.ofLong? name with
  | none => .error .unknownArgument
  | some flag =>
    if flag.takesValue then p.takeOption flag value
    else if value.isSome then .error .tooManyValues
    else p.takeFlag flag

/-- A cluster of short options behind its dash. The first one with a value takes the rest. -/
def takeShort (p : Progress) : Text → Except Refusal Progress
  | [] => .ok p
  | c :: rest =>
    match Flag.ofShort? c with
    | none => .error .unknownArgument
    | some flag =>
      if flag.takesValue then
        match rest with
        | [] => p.takeOption flag none
        | '=' :: v => p.takeOption flag (some v)
        | v => p.takeOption flag (some v)
      else
        match p.takeFlag flag with
        | .error e => .error e
        | .ok p => takeShort p rest

/-- An argument that is no option: the value that is waited for. -/
def takeWord (p : Progress) (w : Text) : Except Refusal Progress :=
  match p.pending with
  | some (flag, none) => .ok { p with pending := some (flag, some w) }
  | _ => .error .unknownArgument

/-- One argument before the end of the options. -/
def take (p : Progress) (arg : Text) : Except Refusal Progress :=
  match arg with
  | '-' :: '-' :: body => p.takeLong body
  | '-' :: c :: rest => p.takeShort (c :: rest)
  | w => p.takeWord w

end Progress

/-- Reads the arguments. Behind two dashes there are no options, and no other argument is known. -/
def readFrom (p : Progress) : List Text → Except Refusal Progress
  | [] => p.flush
  | arg :: args =>
    if arg = "--" then if args.isEmpty then p.flush else .error .unknownArgument
    else
      match p.take arg with
      | .error e => .error e
      | .ok p => readFrom p args

/-- The arguments of a run. -/
structure Arguments where
  package : Text
  config : Option Path
  debug : Bool
  quiet : Bool
  overrides : Overrides
  deriving DecidableEq, Repr, Inhabited

/-- The level of the log that the flags ask for. -/
def flagLevel (debug quiet : Bool) : Option Text :=
  if debug then some "debug" else if quiet then some "error" else none

/-- The arguments of a run from the options that were given. -/
def Arguments.ofGiven (given : List (Flag × Text)) : Except Refusal Arguments :=
  let path (flag : Flag) : Option Path := (given.lookup flag).map Path.mk
  let has (flag : Flag) : Bool := (given.lookup flag).isSome
  if has .debug && has .quiet then .error .conflict
  else
    match given.lookup .package with
    | none => .error .missingArgument
    | some package =>
      .ok {
        package
        config := path .config
        debug := has .debug
        quiet := has .quiet
        overrides := {
          output := path .outputFile
          tomlFile := path .tomlFile
          todoFile := path .todoFile
          mermaidFile := path .mermaidFile
          toc := has .toc
          privateMembers := has .privateMembers
          logLevel := flagLevel (has .debug) (has .quiet)
          logFile := path .logFile } }

/-- Reads the arguments of a run. -/
def Arguments.parse (args : List Text) : Except Refusal Arguments :=
  match readFrom ⟨[], none⟩ args with
  | .error e => .error e
  | .ok p => Arguments.ofGiven p.given

end DocOutline.CommandLine
