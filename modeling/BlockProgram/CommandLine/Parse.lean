import BlockProgram.CommandLine.Grammar

/-! # Reading a command line against its grammar

The words are read left to right.

* `--` ends the named arguments: every later word is positional.
* `--name` or `--name=value` is a named argument by its long name; `-abc` is a cluster of
  short names, where a short name that takes a value takes the rest of the cluster as its
  value (after an optional `=`), or the next word when the cluster ends with it.
* While an argument waits for its value, the next word is that value, even one that
  names a subcommand; a word that looks named is read as named and leaves the argument
  without a value.
* Any other word is the next positional argument, or at the top the subcommand to run;
  the words after a subcommand are read against it.

A value, named or positional, is read when the next argument is taken in, or at the
end; a word that fits nothing stops the reading with its own error, and a value still
waiting to be read then goes unchecked. Taking in a named argument checks first that it
has a value, then that it was not given before, then reads the value. Help and version requests stop the reading where they stand. At the end
the waiting value is read, arguments that exclude each other are checked in the order
given, and then the required ones. A program given no word at all answers with its help,
as an error.
-/

namespace BlockProgram.CommandLine

/-- Why a command line was refused. -/
inductive UsageError where
  /-- A word that fits no argument. -/
  | unknownArgument (word : String)
  /-- A word where a subcommand was expected. -/
  | unrecognizedSubcommand (word : String)
  /-- An argument given without its value, or with an empty one where that is refused. -/
  | emptyValue (arg : String)
  /-- A value that cannot be read. -/
  | invalidValue (value arg reason : String)
  /-- A value given to a flag. -/
  | unexpectedValue (value arg : String)
  /-- An argument given twice. -/
  | repeated (arg : String)
  /-- Two arguments that exclude each other. -/
  | conflict (arg other : String)
  /-- Required arguments not given. -/
  | missingRequired (args : List String)
  /-- No subcommand given. -/
  | missingSubcommand (program : String) (names : List String)

/-- The first line of the message of a usage error, and the lines after it. -/
def UsageError.message : UsageError → String
  | .unknownArgument w => s!"unexpected argument '{w}' found"
  | .unrecognizedSubcommand w => s!"unrecognized subcommand '{w}'"
  | .emptyValue a => s!"a value is required for '{a}' but none was supplied"
  | .invalidValue v a reason => s!"invalid value '{v}' for '{a}': {reason}"
  | .unexpectedValue v a => s!"unexpected value '{v}' for '{a}' found; no more were expected"
  | .repeated a => s!"the argument '{a}' cannot be used multiple times"
  | .conflict a b => s!"the argument '{a}' cannot be used with '{b}'"
  | .missingRequired args =>
    "the following required arguments were not provided:" ++
      String.join (args.map ("\n  " ++ ·))
  | .missingSubcommand p names =>
    s!"'{p}' requires a subcommand but one was not provided\n  [subcommands: " ++
      ", ".intercalate names ++ "]"

/-- The text of a usage error, with the usage line of the command where it arose. -/
def UsageError.text (e : UsageError) (usage : String) : String :=
  "error: " ++ e.message ++ "\n\nUsage: " ++ usage ++ "\n\nFor more information, try '--help'.\n"

/-- What reading a command line gave. -/
inductive Parsed (α : Type) where
  /-- Help was asked for; it goes to standard output. -/
  | help (text : String)
  /-- The version was asked for. -/
  | version (text : String)
  /-- Nothing was given: the help, as an error. -/
  | helpError (text : String)
  /-- The command line was refused; the text says why. -/
  | refused (text : String)
  /-- The values given to the program, the subcommand, and the values given to it. -/
  | matched (top : List (String × Option α)) (command : Subcommand α)
      (values : List (String × Option α))

/-- Why reading stopped early. -/
inductive Stop where
  /-- Help was asked for. -/
  | help
  /-- The version was asked for. -/
  | version
  /-- The words were refused. -/
  | refused (e : UsageError)

/-- An argument given but not taken in yet. -/
inductive Waiting (α : Type) where
  /-- A named argument, with its value once one came. -/
  | named (a : NamedArg α) (value : Option String)
  /-- A positional argument, with its value. -/
  | positional (p : PositionalArg α) (value : String)

/-- The state of reading one command's words. -/
structure Reading (α : Type) where
  /-- The named arguments read, in order: flags without a value. -/
  named : List (String × Option α) := []
  /-- The positional values read, in order. -/
  positional : List (String × α) := []
  /-- The argument given but not taken in yet. -/
  pending : Option (Waiting α) := none
  /-- Whether `--` was seen. -/
  trailing : Bool := false

namespace Reading

/-- Whether a named argument waits for its value. -/
def awaiting (r : Reading α) : Bool :=
  match r.pending with
  | some (.named _ none) => true
  | _ => false

/-- Gives a word as the value of the named argument that waits for one. -/
def supply (word : String) (r : Reading α) : Reading α :=
  match r.pending with
  | some (.named a none) => { r with pending := some (.named a (some word)) }
  | _ => r

/-- How many positional arguments were given, the one waiting to be read included. -/
def filled (r : Reading α) : Nat :=
  r.positional.length + match r.pending with
    | some (.positional _ _) => 1
    | _ => 0

/-- Whether a named argument was given. -/
def has (r : Reading α) (id : String) : Bool := r.named.any (·.1 == id)

/-- Takes in a named argument with its value, if it has one. -/
def take (a : NamedArg α) (value : Option String) (r : Reading α) : Except Stop (Reading α) :=
  match a.action with
  | .value _ read =>
    match value with
    | none => .error (.refused (.emptyValue a.display))
    | some raw =>
      if r.has a.id then .error (.refused (.repeated a.display))
      else match read raw with
        | .ok x => .ok { r with named := r.named ++ [(a.id, some x)] }
        | .error .empty => .error (.refused (.emptyValue a.display))
        | .error (.invalid reason) => .error (.refused (.invalidValue raw a.display reason))
  | .flag =>
    if r.has a.id then .error (.refused (.repeated a.display))
    else .ok { r with named := r.named ++ [(a.id, none)] }
  | .help => .error .help
  | .version => .error .version

/-- Takes in the argument that was given but not taken in yet. -/
def settle (r : Reading α) : Except Stop (Reading α) :=
  match r.pending with
  | none => .ok r
  | some (.named a value) => take a value { r with pending := none }
  | some (.positional p raw) =>
    match p.read raw with
    | .ok x => .ok { r with pending := none, positional := r.positional ++ [(p.id, x)] }
    | .error .empty => .error (.refused (.emptyValue p.display))
    | .error (.invalid reason) => .error (.refused (.invalidValue raw p.display reason))

/-- Takes in a named argument after settling the one before it; one that takes a value
and has none yet waits for the next word. -/
def given (a : NamedArg α) (value : Option String) (r : Reading α) : Except Stop (Reading α) := do
  let r ← r.settle
  match a.action, value with
  | .value _ _, none => return { r with pending := some (.named a none) }
  | _, _ => r.take a value

end Reading

/-- The words before and after the first `=` of a word. -/
def splitValue (s : String) : String × Option String :=
  match s.splitOn "=" with
  | [] | [_] => (s, none)
  | name :: rest => (name, some ("=".intercalate rest))

/-- Reads a cluster of short names, the letters after a single `-`. -/
def shortCluster (named : List (NamedArg α)) : List Char → Reading α → Except Stop (Reading α)
  | [], r => .ok r
  | c :: rest, r =>
    match named.find? (·.short == some c) with
    | none => .error (.refused (.unknownArgument ("-" ++ String.singleton c)))
    | some a =>
      match a.action with
      | .value _ _ =>
        if rest.isEmpty then r.given a none
        else
          let attached := match rest with
            | '=' :: more => more
            | _ => rest
          r.given a (some (String.ofList attached))
      | _ => do shortCluster named rest (← r.given a none)

/-- Reads a word that looks named: `--name`, `--name=value` or a cluster of short names. -/
def namedWord (named : List (NamedArg α)) (word : String) (r : Reading α) :
    Except Stop (Reading α) :=
  if word.startsWith "--" then
    let (name, value) := splitValue (word.drop 2).toString
    match named.find? (·.long == name) with
    | none => .error (.refused (.unknownArgument ("--" ++ name)))
    | some a =>
      match a.action, value with
      | .value _ _, _ => r.given a value
      | _, some v => .error (.refused (.unexpectedValue v a.display))
      | _, none => r.given a none
  else shortCluster named (word.drop 1).toString.toList r

/-- Whether a word looks named: it starts with `-` and is more than `-` or `--`. -/
def looksNamed (word : String) : Bool := word.startsWith "-" && word.length ≥ 2 && word != "--"

/-- Reads one word of a subcommand. -/
def subcommandWord (s : Subcommand α) (word : String) (r : Reading α) :
    Except Stop (Reading α) :=
  if !r.trailing && word == "--" then .ok { r with trailing := true }
  else if !r.trailing && looksNamed word then namedWord s.named word r
  else if !r.trailing && r.awaiting then .ok (r.supply word)
  else
    match s.positionals.drop r.filled with
    | p :: _ => do
      let r ← r.settle
      return { r with pending := some (.positional p word) }
    | [] => .error (.refused (.unknownArgument word))

/-- Reads the words of a subcommand. -/
def subcommandWords (s : Subcommand α) : List String → Reading α → Except Stop (Reading α)
  | [], r => .ok r
  | w :: rest, r => do subcommandWords s rest (← subcommandWord s w r)

/-- The first argument given that another argument given excludes, with that other. -/
def firstConflict (named : List (NamedArg α)) (r : Reading α) : Option (String × String) :=
  let given := r.named.filterMap fun (id, _) => named.find? (·.id == id)
  given.findSome? fun a =>
    (given.find? fun b => a.conflicts.contains b.id || b.conflicts.contains a.id).map
      fun b => (a.display, b.display)

/-- Checks a subcommand's arguments at the end: excluded pairs, then required ones. -/
def checkSubcommand (s : Subcommand α) (r : Reading α) : Except UsageError Unit :=
  match firstConflict s.named r with
  | some (a, b) => .error (.conflict a b)
  | none =>
    let missing := (s.named.filter fun a => a.required && !r.has a.id).map NamedArg.display ++
      (s.positionals.drop r.positional.length).map PositionalArg.display
    if missing.isEmpty then .ok () else .error (.missingRequired missing)

/-- Reads the words of a subcommand to the end: the reading, or the outcome it stopped
with. -/
def readSubcommand (p : Program α) (s : Subcommand α) (words : List String) :
    Except (Parsed α) (Reading α) :=
  let usage := s.usage p.name
  match subcommandWords s words {} >>= Reading.settle with
  | .error .help => .error (.help (s.help p.name))
  | .error .version => .error (.version p.versionText)
  | .error (.refused e) => .error (.refused (e.text usage))
  | .ok r =>
    match checkSubcommand s r with
    | .error e => .error (.refused (e.text usage))
    | .ok () => .ok r

/-- The help the `help` subcommand prints for the words after it. -/
def helpFor (p : Program α) : List String → Parsed α
  | [] => .help p.help
  | [name] =>
    if name == "help" then .help p.helpOfHelp
    else match p.find? name with
      | some s => .help (s.help p.name)
      | none => .refused ((UsageError.unrecognizedSubcommand name).text p.usage)
  | name :: next :: _ =>
    match p.find? name with
    | some s => .refused ((UsageError.unrecognizedSubcommand next).text (s.usage p.name))
    | none =>
      if name == "help" then
        .refused ((UsageError.unrecognizedSubcommand next).text (p.name ++ " help [COMMAND]..."))
      else .refused ((UsageError.unrecognizedSubcommand name).text p.usage)

/-- The outcome of reading the words after a subcommand's name. -/
def enter (p : Program α) (top : Reading α) (s : Subcommand α) (words : List String) :
    Parsed α :=
  match readSubcommand p s words with
  | .ok r => .matched top.named s (r.named ++ r.positional.map fun (id, x) => (id, some x))
  | .error outcome => outcome

/-- Reads the program's words, up to its subcommand. -/
def programWords (p : Program α) : List String → Reading α → Parsed α
  | [], r =>
    match r.settle with
    | .error .help => .help p.help
    | .error .version => .version p.versionText
    | .error (.refused e) => .refused (e.text p.usage)
    | .ok r =>
      if r.named.isEmpty then .helpError p.help
      else .refused ((UsageError.missingSubcommand p.name p.commandNames).text p.usage)
  | w :: rest, r =>
    let stop : Stop → Parsed α
      | .help => .help p.help
      | .version => .version p.versionText
      | .refused e => .refused (e.text p.usage)
    if !r.trailing && !r.awaiting && w == "help" then helpFor p rest
    else if !r.trailing && !r.awaiting && (p.find? w).isSome then
      match r.settle, p.find? w with
      | .error s, _ => stop s
      | .ok r, some s => enter p r s rest
      | .ok _, none => .refused ((UsageError.unrecognizedSubcommand w).text p.usage)
    else if !r.trailing && w == "--" then programWords p rest { r with trailing := true }
    else if !r.trailing && looksNamed w then
      match namedWord p.named w r with
      | .ok r => programWords p rest r
      | .error s => stop s
    else if !r.trailing && r.awaiting then
      programWords p rest (r.supply w)
    else if r.trailing && (w == "help" || (p.find? w).isSome) then
      .refused ((UsageError.unknownArgument w).text p.usage)
    else .refused ((UsageError.unrecognizedSubcommand w).text p.usage)

/-- Reads a command line against a program's grammar. -/
def Program.parse (p : Program α) (words : List String) : Parsed α := programWords p words {}

end BlockProgram.CommandLine
