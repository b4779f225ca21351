/-! # Command-line grammars and their help

A program's command line is described by a `Program`: its own named arguments and its
subcommands, each with named and positional arguments. A named argument has a long name
(`--config`), maybe a one-letter short name (`-c`), and either takes a value, is a plain
flag, or asks for help or the version. Values are read into a type `α` chosen by the
program; reading may refuse an empty value or an invalid one with a reason.

The help of a command is laid out in sections (`Commands:`, `Arguments:`, `Options:`),
each a list of lines with the descriptions aligned two blanks after the longest entry.
Options are listed by their display order and then by short name, or long name when they
have none; a short name sorts as its lowercase letter followed by `0` for a lowercase
letter and `1` for an uppercase one.
-/

namespace BlockProgram.CommandLine

/-- Why a value given for an argument was refused. -/
inductive ValueError where
  /-- The value is empty, and this argument needs one. -/
  | empty
  /-- The value cannot be read; the reason says why. -/
  | invalid (reason : String)

/-- What a named argument does when given. -/
inductive Action (α : Type) where
  /-- Takes one value, shown as `<name>` and read by `read`. -/
  | value (name : String) (read : String → Except ValueError α)
  /-- Takes no value; it is given or not. -/
  | flag
  /-- Asks for the help of its command. -/
  | help
  /-- Asks for the program's version. -/
  | version

/-- A named argument. -/
structure NamedArg (α : Type) where
  /-- The key its value is found under. -/
  id : String
  /-- The long name, after `--`. -/
  long : String
  /-- The short name, after `-`. -/
  short : Option Char := none
  /-- What it does. -/
  action : Action α
  /-- Its description. -/
  help : String
  /-- The value it has when not given, as shown in the help. -/
  default : Option String := none
  /-- Whether it must be given. -/
  required : Bool := false
  /-- Its place in the help; equal places sort by name. -/
  order : Nat := 999
  /-- The keys of the arguments it cannot be given with. -/
  conflicts : List String := []

/-- A positional argument; each one must be given, once. -/
structure PositionalArg (α : Type) where
  /-- The key its value is found under. -/
  id : String
  /-- The name shown for it, as `<name>`. -/
  valueName : String
  /-- Its description. -/
  help : String
  /-- Reads its value. -/
  read : String → Except ValueError α

/-- A subcommand. -/
structure Subcommand (α : Type) where
  /-- Its name. -/
  name : String
  /-- Its description. -/
  about : String
  /-- Its positional arguments, in order. -/
  positionals : List (PositionalArg α) := []
  /-- Its named arguments, the program's global ones and the help flag included. -/
  named : List (NamedArg α)

/-- A program with subcommands, of which one must be given. -/
structure Program (α : Type) where
  /-- The name it is called by. -/
  name : String
  /-- Its version. -/
  version : String
  /-- Its description. -/
  about : String
  /-- Its own named arguments. -/
  named : List (NamedArg α)
  /-- Its subcommands, in order. -/
  subcommands : List (Subcommand α)

/-- The description of the subcommand that prints help. -/
def helpAbout : String := "Print this message or the help of the given subcommand(s)"

/-- `n` blanks. -/
def blanks (n : Nat) : String := String.ofList (List.replicate n ' ')

/-- Entries with descriptions aligned two blanks after the longest entry, each line
indented by two blanks. -/
def aligned (entries : List (String × String)) : List String :=
  let width := entries.foldl (fun w e => max w e.1.length) 2
  entries.map fun (entry, text) => "  " ++ entry ++ blanks (width + 2 - entry.length) ++ text

namespace NamedArg

/-- How the argument is named in messages: its long name and its value. -/
def display (a : NamedArg α) : String :=
  "--" ++ a.long ++ match a.action with
    | .value name _ => " <" ++ name ++ ">"
    | _ => ""

/-- The key that orders options in the help. -/
def sortKey (a : NamedArg α) : Nat × String :=
  (a.order, match a.short with
    | some c => String.singleton c.toLower ++ (if c.isLower then "0" else "1")
    | none => a.long)

/-- Whether `a` comes before `b` in the help. -/
def listedBefore (a b : NamedArg α) : Bool :=
  let (m, s) := a.sortKey
  let (n, t) := b.sortKey
  m < n || (m == n && s ≤ t)

/-- The description with the default value after it. -/
def description (a : NamedArg α) : String :=
  a.help ++ match a.default with
    | some d => " [default: " ++ d ++ "]"
    | none => ""

/-- The options section of a help: names and descriptions, aligned. -/
def optionsSection (named : List (NamedArg α)) : String :=
  let sorted := named.mergeSort listedBefore
  let width := sorted.foldl (fun w a => max w a.display.length) 2
  "Options:\n" ++ "\n".intercalate (sorted.map fun a =>
    "  " ++ (match a.short with
      | some c => "-" ++ String.singleton c ++ ", "
      | none => "    ") ++
    a.display ++ blanks (width + 2 - a.display.length) ++ a.description)

/-- Whether the arguments call for `[OPTIONS]` in a usage line: some argument that is
neither required nor help nor version. -/
def wantsOptionsTag (named : List (NamedArg α)) : Bool :=
  named.any fun a => !a.required && match a.action with
    | .help | .version => false
    | _ => true

end NamedArg

/-- How a positional argument is named in messages. -/
def PositionalArg.display (p : PositionalArg α) : String := "<" ++ p.valueName ++ ">"

namespace Subcommand

/-- The usage line of a subcommand of the program `program`: options, required named
arguments, then positional ones. -/
def usage (s : Subcommand α) (program : String) : String :=
  " ".intercalate ([program, s.name] ++
    (if NamedArg.wantsOptionsTag s.named then ["[OPTIONS]"] else []) ++
    (s.named.filter (·.required)).map NamedArg.display ++
    s.positionals.map PositionalArg.display)

/-- The help of a subcommand of the program `program`. -/
def help (s : Subcommand α) (program : String) : String :=
  let arguments :=
    if s.positionals.isEmpty then []
    else ["Arguments:\n" ++ "\n".intercalate
      (aligned (s.positionals.map fun p => (p.display, p.help)))]
  s.about ++ "\n\nUsage: " ++ s.usage program ++ "\n\n" ++
    "\n\n".intercalate (arguments ++ [NamedArg.optionsSection s.named]) ++ "\n"

end Subcommand

namespace Program

/-- The usage line of the program itself. -/
def usage (p : Program α) : String :=
  p.name ++ (if NamedArg.wantsOptionsTag p.named then " [OPTIONS]" else "") ++ " <COMMAND>"

/-- The names of the subcommands, the help subcommand last. -/
def commandNames (p : Program α) : List String := p.subcommands.map (·.name) ++ ["help"]

/-- The help of the program. -/
def help (p : Program α) : String :=
  let commands := aligned (p.subcommands.map (fun s => (s.name, s.about)) ++ [("help", helpAbout)])
  p.about ++ "\n\nUsage: " ++ p.usage ++ "\n\nCommands:\n" ++ "\n".intercalate commands ++
    "\n\n" ++ NamedArg.optionsSection p.named ++ "\n"

/-- The help of the help subcommand. -/
def helpOfHelp (p : Program α) : String :=
  helpAbout ++ "\n\nUsage: " ++ p.name ++ " help [COMMAND]...\n\nArguments:\n" ++
    "\n".intercalate (aligned [("[COMMAND]...", "Print help for the subcommand(s)")]) ++ "\n"

/-- The version line. -/
def versionText (p : Program α) : String := p.name ++ " " ++ p.version ++ "\n"

/-- The subcommand with a name. -/
def find? (p : Program α) (name : String) : Option (Subcommand α) :=
  p.subcommands.find? (·.name == name)

end Program

end BlockProgram.CommandLine
