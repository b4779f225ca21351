import BlockProgram.CommandLine.Parse
import BlockProgram.Toolchain.Job

/-! # The toolchain's command line

`blockjr [OPTIONS] <COMMAND>`, with the subcommands `order`, `compile`, `queue`,
`validate`, `chapters`, `run` and `stop`. `--config` (`-c`) and `--verbose` (`-v`) may be
given before or after the subcommand; the later one counts. Paths must not be empty,
`--scale` takes a decimal float (`inf` and `nan` spelled out, in any case), and
`--naming` and `--mode` take the names of a scheme and a match mode. `--unit` and
`--scale` exclude each other.
-/

namespace BlockProgram.Toolchain

open CommandLine

/-- A value given on the toolchain's command line. -/
inductive Setting where
  /-- A path or a name. -/
  | text (s : String)
  /-- A number. -/
  | number (f : Float)
  /-- A naming scheme. -/
  | scheme (n : NamingScheme)
  /-- A match mode. -/
  | mode (m : MatchMode)

/-- Whether a character is a decimal digit. -/
def isDigit (c : Char) : Bool := '0' ≤ c && c ≤ '9'

/-- The exponent of a decimal float after its `e`: an optional sign and at least one
digit, and nothing after them. -/
def exponentOf (cs : List Char) : Option Int :=
  let (negative, digits) := match cs with
    | '-' :: rest => (true, rest)
    | '+' :: rest => (false, rest)
    | _ => (false, cs)
  if !digits.isEmpty && digits.all isDigit then
    let e : Int := digits.foldl (fun n c => 10 * n + (c.toNat - '0'.toNat)) 0
    some (if negative then -e else e)
  else none

/-- Reads a decimal float, rounded to the nearest double: an optional sign, then `inf`,
`infinity` or `nan` in any case, or digits with an optional point (at least one digit in
all) and an optional exponent. -/
def readFloat (s : String) : Except String Float :=
  let invalid := Except.error "invalid float literal"
  if s.isEmpty then .error "cannot parse float from empty string"
  else
    let (negative, body) := match s.toList with
      | '-' :: rest => (true, rest)
      | '+' :: rest => (false, rest)
      | cs => (false, cs)
    let lower := String.ofList (body.map Char.toLower)
    if lower == "inf" || lower == "infinity" then .ok (if negative then -1.0 / 0.0 else 1.0 / 0.0)
    else if lower == "nan" then .ok (0.0 / 0.0)
    else
      let whole := body.takeWhile isDigit
      let afterWhole := body.drop whole.length
      let (frac, afterFrac) := match afterWhole with
        | '.' :: rest => (rest.takeWhile isDigit, rest.dropWhile isDigit)
        | _ => ([], afterWhole)
      if whole.isEmpty && frac.isEmpty then invalid
      else
        let exponent := match afterFrac with
          | [] => some 0
          | 'e' :: rest | 'E' :: rest => exponentOf rest
          | _ => none
        match exponent with
        | none => invalid
        | some e =>
          let digits := whole ++ frac
          let m := digits.foldl (fun n c => 10 * n + (c.toNat - '0'.toNat)) 0
          .ok (Decimal.ofDecimal negative m (e - frac.length))

namespace Grammar

/-- A path: any text but the empty one. -/
def path (s : String) : Except ValueError Setting :=
  if s.isEmpty then .error .empty else .ok (.text s)

/-- Any text. -/
def text (s : String) : Except ValueError Setting := .ok (.text s)

/-- A float. -/
def number (s : String) : Except ValueError Setting :=
  match readFloat s with
  | .ok f => .ok (.number f)
  | .error reason => .error (.invalid reason)

/-- A naming scheme by name. -/
def scheme (s : String) : Except ValueError Setting :=
  match NamingScheme.parse s with
  | .ok n => .ok (.scheme n)
  | .error reason => .error (.invalid reason)

/-- A match mode by name. -/
def mode (s : String) : Except ValueError Setting :=
  match MatchMode.parse s with
  | .ok m => .ok (.mode m)
  | .error reason => .error (.invalid reason)

/-- `--config`. -/
def config : NamedArg Setting :=
  { id := "config", long := "config", short := some 'c', action := .value "CONFIG" path,
    help := "Configuration file", default := some "blockjr.toml", order := 0 }

/-- `--verbose`. -/
def verbose : NamedArg Setting :=
  { id := "verbose", long := "verbose", short := some 'v', action := .flag,
    help := "Log at debug level", order := 1 }

/-- `--help`. -/
def help : NamedArg Setting :=
  { id := "help", long := "help", short := some 'h', action := .help, help := "Print help" }

/-- `--version`. -/
def version : NamedArg Setting :=
  { id := "version", long := "version", short := some 'V', action := .version,
    help := "Print version" }

/-- The block snapshot argument. -/
def blocks : PositionalArg Setting :=
  { id := "blocks", valueName := "BLOCKS", help := "Block snapshot (JSON array)", read := path }

/-- The compile options, placed from `start` on. -/
def compileOptions (start : Nat) : List (NamedArg Setting) :=
  [{ id := "naming", long := "naming", action := .value "NAMING" scheme,
     help := "Command naming: workspace or gamepad", order := start },
   { id := "unit", long := "unit", action := .value "UNIT" text,
     help := "Unit preset key applied to delay counts, e.g. 100m", order := start + 1,
     conflicts := ["scale"] },
   { id := "scale", long := "scale", action := .value "SCALE" number,
     help := "Raw multiplier applied to delay counts", order := start + 2 }]

/-- `--rules`, placed at `order`. -/
def rules (order : Nat) : NamedArg Setting :=
  { id := "rules", long := "rules", action := .value "RULES" path,
    help := "Rule book file (bundled elevator rules if not specified)", order }

/-- A subcommand with its own options, then the global ones and help. -/
def command (name about : String) (positionals : List (PositionalArg Setting))
    (own : List (NamedArg Setting)) : Subcommand Setting :=
  { name, about, positionals, named := own ++ [config, verbose, help] }

/-- The toolchain's command line. -/
def program : Program Setting :=
  { name := "blockjr", version := "0.1.0", about := "BlockJr block program toolchain",
    named := [config, verbose, help, version]
    subcommands := [
      command "order" "Print the execution chains in run order" [blocks] [],
      command "compile" "Compile a snapshot to the device command line" [blocks]
        (compileOptions 0),
      command "queue" "Print each command with the block that produced it" [blocks]
        (compileOptions 0),
      command "validate" "Check a snapshot against a chapter's rules" [blocks]
        [{ id := "chapter", long := "chapter", action := .value "CHAPTER" text,
           help := "Chapter key, e.g. chapter-01", required := true, order := 0 },
         rules 1,
         { id := "mode", long := "mode", action := .value "MODE" mode,
           help := "Matching mode: subsequence or exact", order := 2 }],
      command "chapters" "List the chapters of a rule book" [] [rules 0],
      command "run" "Execute a snapshot, writing commands to stdout" [blocks]
        ([{ id := "stepwise", long := "stepwise", action := .flag,
            help := "Send one command at a time, waiting for each OK", order := 0 },
          { id := "flag", long := "flag", action := .value "FLAG" text,
            help := "Run only the program under this green-flag block", order := 1 }] ++
          compileOptions 2),
      command "stop" "Send the stop signal" [] []] }

end Grammar

/-- A run of the toolchain as the command line asks for it. -/
structure Invocation where
  /-- The configuration path. -/
  config : String
  /-- The job. -/
  job : Job

namespace Invocation

/-- The text given for an argument. -/
def text? (values : List (String × Option Setting)) (id : String) : Option String :=
  match values.find? (·.1 == id) with
  | some (_, some (.text s)) => some s
  | _ => none

/-- The number given for an argument. -/
def number? (values : List (String × Option Setting)) (id : String) : Option Float :=
  match values.find? (·.1 == id) with
  | some (_, some (.number f)) => some f
  | _ => none

/-- The compile settings given. -/
def compileArgs (values : List (String × Option Setting)) : CompileArgs :=
  { naming := match values.find? (·.1 == "naming") with
      | some (_, some (.scheme n)) => some n
      | _ => none
    unit := text? values "unit"
    scale := number? values "scale" }

/-- The invocation of a subcommand, from the values given to the program and to it. -/
def ofMatch (top : List (String × Option Setting)) (name : String)
    (values : List (String × Option Setting)) : Invocation :=
  let blocks := (text? values "blocks").getD ""
  let job : Job := match name with
    | "order" => .order blocks
    | "compile" => .compile blocks (compileArgs values)
    | "queue" => .queue blocks (compileArgs values)
    | "validate" =>
      .validate blocks ((text? values "chapter").getD "") (text? values "rules")
        (match values.find? (·.1 == "mode") with
          | some (_, some (.mode m)) => some m
          | _ => none)
    | "chapters" => .chapters (text? values "rules")
    | "run" => .run blocks (compileArgs values) (values.any (·.1 == "stepwise"))
        (text? values "flag")
    | _ => .stop
  { config := ((text? values "config").or (text? top "config")).getD "blockjr.toml", job }

end Invocation

end BlockProgram.Toolchain
