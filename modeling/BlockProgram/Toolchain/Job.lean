import BlockProgram.Toolchain.Config
import BlockProgram.Graph.Basic
import BlockProgram.Chain

/-! # The toolchain's jobs

Each job reads a block snapshot, a rule book or both through a file reader, and writes
text for standard output:

* `order`: one line per execution chain, `id:type` joined by ` -> `;
* `compile`: the command line of the linearised program, or `execution chain is empty`;
* `queue`: `id` and command, tab-separated, one line per queued command;
* `validate`: `pass` or `fail` against a chapter of the rule book;
* `chapters`: each chapter with its number of patterns;
* `run`: the lines a program sends, as one line or one command at a time;
* `stop`: the stop command.

A job that meets a fault stops there, keeping what it wrote before. The snapshot is read
before the compile settings are worked out, and those before anything runs.
-/

namespace BlockProgram.Toolchain

/-- Compile settings given for one run; each one given overrides the configuration. -/
structure CompileArgs where
  /-- The naming scheme. -/
  naming : Option NamingScheme := none
  /-- The unit preset key. -/
  unit : Option String := none
  /-- An explicit multiplier; it wins over any unit. -/
  scale : Option Float := none

/-- A job of the toolchain, with the paths it reads. -/
inductive Job where
  /-- Print the execution chains of a snapshot. -/
  | order (blocks : String)
  /-- Print the command line of a snapshot. -/
  | compile (blocks : String) (args : CompileArgs)
  /-- Print each command with the block that produced it. -/
  | queue (blocks : String) (args : CompileArgs)
  /-- Check a snapshot against a chapter, with an optional rule book and match mode. -/
  | validate (blocks chapter : String) (rules : Option String) (mode : Option MatchMode)
  /-- List the chapters of a rule book. -/
  | chapters (rules : Option String)
  /-- Send a snapshot's program, or only the program under a green flag. -/
  | run (blocks : String) (args : CompileArgs) (stepwise : Bool) (flag : Option String)
  /-- Send the stop command. -/
  | stop

/-- What a job gives beside its text. -/
inductive Yield where
  /-- Nothing more. -/
  | done
  /-- Whether the snapshot passed validation. -/
  | verdict (passed : Bool)
  /-- How the run went. -/
  | delivered (outcome : Outcome)

/-- The result of a job. -/
structure Report where
  /-- The text for standard output. -/
  output : String := ""
  /-- A line for standard error. -/
  notice : Option String := none
  /-- What the job gave, or the fault that stopped it. -/
  result : Except Fault Yield

namespace Job

/-- Reads the snapshot at `path`. -/
def loadBlocks [Monad m] (read : String → m FileRead) (path : String) :
    m (Except Fault (List Block)) := do
  match ← read path with
  | .text t => return ((Graph.ofJson t).map (·.blocks)).mapError fun _ => .blocksUnreadable path
  | _ => return .error (.blocksUnreadable path)

/-- The compile options of a run. -/
def options (c : Config) (args : CompileArgs) : Except Fault CompileOptions := do
  return { naming := c.naming args.naming, scale := ← c.scale args.unit args.scale }

/-- A chain as `id:type` joined by arrows. -/
def chainLine (chain : List Block) : String :=
  " -> ".intercalate (chain.map fun b => b.id ++ ":" ++ b.type.name)

/-- Lines, each ended by a line end. -/
def linesText (lines : List String) : String := String.join (lines.map (· ++ "\n"))

/-- The program a run sends: the one under `flag`, or the whole snapshot linearised. A
flag that yields no program and names no block is a fault. -/
def program (blocks : List Block) : Option String → Except Fault (List Block)
  | none => .ok (Chain.linearize blocks)
  | some flag =>
    let sequence := Chain.programAfterFlag blocks flag
    if sequence.isEmpty && !blocks.any (·.id == flag) then .error (.unknownBlock flag)
    else .ok sequence

/-- The line a run reports on standard error. -/
def notice : Outcome → Option String
  | .empty => some "execution chain is empty"
  | .noCommands => some "program produced no commands"
  | _ => none

/-- A report of a fault, with nothing written. -/
def failure (f : Fault) : Report := { result := .error f }

/-- Sends a delivery over a fresh writer link: what was written, and how it went. -/
def deliver (d : Delivery WriterLink Outcome) : Report :=
  let (r, link) := Delivery.runOn d {}
  match r with
  | .ok o => { output := link.written, notice := notice o, result := .ok (.delivered o) }
  | .error e => { output := link.written, result := .error (.library e) }

/-- Performs a job with a configuration, reading files through `read`. -/
def perform [Monad m] (read : String → m FileRead) (c : Config) : Job → m Report
  | .order path => do
    match ← loadBlocks read path with
    | .error f => return failure f
    | .ok bs =>
      return { output := linesText ((Chain.executionChains bs).map chainLine), result := .ok .done }
  | .compile path args => do
    match ← loadBlocks read path with
    | .error f => return failure f
    | .ok bs =>
      match options c args with
      | .error f => return failure f
      | .ok o =>
        let line := match BlockProgram.compile o (Chain.linearize bs) with
          | none => "execution chain is empty"
          | some commands => renderLine commands
        return { output := line ++ "\n", result := .ok .done }
  | .queue path args => do
    match ← loadBlocks read path with
    | .error f => return failure f
    | .ok bs =>
      match options c args with
      | .error f => return failure f
      | .ok o =>
        let queue := commandQueue o (Chain.linearize bs)
        return { output := linesText (queue.map fun q => q.blockId ++ "\t" ++ q.command.render)
                 result := .ok .done }
  | .validate path chapter rules mode => do
    match ← loadBlocks read path with
    | .error f => return failure f
    | .ok bs =>
      match ← c.ruleBook read rules with
      | .error f => return failure f
      | .ok book =>
        have v := Validator.ofBook book
        have passed := match mode.getD c.validation.mode with
          | .subsequence => Validation.subsequence bs (v.patterns chapter)
          | .exact => Validation.exact bs (v.patterns chapter) c.validation.blockTypes
        return { output := if passed then "pass\n" else "fail\n", result := .ok (.verdict passed) }
  | .chapters rules => do
    match ← c.ruleBook read rules with
    | .error f => return failure f
    | .ok book =>
      let line := fun (p : String × List RawPattern) =>
        p.1 ++ "\t" ++ toString p.2.length ++ " pattern(s)"
      return { output := linesText (book.chapters.map line), result := .ok .done }
  | .run path args stepwise flag => do
    match ← loadBlocks read path with
    | .error f => return failure f
    | .ok bs =>
      match options c args, program bs flag with
      | .error f, _ | _, .error f => return failure f
      | .ok o, .ok sequence =>
        if stepwise || c.transport.stepwise then
          return deliver (Delivery.runStepwise o c.delivery sequence)
        else return deliver (Delivery.runSequence o c.delivery sequence)
  | .stop => do
    let (r, link) := Delivery.runOn (Delivery.stop c.delivery : Delivery WriterLink Unit) {}
    match r with
    | .ok () => return { output := link.written, result := .ok .done }
    | .error e => return { output := link.written, result := .error (.library e) }

end Job

end BlockProgram.Toolchain
