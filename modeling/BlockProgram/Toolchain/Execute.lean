import BlockProgram.Toolchain.Grammar

/-! # Running the toolchain on a command line

A run reads the command line, then the configuration, then does its job. Help and the
version go to standard output with success. A refused command line goes to standard
error with code 2; so does the help when nothing was given. A fault is reported on
standard error as `Error: ` and its message, with code 1; a validation that fails also
ends with code 1. A run that sends nothing says why on standard error.
-/

namespace BlockProgram.Toolchain

/-- How a run of the toolchain ends. -/
structure Exit where
  /-- The exit code: 0 for success, 1 for a fault or a failed validation, 2 for a refused
  command line. -/
  code : Nat
  /-- The text written to standard output. -/
  stdout : String := ""
  /-- The text written to standard error. -/
  stderr : String := ""

/-- The line that reports a fault. -/
def Fault.report (f : Fault) : String := "Error: " ++ f.message ++ "\n"

/-- How a job's report ends a run. -/
def Report.exit (r : Report) : Exit :=
  let notice := match r.notice with
    | some line => line ++ "\n"
    | none => ""
  match r.result with
  | .error f => { code := 1, stdout := r.output, stderr := notice ++ f.report }
  | .ok (.verdict false) => { code := 1, stdout := r.output, stderr := notice }
  | .ok _ => { code := 0, stdout := r.output, stderr := notice }

/-- Runs the toolchain on the words of a command line, reading files through `read`. -/
def execute [Monad m] (read : String → m FileRead) (words : List String) : m Exit := do
  match Grammar.program.parse words with
  | .help text | .version text => return { code := 0, stdout := text }
  | .helpError text | .refused text => return { code := 2, stderr := text }
  | .matched top command values =>
    let invocation := Invocation.ofMatch top command.name values
    match ← Config.load read invocation.config with
    | .error f => return { code := 1, stderr := f.report }
    | .ok c => return (← invocation.job.perform read c).exit

end BlockProgram.Toolchain
