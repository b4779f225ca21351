import BlockProgram.Toolchain.Execute

/-! # The `blockjr` command

Runs the toolchain on the process's arguments, reading files from the file system: a
path that does not lead anywhere (a missing name, or a file used as a directory) reads as
missing, and one that exists but cannot be read as UTF-8 text, such as a directory, as
unreadable.
-/

section

open BlockProgram.Toolchain

/-- Reads a path of the file system. -/
def readPath (path : String) : IO FileRead := do
  if path.isEmpty then return .missing
  try
    let bytes ← IO.FS.readBinFile path
    match String.fromUTF8? bytes with
    | some text => return .text text
    | none => return .unreadable
  catch e =>
    match e with
    | .noFileOrDirectory _ _ _ => return .missing
    | .inappropriateType _ 20 _ => return .missing
    | _ => return .unreadable

/-- Runs the toolchain and exits with its code. -/
def main (args : List String) : IO UInt32 := do
  let exit ← execute readPath args
  let stdout ← IO.getStdout
  let stderr ← IO.getStderr
  stdout.putStr exit.stdout
  stdout.flush
  stderr.putStr exit.stderr
  stderr.flush
  return exit.code.toUInt32

end
