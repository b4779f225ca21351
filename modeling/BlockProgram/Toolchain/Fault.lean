import BlockProgram.Error

/-! # Why a run of the toolchain fails

A run stops at the first fault; the fault's message is the one line the toolchain reports.
Faults of the library's own operations, such as an invalid scale, keep their messages.
-/

namespace BlockProgram.Toolchain

/-- Why a run of the toolchain stopped. -/
inductive Fault where
  /-- The configuration path exists but cannot be read as text. -/
  | configUnreadable (path : String)
  /-- The configuration file is not a valid configuration. -/
  | configInvalid (path : String)
  /-- The block snapshot is missing, unreadable or malformed. -/
  | blocksUnreadable (path : String)
  /-- The rule book is missing, unreadable or malformed. -/
  | rulesUnreadable (path : String)
  /-- No unit preset has this key. -/
  | unknownUnit (key : String)
  /-- A program was asked for under a block that is not in the snapshot. -/
  | unknownBlock (id : String)
  /-- An operation of the library failed. -/
  | library (e : Error)

/-- The message of a fault. -/
def Fault.message : Fault → String
  | .configUnreadable path => s!"Failed to read config {path}"
  | .configInvalid path => s!"Invalid config {path}"
  | .blocksUnreadable path => s!"Failed to load blocks from {path}"
  | .rulesUnreadable path => s!"Failed to load rules {path}"
  | .unknownUnit key => s!"Unknown unit '{key}'"
  | .unknownBlock id => s!"Unknown block '{id}'"
  | .library e => e.message

end BlockProgram.Toolchain
