import BlockProgram.Json.Reader
import BlockProgram.Decimal.Layout

/-! # Errors of the block tools

One type for everything that can go wrong when editing, compiling or delivering a
program, with the text each error is reported with in `Error.message`.
-/

namespace BlockProgram

/-- What went wrong. -/
inductive Error where
  /-- No block has this id. -/
  | unknownBlock (id : String)
  /-- A second block with this id. -/
  | duplicateBlockId (id : String)
  /-- Linking `child` under `parent` would close a loop. -/
  | wouldCycle (parent child : String)
  /-- The block is not a delay. -/
  | notADelay (id : String)
  /-- A scale factor that is negative, infinite or NaN. -/
  | invalidScale (factor : Float)
  /-- The link refused a line. -/
  | transport (message : String)
  /-- No device is connected. -/
  | notConnected
  /-- The device did not acknowledge within the time limit, in milliseconds. -/
  | ackTimeout (ms : Nat)
  /-- A JSON text could not be read. -/
  | serialization (cause : Json.ReadError)
  deriving Inhabited

/-- The text an error is reported with. -/
def Error.message : Error → String
  | .unknownBlock id => s!"Unknown block: {id}"
  | .duplicateBlockId id => s!"Duplicate block ID: {id}"
  | .wouldCycle parent child => s!"Attaching {child} under {parent} would create a cycle"
  | .notADelay id => s!"Block {id} is not a delay block"
  | .invalidScale f => "Invalid scale: " ++ Decimal.Layout.plain.render f
  | .transport msg => s!"Transport error: {msg}"
  | .notConnected => "Not connected to a device"
  | .ackTimeout ms => s!"No OK received within {ms} ms"
  | .serialization _ => "JSON error"

/-- The name of an error's kind, as errors are reported to tools. -/
def Error.kind : Error → String
  | .unknownBlock _ => "UnknownBlock"
  | .duplicateBlockId _ => "DuplicateBlockId"
  | .wouldCycle _ _ => "WouldCycle"
  | .notADelay _ => "NotADelay"
  | .invalidScale _ => "InvalidScale"
  | .transport _ => "Transport"
  | .notConnected => "NotConnected"
  | .ackTimeout _ => "AckTimeout"
  | .serialization _ => "Serialization"

end BlockProgram
