import BlockProgram.Toml.Document
import BlockProgram.Toml.Decode
import BlockProgram.Toolchain.Fault
import BlockProgram.Toolchain.Files
import BlockProgram.Delivery.Executor
import BlockProgram.Validation

/-! # The toolchain's configuration

The configuration is a TOML file with four tables, each optional, and every setting in
them optional too; unknown tables and keys are ignored.

* `[compile]`: `naming` (`"workspace"` or `"gamepad"`), the default `unit` preset key,
  and `[compile.rename]`, block type names mapped to command names;
* `[[units]]`: unit presets, each with a `key`, a `label` and a `scale`, all three
  required; a list of presets replaces the three built-in ones (`100m`, `10m`, `1s`);
* `[transport]`: `attempts` (32-bit), `ack_timeout_ms` and `retry_delay_ms` (64-bit, so
  any TOML integer that is not negative), and `stepwise`;
* `[validation]`: the `rules` path, the match `mode` and the `block_types` kept in exact
  mode.

A missing file gives the defaults. The settings then answer the questions of a run: the
command names for a scheme (`naming`), the scale for a unit or factor (`scale`), the
delivery settings (`delivery`) and the rule book (`ruleBook`).
-/

namespace BlockProgram.Toolchain

open Toml

/-- A named multiplier for delay units. -/
structure UnitPreset where
  /-- The key that selects it. -/
  key : String
  /-- A description. -/
  label : String
  /-- The multiplier. -/
  scale : Float

/-- The built-in presets: tenths of a second, hundredths and whole seconds. -/
def UnitPreset.defaults : List UnitPreset :=
  [⟨"100m", "100 ms", 0.1⟩, ⟨"10m", "10 ms", 0.01⟩, ⟨"1s", "1 s", 1.0⟩]

/-- Compile settings. -/
structure CompileSettings where
  /-- The naming scheme used when a run names none. -/
  naming : NamingScheme := .workspace
  /-- The unit preset used when a run gives neither unit nor factor. -/
  unit : Option String := none
  /-- Command names for block types, ordered by type name. -/
  rename : List (String × String) := []

/-- Transport settings. -/
structure TransportSettings where
  /-- Send attempts per line. -/
  attempts : UInt32 := ({} : DeliveryConfig).attempts
  /-- How long to wait for an acknowledgement, in milliseconds. -/
  ackTimeoutMs : UInt64 := ({} : DeliveryConfig).ackTimeoutMs
  /-- The pause unit between retries, in milliseconds. -/
  retryDelayMs : UInt64 := ({} : DeliveryConfig).retryDelayMs
  /-- Whether runs send one command at a time. -/
  stepwise : Bool := false

/-- Validation settings. -/
structure ValidationSettings where
  /-- The rule book path used when a run names none. -/
  rules : Option String := none
  /-- The match mode used when a run names none. -/
  mode : MatchMode := .subsequence
  /-- The block types kept in exact mode; `none` or empty keeps all. -/
  blockTypes : Option (List String) := none

/-- The toolchain's configuration. -/
structure Config where
  /-- Compile settings. -/
  compile : CompileSettings := {}
  /-- Unit presets, searched in order. -/
  units : List UnitPreset := UnitPreset.defaults
  /-- Transport settings. -/
  transport : TransportSettings := {}
  /-- Validation settings. -/
  validation : ValidationSettings := {}

/-- Why a text is not a configuration. -/
inductive ConfigError where
  /-- The text is not TOML. -/
  | malformed (e : ParseError)
  /-- A setting has the wrong kind of value, or a required one is missing. -/
  | mismatched (e : DecodeError)

namespace Config

/-- A value read by `d`, as an optional one. -/
def optional (d : Decoder α) : Decoder (Option α) := fun v => some <$> d v

/-- A naming scheme, by name. -/
def schemeDecoder : Decoder NamingScheme :=
  Decoder.variant [("workspace", .workspace), ("gamepad", .gamepad)]

/-- A match mode, by name. -/
def modeDecoder : Decoder MatchMode :=
  Decoder.variant [("subsequence", .subsequence), ("exact", .exact)]

/-- A unit preset; all three fields are required. -/
def unitDecoder : Decoder UnitPreset := fun v => do
  let fs ← Fields.of v
  return { key := ← fs.required 0 "key" .string
           label := ← fs.required 1 "label" .string
           scale := ← fs.required 2 "scale" .float }

/-- Compile settings. -/
def compileDecoder : Decoder CompileSettings := fun v => do
  let fs ← Fields.of v
  let d : CompileSettings := {}
  return { naming := ← fs.withDefault 0 "naming" schemeDecoder d.naming
           unit := ← fs.withDefault 1 "unit" (optional .string) d.unit
           rename := ← fs.withDefault 2 "rename" (Decoder.stringMap .string) d.rename }

/-- Transport settings. -/
def transportDecoder : Decoder TransportSettings := fun v => do
  let fs ← Fields.of v
  let d : TransportSettings := {}
  return { attempts := ← fs.withDefault 0 "attempts" .u32 d.attempts
           ackTimeoutMs := ← fs.withDefault 1 "ack_timeout_ms" .u64 d.ackTimeoutMs
           retryDelayMs := ← fs.withDefault 2 "retry_delay_ms" .u64 d.retryDelayMs
           stepwise := ← fs.withDefault 3 "stepwise" .bool d.stepwise }

/-- Validation settings. -/
def validationDecoder : Decoder ValidationSettings := fun v => do
  let fs ← Fields.of v
  let d : ValidationSettings := {}
  return { rules := ← fs.withDefault 0 "rules" (optional .string) d.rules
           mode := ← fs.withDefault 1 "mode" modeDecoder d.mode
           blockTypes := ← fs.withDefault 2 "block_types" (optional (.list .string)) d.blockTypes }

/-- A whole configuration. -/
def decoder : Decoder Config := fun v => do
  let fs ← Fields.of v
  let d : Config := {}
  return { compile := ← fs.withDefault 0 "compile" compileDecoder d.compile
           units := ← fs.withDefault 1 "units" (.list unitDecoder) d.units
           transport := ← fs.withDefault 2 "transport" transportDecoder d.transport
           validation := ← fs.withDefault 3 "validation" validationDecoder d.validation }

/-- Reads a configuration from TOML text. -/
def parse (text : String) : Except ConfigError Config :=
  match Toml.parse text with
  | .error e => .error (.malformed e)
  | .ok v => (decoder v).mapError .mismatched

/-- Reads the configuration file at `path`; a missing file gives the defaults. -/
def load [Monad m] (read : String → m FileRead) (path : String) : m (Except Fault Config) := do
  match ← read path with
  | .missing => return .ok {}
  | .unreadable => return .error (.configUnreadable path)
  | .text t => return (parse t).mapError fun _ => .configInvalid path

/-- The command names for a scheme, or for the configured one: the scheme's table with
the configured renames on top, in the order of their type names. -/
def naming (c : Config) (scheme : Option NamingScheme) : Naming :=
  c.compile.rename.foldl (fun n (t, name) => n.rename (.ofName t) name)
    (Naming.ofScheme (scheme.getD c.compile.naming))

/-- The scale of a run: an explicit factor wins; otherwise the unit, or the configured
one, selects the first preset with that key; with neither, units go unchanged. -/
def scale (c : Config) (unit : Option String) (factor : Option Float) : Except Fault Scale :=
  match factor with
  | some f => (Scale.ofFactor f).mapError .library
  | none =>
    match unit <|> c.compile.unit with
    | none => .ok Scale.identity
    | some key =>
      match c.units.find? (·.key == key) with
      | some p => (Scale.ofFactor p.scale).mapError .library
      | none => .error (.unknownUnit key)

/-- The delivery settings of the transport. -/
def delivery (c : Config) : DeliveryConfig :=
  { attempts := c.transport.attempts, retryDelayMs := c.transport.retryDelayMs,
    ackTimeoutMs := c.transport.ackTimeoutMs }

/-- The rule book at `path`, or at the configured path, or else the bundled elevator
book. -/
def ruleBook [Monad m] (read : String → m FileRead) (c : Config) (path : Option String) :
    m (Except Fault RuleBook) := do
  match path <|> c.validation.rules with
  | none => return .ok RuleBook.elevator
  | some p =>
    match ← read p with
    | .text t => return (RuleBook.ofJson t).mapError fun _ => .rulesUnreadable p
    | _ => return .error (.rulesUnreadable p)

end Config

end BlockProgram.Toolchain
