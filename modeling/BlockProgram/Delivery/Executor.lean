import BlockProgram.Delivery.Link
import BlockProgram.Chain
import BlockProgram.CommandQueue

/-! # Delivering programs

A program is compiled once and sent over a link: as one line (`runSequence`), or one
command at a time with an acknowledgement after each (`runStepwise`). Every line is tried
up to `max attempts 1` times and the last failure is reported. An empty sequence, and a
sequence that compiles to no command, are settled before connectivity is checked; a
disconnected link then fails before anything is sent. The link's state is kept whatever
the outcome, so lines sent before a failure stay sent.

Waiting between retries does not change any outcome; `DeliveryConfig.backoff` gives the
pause, which grows with the attempt number and saturates at the largest 64-bit value.
-/

namespace BlockProgram

/-- Delivery settings. -/
structure DeliveryConfig where
  /-- Send attempts per line. -/
  attempts : UInt32 := 3
  /-- The pause before retry `n` is `n` times this, in milliseconds. -/
  retryDelayMs : UInt64 := 200
  /-- How long to wait for an acknowledgement, in milliseconds. -/
  ackTimeoutMs : UInt64 := 8000
  deriving Inhabited, Repr

/-- The pause before retry number `attempt`, in milliseconds: `attempt` times the retry
delay, at most `2 ^ 64 - 1`. -/
def DeliveryConfig.backoff (c : DeliveryConfig) (attempt : UInt32) : Nat :=
  min (c.retryDelayMs.toNat * attempt.toNat) (Nat.pow 2 64 - 1)

/-- What a run did. -/
inductive Outcome where
  /-- There were no blocks. -/
  | empty
  /-- The blocks compiled to no command; nothing was sent. -/
  | noCommands
  /-- The program went out as one line, after this many attempts. -/
  | sent (line : String) (attempts : Nat)
  /-- The commands went out one at a time; these blocks were acknowledged. -/
  | stepped (acknowledged : List String)
  deriving DecidableEq, Repr

/-- A delivery over a link of type `τ`: it may fail, and the link's state is kept either
way. -/
abbrev Delivery (τ : Type) := ExceptT Error (StateM τ)

namespace Delivery

variable {τ : Type} [Link τ]

/-- A link operation as a delivery step. -/
def lift (f : τ → Except Error α × τ) : Delivery τ α := ExceptT.mk fun s => f s

/-- Sends a line, trying again while attempts are left: attempt number `attempt` of
`attempts`, with `fuel` rounds left. Returns the number of the attempt that succeeded. -/
def retry (line : String) (attempts : Nat) : Nat → Nat → τ → Except Error Nat × τ
  | _, 0, l => (.error .notConnected, l)
  | attempt, fuel + 1, l =>
    match Link.send line l with
    | (.ok (), l') => (.ok attempt, l')
    | (.error e, l') =>
      if attempt < attempts then retry line attempts (attempt + 1) fuel l' else (.error e, l')

/-- Sends a line with up to `max attempts 1` tries. -/
def sendWithRetry (cfg : DeliveryConfig) (line : String) : Delivery τ Nat :=
  let k := max cfg.attempts.toNat 1
  lift (retry line k 1 k)

/-- Fails with `notConnected` unless the link reaches a device. -/
def ensureConnected : Delivery τ Unit := do
  if !Link.isConnected (← get) then throw .notConnected

/-- Sends the whole sequence as one line. -/
def runSequence (o : CompileOptions) (cfg : DeliveryConfig) (sequence : List Block) :
    Delivery τ Outcome := do
  match compile o sequence with
  | none => return .empty
  | some [] => return .noCommands
  | some commands =>
    ensureConnected
    let line := renderLine commands
    let n ← sendWithRetry cfg line
    return .sent line n

/-- Sends a whole snapshot as one line, its blocks in execution order. -/
def runSnapshot (o : CompileOptions) (cfg : DeliveryConfig) (blocks : List Block) :
    Delivery τ Outcome :=
  runSequence o cfg (Chain.linearize blocks)

/-- Sends one queued command and waits for its acknowledgement; gives the block's id. -/
def sendStep (cfg : DeliveryConfig) (q : QueuedCommand) : Delivery τ String := do
  let _ ← sendWithRetry cfg q.command.render
  lift (Link.awaitOk cfg.ackTimeoutMs.toNat)
  return q.blockId

/-- Sends the commands one at a time, waiting for an acknowledgement after each; a
missing acknowledgement ends the run. -/
def runStepwise (o : CompileOptions) (cfg : DeliveryConfig) (sequence : List Block) :
    Delivery τ Outcome := do
  if sequence.isEmpty then return .empty
  let queue := commandQueue o sequence
  if queue.isEmpty then return .noCommands
  ensureConnected
  let acknowledged ← queue.mapM (sendStep cfg)
  return .stepped acknowledged

/-- Sends the stop command, without checking connectivity first. -/
def stop (cfg : DeliveryConfig) : Delivery τ Unit := do
  let _ ← sendWithRetry cfg Command.stop.render

/-- Runs a delivery on a link, giving its outcome and the link afterwards. -/
def runOn (d : Delivery τ α) (l : τ) : Except Error α × τ := d.run.run l

end Delivery

end BlockProgram
