import BlockProgram.Block.Basic
import BlockProgram.Chain
import BlockProgram.Command
import BlockProgram.Naming
import BlockProgram.Scale

/-! # From blocks to commands

A sequence of blocks becomes a queue of commands, each with the block that produced it:

* a moving, turning or lamp block absorbs the run of delays right after it and sends
  their units, summed and scaled, as its argument (zero units when no delay follows);
* a delay that nothing absorbed starts a run of delays: the run is dropped right after a
  speed block, and at the very start of the sequence when it has two or more delays;
  otherwise each delay is sent on its own with its units scaled;
* a speed block sends `speed(50)` or `speed(100)`, under that name whatever the naming;
* any other block sends its raw value, or empty parentheses when it has none.

Names come from the naming table. Compiling joins the queue into one line; an empty
sequence compiles to nothing at all, which is not the same as an empty line.
-/

namespace BlockProgram

/-- What the encoder needs beside the blocks. -/
structure CompileOptions where
  /-- The command names. -/
  naming : Naming := {}
  /-- The multiplier for delay units. -/
  scale : Scale := Scale.identity
  deriving Inhabited

/-- A command with the id of the block that produced it. -/
structure QueuedCommand where
  /-- The id of the producing block. -/
  blockId : String
  /-- The command. -/
  command : Command
  deriving DecidableEq, Repr

namespace CompileOptions

/-- A moving block's command: its name with the scaled units. -/
def action (o : CompileOptions) (t : BlockType) (units : Nat) : Command :=
  .call (o.naming.nameFor t) (o.scale.apply units)

/-- A delay's own command: the delay name with its scaled units. -/
def delay (o : CompileOptions) (b : Block) : Command :=
  .call (o.naming.nameFor .delay) (o.scale.apply b.delayUnits.toNat)

/-- The command of a block that neither absorbs nor is a delay. -/
def direct (o : CompileOptions) (b : Block) : Command :=
  match b.type.fixedSpeed with
  | some speed => .call "speed" (toString speed)
  | none =>
    match b.value with
    | some v => .call (o.naming.nameFor b.type) (toString v.toNat)
    | none => ⟨o.naming.nameFor b.type, .empty⟩

end CompileOptions

namespace CommandQueue

/-- Whether a block is a delay. -/
def isDelay (b : Block) : Bool := b.type.isDelay

/-- One past the run of delays that starts at position `start`: the first position from
`start` on that holds no delay, or the length of the sequence when delays run to its end. -/
def delayRunEnd (s : List Block) (start : Nat) : Nat :=
  match (s.drop start).findIdx? (fun b => !isDelay b) with
  | some offset => start + offset
  | none => s.length

theorem le_delayRunEnd (s : List Block) (start : Nat) (inside : start ≤ s.length) :
    start ≤ delayRunEnd s start := by
  unfold delayRunEnd
  split <;> omega

theorem lt_delayRunEnd (s : List Block) {i : Nat} (inside : i < s.length)
    (delay : isDelay s[i]) : i < delayRunEnd s i := by
  unfold delayRunEnd
  rw [List.drop_eq_getElem_cons inside, List.findIdx?_cons]
  simp only [delay, Bool.not_true, Bool.false_eq_true, ↓reduceIte]
  split
  · rename_i offset found
    obtain ⟨k, -, rfl⟩ := Option.map_eq_some_iff.mp found
    omega
  · exact inside

/-- The blocks at positions `start` up to, not including, `stop`. -/
def slice (s : List Block) (start stop : Nat) : List Block := (s.take stop).drop start

/-- The units of a run of delays, summed. -/
def sumUnits (run : List Block) : Nat := (run.map fun b => b.delayUnits.toNat).foldr (· + ·) 0

/-- Whether a run of delays that nothing absorbed is dropped: right after a speed block,
and at the very start of the sequence when it holds two delays or more. -/
def dropsRun (previous : Option Block) (runLength : Nat) : Bool :=
  match previous with
  | some prev => prev.type.isSpeed
  | none => 2 ≤ runLength

/-- The queue from position `i` on. A moving block takes the delays after it and the
cursor jumps past them; a delay starts a run, which the cursor also jumps past, dropped or
sent delay by delay; any other block sends its own command. -/
def queueFrom (o : CompileOptions) (s : List Block) (i : Nat) : List QueuedCommand :=
  if inside : i < s.length then
    let b := s[i]
    if b.type.consumesDelay then
      let runEnd := delayRunEnd s (i + 1)
      ⟨b.id, o.action b.type (sumUnits (slice s (i + 1) runEnd))⟩ :: queueFrom o s runEnd
    else if delay : isDelay b then
      let runEnd := delayRunEnd s i
      -- the block before the run, as the sequence has it
      let previous := if i = 0 then none else s[i - 1]?
      (if dropsRun previous (runEnd - i) then [] else
          (slice s i runEnd).map fun d => ⟨d.id, o.delay d⟩) ++
        queueFrom o s runEnd
    else ⟨b.id, o.direct b⟩ :: queueFrom o s (i + 1)
  else []
termination_by s.length - i
decreasing_by
  · have := le_delayRunEnd s (i + 1) (by omega)
    omega
  · have := lt_delayRunEnd s inside delay
    omega
  · omega

end CommandQueue

/-- The command queue of a sequence of blocks. -/
def commandQueue (o : CompileOptions) (sequence : List Block) : List QueuedCommand :=
  CommandQueue.queueFrom o sequence 0

/-- A sequence compiled to one line: nothing for an empty sequence, otherwise the
queue's commands in order (possibly none). -/
def compile (o : CompileOptions) (sequence : List Block) : Option (List Command) :=
  if sequence.isEmpty then none else some ((commandQueue o sequence).map (·.command))

/-- A whole snapshot compiled: its blocks put in execution order, then compiled. -/
def compileBlocks (o : CompileOptions) (blocks : List Block) : Option (List Command) :=
  compile o (Chain.linearize blocks)

end BlockProgram
