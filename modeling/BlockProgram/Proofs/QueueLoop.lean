import BlockProgram.Proofs.CommandQueue

/-! # The command queue, one iteration at a time

`commandQueue` is a loop over the sequence whose cursor jumps: past the delays a moving
block absorbs, past a whole run of delays, or one block on. A run of delays from a position
ends at the first position from there that holds no delay, or at the end of the sequence
(`CommandQueue.EndsRun`, `CommandQueue.delayRunEnd_eq_iff`), so each iteration moves the
cursor forward and no further than the end (`CommandQueue.lt_nextCursor`,
`CommandQueue.nextCursor_le`).

What one iteration appends is `CommandQueue.emitted`, and where it leaves the cursor is
`CommandQueue.nextCursor`; `CommandQueue.cursors` lists where the iterations start. The
queue is the iterations' commands in order (`CommandQueue.queueFrom_eq_flatMap`), and there
are at most as many iterations as blocks ahead of the cursor.
-/

namespace BlockProgram

namespace CommandQueue

section Runs

variable (s : List Block)

/-- `j` ends the run of delays that starts at `start`: every position from `start` up to
`j` holds a delay, and `j` is the end of the sequence or holds a block that is no delay. -/
def EndsRun (start j : Nat) : Prop :=
  start ≤ j ∧ j ≤ s.length ∧ (∀ k, start ≤ k → k < j → ∀ b ∈ s[k]?, isDelay b = true) ∧
    ∀ b ∈ s[j]?, isDelay b = false

variable {s}

/-- An end of a run comes no later than any other: a later one would hold a delay. -/
theorem EndsRun.le {start j j' : Nat} (ends : EndsRun s start j) (ends' : EndsRun s start j') :
    j ≤ j' := by
  obtain ⟨-, within, delays, -⟩ := ends
  obtain ⟨after, -, -, stops⟩ := ends'
  by_contra later
  have inside : j' < s.length := by omega
  have delay := delays j' after (by omega) s[j'] (by simp [inside])
  rw [stops s[j'] (by simp [inside])] at delay
  exact Bool.false_ne_true delay

variable (s)

theorem endsRun_delayRunEnd {start : Nat} (inside : start ≤ s.length) :
    EndsRun s start (delayRunEnd s start) := by
  rw [delayRunEnd_eq s inside]
  refine ⟨by omega, runLength_le s inside, fun k after before b found => ?_,
    not_delay_at_runEnd s start⟩
  obtain ⟨b', found', delay⟩ := delay_of_lt_runLength s (a := start) (k := k - start) (by omega)
  rw [show start + (k - start) = k by omega] at found'
  rwa [Option.some.inj (found'.symm.trans found)] at delay

/-- The end of a run of delays is the first position from its start that holds no delay,
or the end of the sequence. -/
theorem delayRunEnd_eq_iff {start : Nat} (inside : start ≤ s.length) (j : Nat) :
    delayRunEnd s start = j ↔ EndsRun s start j := by
  have ends := endsRun_delayRunEnd s inside
  constructor
  · rintro rfl
    exact ends
  · intro ends'
    exact Nat.le_antisymm (ends.le ends') (ends'.le ends)

end Runs

/-- Where the cursor stands after the iteration at `i`: past the delays a moving block
absorbs, past the run of delays a delay starts, or on the next block. -/
def nextCursor (s : List Block) (i : Nat) : Nat :=
  match s[i]? with
  | some b =>
    if b.type.consumesDelay then delayRunEnd s (i + 1)
    else if isDelay b then delayRunEnd s i
    else i + 1
  | none => i + 1

/-- The commands the iteration at `i` appends to the queue. -/
def emitted (o : CompileOptions) (s : List Block) (i : Nat) : List QueuedCommand :=
  match s[i]? with
  | some b =>
    if b.type.consumesDelay then
      [⟨b.id, o.action b.type (sumUnits (slice s (i + 1) (delayRunEnd s (i + 1))))⟩]
    else if isDelay b then
      let previous := if i = 0 then none else s[i - 1]?
      if dropsRun previous (delayRunEnd s i - i) then []
      else (slice s i (delayRunEnd s i)).map fun d => ⟨d.id, o.delay d⟩
    else [⟨b.id, o.direct b⟩]
  | none => []

section Iterations

variable (s : List Block)

theorem nextCursor_of_lt {i : Nat} (inside : i < s.length) :
    nextCursor s i =
      if s[i].type.consumesDelay then delayRunEnd s (i + 1)
      else if isDelay s[i] then delayRunEnd s i
      else i + 1 := by
  simp only [nextCursor, List.getElem?_eq_getElem inside]

theorem lt_nextCursor {i : Nat} (inside : i < s.length) : i < nextCursor s i := by
  rw [nextCursor_of_lt s inside]
  split_ifs with takes delay
  · have := le_delayRunEnd s (i + 1) inside
    omega
  · exact lt_delayRunEnd s inside delay
  · omega

theorem nextCursor_le {i : Nat} (inside : i < s.length) : nextCursor s i ≤ s.length := by
  rw [nextCursor_of_lt s inside]
  split_ifs
  · exact (endsRun_delayRunEnd s inside).2.1
  · exact (endsRun_delayRunEnd s inside.le).2.1
  · exact inside

/-- One iteration of the loop: its commands, then the loop from where it leaves the
cursor. -/
theorem queueFrom_of_lt (o : CompileOptions) {i : Nat} (inside : i < s.length) :
    queueFrom o s i = emitted o s i ++ queueFrom o s (nextCursor s i) := by
  rw [queueFrom, dif_pos inside]
  simp only [emitted, nextCursor, List.getElem?_eq_getElem inside]
  split_ifs <;> simp

/-- Where the iterations of the loop from `i` start, in order. -/
def cursors (i : Nat) : List Nat :=
  if _ : i < s.length then i :: cursors (nextCursor s i) else []
termination_by s.length - i
decreasing_by
  have := lt_nextCursor s ‹i < s.length›
  omega

/-- The queue from `i` is the commands of the iterations from `i`, in order. -/
theorem queueFrom_eq_flatMap (o : CompileOptions) (i : Nat) :
    queueFrom o s i = (cursors s i).flatMap (emitted o s) := by
  fun_induction cursors s i with
  | case1 i inside ih => rw [queueFrom_of_lt s o inside, ih, List.flatMap_cons]
  | case2 i outside => rw [queueFrom, dif_neg outside, List.flatMap_nil]

/-- The loop from `i` makes at most as many iterations as there are blocks from `i` on:
each one moves the cursor forward. -/
theorem length_cursors_le (i : Nat) : (cursors s i).length ≤ s.length - i := by
  fun_induction cursors s i with
  | case1 i inside ih =>
      have := lt_nextCursor s inside
      rw [List.length_cons]
      omega
  | case2 => simp

end Iterations

-- a moving block takes the two delays after it, and the cursor jumps past them
example : nextCursor [Block.make "u" .up, Block.make "d" .delay, Block.make "e" .delay,
    Block.make "f" .forward] 0 = 3 := by decide

/-- For every sequence the encoder's loop terminates, in at most as many iterations as it
has blocks. The end of a run of delays from a position in the sequence is the first position
from there that holds no delay, or the end, and it lies past a delay the run starts with;
each iteration moves the cursor forward and no further than the end; and the queue from
any position is the commands of the iterations from there, at most one per block left. -/
theorem queue_loop_terminates (s : List Block) :
    (∀ start ≤ s.length, ∀ j, delayRunEnd s start = j ↔ EndsRun s start j) ∧
    (∀ i (inside : i < s.length), isDelay s[i] = true → i < delayRunEnd s i) ∧
    (∀ i < s.length, i < nextCursor s i ∧ nextCursor s i ≤ s.length) ∧
    ∀ o i, queueFrom o s i = (cursors s i).flatMap (emitted o s) ∧
      (cursors s i).length ≤ s.length - i :=
  ⟨fun _ inside => delayRunEnd_eq_iff s inside, fun _ inside => lt_delayRunEnd s inside,
    fun _ inside => ⟨lt_nextCursor s inside, nextCursor_le s inside⟩,
    fun o i => ⟨queueFrom_eq_flatMap s o i, length_cursors_le s i⟩⟩

/-- A moving block with two delays after it, and a delay on its own: the first run of
delays, from position 1, ends at position 3. -/
theorem queue_loop_on_absorbed_delays :
    let s := [Block.make "u" .up, Block.make "d" .delay, Block.make "e" .delay,
      Block.make "f" .forward, Block.make "w" .delay]
    (1 ≤ s.length ∧ (delayRunEnd s 1 = 3 ↔ EndsRun s 1 3)) ∧
      (4 < s.length ∧ 4 < nextCursor s 4 ∧ nextCursor s 4 ≤ s.length) :=
  let s := [Block.make "u" .up, Block.make "d" .delay, Block.make "e" .delay,
    Block.make "f" .forward, Block.make "w" .delay]
  ⟨⟨by decide, (queue_loop_terminates s).1 1 (by decide) 3⟩,
    ⟨by decide, (queue_loop_terminates s).2.2.1 4 (by decide)⟩⟩

end CommandQueue

end BlockProgram
