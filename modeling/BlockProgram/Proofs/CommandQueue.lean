import Mathlib
import BlockProgram.CommandQueue

/-! # The command queue, position by position

`commandQueue` runs a cursor over the sequence that jumps over whole runs of delays. This
module states, without the cursor, what each position of the sequence contributes
(`CommandQueue.expectedAt`) and proves that the queue is those contributions in order:

* a block that takes delays makes one entry, its command with the summed units of the
  delays right after it;
* a speed block makes `speed(50)` or `speed(100)`; any other block that is no delay makes
  its command with its raw value, or with empty parentheses;
* a delay makes nothing when its run follows a block that takes delays or a speed block,
  or opens the sequence with two delays or more, and otherwise its own command.

The proof is a loop invariant: from every position that cuts no run of delays short the
loop makes exactly the contributions of the positions still ahead.
-/

namespace BlockProgram

namespace CommandQueue

section Runs

variable (s : List Block)

/-- The number of delays in a row from position `a` on. -/
def runLength (a : Nat) : Nat := ((s.drop a).takeWhile isDelay).length

/-- Position `j` less the number of delays in a row right before it: for a delay, the
first position of the run of delays it lies in. -/
def runStart (j : Nat) : Nat := j - ((s.take j).reverse.takeWhile isDelay).length

theorem runLength_of_lt {a : Nat} (inside : a < s.length) :
    runLength s a = if isDelay s[a] then runLength s (a + 1) + 1 else 0 := by
  unfold runLength
  rw [List.drop_eq_getElem_cons inside, List.takeWhile_cons]
  split <;> simp

theorem runLength_of_le {a : Nat} (outside : s.length ≤ a) : runLength s a = 0 := by
  simp [runLength, List.drop_eq_nil_of_le outside]

theorem runLength_le {a : Nat} (inside : a ≤ s.length) : a + runLength s a ≤ s.length := by
  have prefix_le : ((s.drop a).takeWhile isDelay).length ≤ (s.drop a).length :=
    (List.takeWhile_prefix _).length_le
  simp only [List.length_drop] at prefix_le
  unfold runLength
  omega

theorem runStart_zero : runStart s 0 = 0 := by simp [runStart]

theorem runStart_succ {j : Nat} (inside : j < s.length) :
    runStart s (j + 1) = if isDelay s[j] then runStart s j else j + 1 := by
  unfold runStart
  rw [List.take_add_one, List.getElem?_eq_getElem inside, Option.toList_some,
    List.reverse_append, List.reverse_singleton, List.singleton_append, List.takeWhile_cons]
  have prefix_le : ((s.take j).reverse.takeWhile isDelay).length ≤ (s.take j).reverse.length :=
    (List.takeWhile_prefix _).length_le
  simp only [List.length_reverse, List.length_take] at prefix_le
  split <;> simp only [List.length_cons, List.length_nil] <;> omega

/-- The positions of a run of delays all hold delays. -/
theorem delay_of_lt_runLength {a k : Nat} (within : k < runLength s a) :
    ∃ b ∈ s[a + k]?, isDelay b = true := by
  induction k generalizing a with
  | zero =>
      have inside : a < s.length := by
        by_contra outside
        rw [runLength_of_le s (by omega)] at within
        omega
      rw [runLength_of_lt s inside] at within
      refine ⟨s[a], by simp [inside], ?_⟩
      split at within
      · assumption
      · omega
  | succ k ih =>
      have inside : a < s.length := by
        by_contra outside
        rw [runLength_of_le s (by omega)] at within
        omega
      rw [runLength_of_lt s inside] at within
      split at within
      · rw [show a + (k + 1) = a + 1 + k by omega]
        exact ih (by omega)
      · omega

/-- A run of delays ends at the end of the sequence or at a block that is no delay. -/
theorem not_delay_at_runEnd (a : Nat) :
    ∀ b ∈ s[a + runLength s a]?, isDelay b = false := by
  induction h : s.length - a generalizing a with
  | zero =>
      intro b found
      have := (List.getElem?_eq_some_iff.mp found).1
      rw [runLength_of_le s (by omega)] at this
      omega
  | succ m ih =>
      have inside : a < s.length := by omega
      intro b found
      rw [runLength_of_lt s inside] at found
      split at found
      · rw [show a + (runLength s (a + 1) + 1) = a + 1 + runLength s (a + 1) by omega] at found
        exact ih (a + 1) (by omega) b found
      · rename_i other
        simp only [Nat.add_zero, List.getElem?_eq_getElem inside, Option.mem_def,
          Option.some.injEq] at found
        subst found
        simpa using other

/-- Counting the delays from `start` on is what the loop's search for the first block
that is no delay does. -/
theorem findIdx?_getD (l : List Block) :
    (l.findIdx? fun b => !isDelay b).getD l.length = (l.takeWhile isDelay).length := by
  induction l with
  | nil => rfl
  | cons b l ih =>
      by_cases delay : isDelay b
      · simp [List.findIdx?_cons, delay, ← ih]
      · simp [List.findIdx?_cons, delay]

theorem delayRunEnd_eq {start : Nat} (inside : start ≤ s.length) :
    delayRunEnd s start = start + runLength s start := by
  have key := findIdx?_getD (s.drop start)
  unfold delayRunEnd runLength
  split
  · rename_i offset found
    rw [found, Option.getD_some] at key
    omega
  · rename_i found
    rw [found, Option.getD_none, List.length_drop] at key
    omega

theorem slice_eq_take (a n : Nat) : slice s a (a + n) = (s.drop a).take n := by
  rw [slice, List.take_drop]

theorem slice_runLength (a : Nat) : slice s a (a + runLength s a) = (s.drop a).takeWhile isDelay := by
  rw [slice_eq_take]
  conv => lhs; rw [← List.takeWhile_append_dropWhile (p := isDelay) (l := s.drop a)]
  exact List.take_left' rfl

/-- A stretch of the sequence, mapped, is the positions of the stretch one by one. -/
theorem map_take_drop {α : Type} (f : Block → α) {a n : Nat} (fits : a + n ≤ s.length) :
    ((s.drop a).take n).map f = (List.range' a n).flatMap fun k => (s[k]?.map f).toList := by
  induction n generalizing a with
  | zero => simp
  | succ n ih =>
      have inside : a < s.length := by omega
      rw [List.drop_eq_getElem_cons inside, List.take_succ_cons, List.map_cons, List.range'_succ,
        List.flatMap_cons, ih (by omega), List.getElem?_eq_getElem inside]
      rfl

/-- A position opens its run of delays when it is the first or follows a block that is
no delay. -/
theorem runStart_self {i : Nat}
    (opens : i = 0 ∨ ∃ p ∈ s[i - 1]?, isDelay p = false) : runStart s i = i := by
  rcases opens with rfl | ⟨p, found, other⟩
  · exact runStart_zero s
  · cases i with
    | zero => exact runStart_zero s
    | succ k =>
        rw [Nat.add_sub_cancel] at found
        obtain ⟨inside, rfl⟩ := List.getElem?_eq_some_iff.mp found
        rw [runStart_succ s inside]
        simp [other]

/-- Every delay of a run has the run's first position as its start. -/
theorem runStart_of_lt_runLength {a m : Nat} (opens : runStart s a = a) (within : m < runLength s a) :
    runStart s (a + m) = a := by
  induction m with
  | zero => exact opens
  | succ m ih =>
      obtain ⟨b, found, delay⟩ : ∃ b ∈ s[a + m]?, isDelay b = true :=
        delay_of_lt_runLength s (by omega)
      obtain ⟨inside, rfl⟩ := List.getElem?_eq_some_iff.mp found
      rw [← Nat.add_assoc, runStart_succ s inside, if_pos delay]
      exact ih (by omega)

end Runs

/-- Whether the run of delays that begins at position `a` makes nothing: after a block
that takes delays or a speed block, and at the very start when it holds two delays or
more. -/
def runDropped (s : List Block) (a : Nat) : Bool :=
  if a = 0 then 2 ≤ runLength s 0
  else
    match s[a - 1]? with
    | some p => p.type.consumesDelay || p.type.isSpeed
    | none => false

/-- The entries the block at position `j` of `s` contributes to the queue, told from that
block, the delays right after it and the run of delays it lies in. -/
def expectedAt (o : CompileOptions) (s : List Block) (j : Nat) : List QueuedCommand :=
  match s[j]? with
  | none => []
  | some b =>
    if b.type.consumesDelay then
      [⟨b.id, .call (o.naming.nameFor b.type)
        (o.scale.apply (((s.drop (j + 1)).takeWhile isDelay).map (·.delayUnits.toNat)).sum)⟩]
    else if b.type = .speedLow then [⟨b.id, .call "speed" "50"⟩]
    else if b.type = .speedHigh then [⟨b.id, .call "speed" "100"⟩]
    else if isDelay b then
      if runDropped s (runStart s j) then []
      else [⟨b.id, .call (o.naming.nameFor .delay) (o.scale.apply b.delayUnits.toNat)⟩]
    else
      match b.value with
      | some v => [⟨b.id, .call (o.naming.nameFor b.type) (toString v.toNat)⟩]
      | none => [⟨b.id, ⟨o.naming.nameFor b.type, .empty⟩⟩]

section Expected

variable (o : CompileOptions) (s : List Block)

theorem isDelay_iff {b : Block} : isDelay b = true ↔ b.type = .delay := by
  unfold isDelay
  cases b.type <;> simp [BlockType.isDelay]

theorem sumUnits_eq (run : List Block) : sumUnits run = (run.map (·.delayUnits.toNat)).sum :=
  List.sum_eq_foldr.symm

theorem expectedAt_of_consumes {j : Nat} {b : Block} (found : s[j]? = some b)
    (takes : b.type.consumesDelay = true) :
    expectedAt o s j = [⟨b.id, o.action b.type (sumUnits (slice s (j + 1)
      (delayRunEnd s (j + 1))))⟩] := by
  have inside := (List.getElem?_eq_some_iff.mp found).1
  rw [delayRunEnd_eq s (by omega), slice_runLength]
  simp [expectedAt, found, takes, CompileOptions.action, sumUnits_eq]

theorem expectedAt_of_delay {j : Nat} {b : Block} (found : s[j]? = some b)
    (delay : isDelay b = true) :
    expectedAt o s j = if runDropped s (runStart s j) then [] else [⟨b.id, o.delay b⟩] := by
  have type : b.type = .delay := (isDelay_iff).mp delay
  simp [expectedAt, found, type, delay, BlockType.consumesDelay, CompileOptions.delay]

theorem expectedAt_of_other {j : Nat} {b : Block} (found : s[j]? = some b)
    (keeps : b.type.consumesDelay = false) (other : isDelay b = false) :
    expectedAt o s j = [⟨b.id, o.direct b⟩] := by
  simp only [expectedAt, found, keeps, other, Bool.false_eq_true, ↓reduceIte]
  unfold CompileOptions.direct
  -- the two speed types have fixed percentages; every other type sends its value
  rcases speed : b.type.fixedSpeed with _ | p
  · have low : b.type ≠ .speedLow := fun h => by simp [h, BlockType.fixedSpeed] at speed
    have high : b.type ≠ .speedHigh := fun h => by simp [h, BlockType.fixedSpeed] at speed
    cases b.value <;> simp [low, high]
  · cases type : b.type <;> simp [type, BlockType.fixedSpeed] at speed ⊢ <;> subst speed <;> rfl

theorem runDropped_of_consumes {i : Nat} (inside : i < s.length)
    (takes : s[i].type.consumesDelay = true) : runDropped s (i + 1) = true := by
  simp [runDropped, inside, takes]

/-- The delays a block took contribute nothing of their own. -/
theorem flatMap_expectedAt_absorbed {i : Nat} (inside : i < s.length)
    (takes : s[i].type.consumesDelay = true) :
    (List.range' (i + 1) (runLength s (i + 1))).flatMap (expectedAt o s) = [] := by
  rw [List.flatMap_eq_nil_iff]
  intro k member
  obtain ⟨m, within, rfl⟩ : ∃ m < runLength s (i + 1), k = i + 1 + m :=
    ⟨k - (i + 1), by simp [List.mem_range'_1] at member; omega, by simp [List.mem_range'_1] at member; omega⟩
  obtain ⟨b, found, delay⟩ := delay_of_lt_runLength s within
  have keeps : isDelay s[i] = false := by
    cases type : s[i].type <;> simp_all [isDelay, BlockType.consumesDelay, BlockType.isDelay]
  have opens : runStart s (i + 1) = i + 1 :=
    runStart_self s (.inr ⟨s[i], by simp [inside], keeps⟩)
  rw [expectedAt_of_delay o s found delay, runStart_of_lt_runLength s opens within,
    runDropped_of_consumes s inside takes, if_pos rfl]

/-- The delays of a run that opens at `i` contribute all or nothing together. -/
theorem flatMap_expectedAt_run {i : Nat} (inside : i ≤ s.length)
    (opens : i = 0 ∨ ∃ p ∈ s[i - 1]?, isDelay p = false) :
    (List.range' i (runLength s i)).flatMap (expectedAt o s) =
      if runDropped s i then [] else (slice s i (i + runLength s i)).map fun d => ⟨d.id, o.delay d⟩ := by
  have each : ∀ k ∈ List.range' i (runLength s i), expectedAt o s k =
      if runDropped s i then [] else (s[k]?.map fun d => (⟨d.id, o.delay d⟩ : QueuedCommand)).toList := by
    intro k member
    obtain ⟨m, within, rfl⟩ : ∃ m < runLength s i, k = i + m :=
      ⟨k - i, by simp [List.mem_range'_1] at member; omega, by simp [List.mem_range'_1] at member; omega⟩
    obtain ⟨b, found, delay⟩ := delay_of_lt_runLength s within
    rw [expectedAt_of_delay o s found delay, runStart_of_lt_runLength s (runStart_self s opens) within,
      Option.mem_def.mp found]
    rfl
  rw [List.flatMap_congr each]
  split
  · simp
  · rw [slice_eq_take, map_take_drop s _ (runLength_le s inside)]

end Expected

/-- A position that cuts no run of delays short: when it holds a delay, it is the first
position or follows a block that neither is a delay nor takes the delays after it. -/
def Boundary (s : List Block) (i : Nat) : Prop :=
  ∀ b ∈ s[i]?, isDelay b = true →
    i = 0 ∨ ∃ p ∈ s[i - 1]?, isDelay p = false ∧ p.type.consumesDelay = false

section Loop

variable (o : CompileOptions) (s : List Block)

theorem range'_split {a b c : Nat} (first : a ≤ b) (second : b ≤ c) :
    List.range' a (c - a) = List.range' a (b - a) ++ List.range' b (c - b) := by
  rw [show c - a = (b - a) + (c - b) by omega, ← List.range'_append_1,
    show a + (b - a) = b by omega]

theorem boundary_runEnd (a : Nat) : Boundary s (a + runLength s a) := by
  intro b found delay
  simp [not_delay_at_runEnd s a b found] at delay

theorem boundary_succ {i : Nat} (inside : i < s.length) (other : isDelay s[i] = false)
    (keeps : s[i].type.consumesDelay = false) : Boundary s (i + 1) :=
  fun _ _ _ => .inr ⟨s[i], by simp [inside], other, keeps⟩

/-- The loop invariant: from a position that cuts no run short, the loop makes exactly
what the positions still ahead contribute. -/
theorem queueFrom_eq (i : Nat) (boundary : Boundary s i) :
    queueFrom o s i = (List.range' i (s.length - i)).flatMap (expectedAt o s) := by
  fun_induction queueFrom o s i with
  | case1 i inside b takes runEnd ih =>
      -- the block, then the delays it took, then the rest from where the run ends
      have stop : runEnd = i + 1 + runLength s (i + 1) := delayRunEnd_eq s (by omega)
      have fits := runLength_le s (show i + 1 ≤ s.length by omega)
      rw [range'_split (show i ≤ i + 1 by omega) (show i + 1 ≤ s.length by omega),
        range'_split (show i + 1 ≤ runEnd by omega) (show runEnd ≤ s.length by omega),
        List.flatMap_append, List.flatMap_append,
        show runEnd - (i + 1) = runLength s (i + 1) by omega,
        flatMap_expectedAt_absorbed o s inside takes, ih (stop ▸ boundary_runEnd s (i + 1))]
      simp [expectedAt_of_consumes o s (List.getElem?_eq_getElem inside) takes, b, runEnd]
  | case2 i inside b keeps delay runEnd previous ih =>
      have stop : runEnd = i + runLength s i := delayRunEnd_eq s inside.le
      have fits := runLength_le s inside.le
      have opens : i = 0 ∨ ∃ p ∈ s[i - 1]?, isDelay p = false ∧ p.type.consumesDelay = false :=
        boundary s[i] (by simp) delay
      -- the loop drops the run exactly when the run's own rule does
      have dropped : dropsRun previous (runLength s i) = runDropped s i := by
        by_cases first : i = 0
        · subst first
          simp [previous, dropsRun, runDropped]
        · obtain ⟨p, found, -, keepsP⟩ := opens.resolve_left first
          simp [previous, first, Option.mem_def.mp found, dropsRun, runDropped, keepsP]
      rw [range'_split (show i ≤ runEnd by omega) (show runEnd ≤ s.length by omega),
        List.flatMap_append, stop, Nat.add_sub_cancel_left,
        flatMap_expectedAt_run o s inside.le (opens.imp id fun ⟨p, found, other, _⟩ => ⟨p, found, other⟩),
        ← stop, ih (stop ▸ boundary_runEnd s i), dropped]
  | case3 i inside b keeps other ih =>
      have keeps : b.type.consumesDelay = false := by simpa using keeps
      have other : isDelay b = false := by simpa using other
      rw [range'_split (show i ≤ i + 1 by omega) (show i + 1 ≤ s.length by omega),
        List.flatMap_append, ih (boundary_succ s inside other keeps)]
      simp [expectedAt_of_other o s (List.getElem?_eq_getElem inside) keeps other, b]
  | case4 i outside =>
      simp [show s.length - i = 0 by omega]

end Loop

/-- The queue is the contributions of the positions of the sequence, in order: a block
that takes delays makes its command with the summed units of the delays right after it, a
speed block `speed(50)` or `speed(100)`, another block that is no delay its raw value or
empty parentheses, and a delay its own command unless its run is dropped. -/
theorem commandQueue_eq_expectedAt (o : CompileOptions) (s : List Block) :
    commandQueue o s = (List.range s.length).flatMap (expectedAt o s) := by
  rw [commandQueue, queueFrom_eq o s 0 (fun _ _ _ => .inl rfl), List.range_eq_range',
    Nat.sub_zero]

section NoCommands

/-! Which sequences make no command at all: besides the empty one, exactly those of two
delays or more and nothing else, which form one run at the start and are dropped. -/

variable (o : CompileOptions) (s : List Block)

theorem expectedAt_ne_nil {j : Nat} {b : Block} (found : s[j]? = some b)
    (other : isDelay b = false) : expectedAt o s j ≠ [] := by
  cases takes : b.type.consumesDelay with
  | false => simp [expectedAt_of_other o s found takes other]
  | true => simp [expectedAt_of_consumes o s found takes]

theorem runLength_zero_of_delays (delays : ∀ b ∈ s, isDelay b = true) :
    runLength s 0 = s.length := by
  simp [runLength, List.takeWhile_eq_self_iff.mpr delays]

/-- In a sequence of delays only, every delay lies in the run at the start. -/
theorem expectedAt_of_delays (delays : ∀ b ∈ s, isDelay b = true) {j : Nat} {b : Block}
    (found : s[j]? = some b) :
    expectedAt o s j = if 2 ≤ s.length then [] else [⟨b.id, o.delay b⟩] := by
  have within : j < runLength s 0 := by
    rw [runLength_zero_of_delays s delays]
    exact (List.getElem?_eq_some_iff.mp found).1
  have start : runStart s j = 0 := by
    simpa using runStart_of_lt_runLength s (runStart_zero s) within
  rw [expectedAt_of_delay o s found (delays b (List.mem_of_getElem? found)), start]
  simp [runDropped, runLength_zero_of_delays s delays]

theorem commandQueue_eq_nil_iff :
    commandQueue o s = [] ↔ s = [] ∨ 2 ≤ s.length ∧ ∀ b ∈ s, isDelay b = true := by
  rw [commandQueue, queueFrom_eq o s 0 (fun _ _ _ => .inl rfl), List.flatMap_eq_nil_iff]
  simp only [Nat.sub_zero, List.mem_range'_1, Nat.zero_add, Nat.zero_le, true_and]
  constructor
  · intro none
    -- a block that is no delay would make an entry
    have delays : ∀ b ∈ s, isDelay b = true := by
      intro b member
      obtain ⟨j, inside, rfl⟩ := List.getElem_of_mem member
      by_contra other
      exact expectedAt_ne_nil o s (List.getElem?_eq_getElem inside) (by simpa using other)
        (none j inside)
    by_cases long : 2 ≤ s.length
    · exact .inr ⟨long, delays⟩
    cases s with
    | nil => exact .inl rfl
    | cons b rest =>
        -- a single delay is sent on its own
        have lone := none 0 (by simp)
        rw [expectedAt_of_delays o _ delays (by rfl), if_neg long] at lone
        simp at lone
  · rintro (rfl | ⟨long, delays⟩) j inside
    · simp at inside
    · rw [expectedAt_of_delays o s delays (List.getElem?_eq_getElem inside), if_pos long]

end NoCommands

end CommandQueue

end BlockProgram
