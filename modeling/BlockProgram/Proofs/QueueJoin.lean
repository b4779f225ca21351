import BlockProgram.Proofs.CommandQueue
import BlockProgram.Proofs.Chain.Execution

/-! # Joining sequences before a block that is no delay

The encoder looks back from a run of delays to the block before it, and forward from a
block that takes delays to the run after it. Neither look crosses a cut placed before a
block that is no delay, so the queue of two sequences joined there is the two queues
joined. Execution chains are joined that way when none but the first opens with a delay,
and a snapshot then compiles to its chains' commands, chain by chain.
-/

namespace BlockProgram

namespace CommandQueue

theorem takeWhile_append_of_cut (l : List Block) {t : List Block}
    (cut : ∀ b ∈ t.head?, isDelay b = false) :
    (l ++ t).takeWhile isDelay = l.takeWhile isDelay := by
  induction l with
  | nil =>
      cases t with
      | nil => rfl
      | cons b t => simp [cut b rfl]
  | cons b l ih => by_cases delay : isDelay b <;> simp [delay, ih]

theorem runStart_le (s : List Block) (j : Nat) : runStart s j ≤ j := Nat.sub_le _ _

section Join

variable (o : CompileOptions) {s₁ s₂ : List Block} (cut : ∀ b ∈ s₂.head?, isDelay b = false)
include cut

theorem runLength_append_left {a : Nat} (inside : a ≤ s₁.length) :
    runLength (s₁ ++ s₂) a = runLength s₁ a := by
  rw [runLength, List.drop_append_of_le_length inside, takeWhile_append_of_cut _ cut, runLength]

theorem runDropped_append_left {a : Nat} (inside : a ≤ s₁.length) :
    runDropped (s₁ ++ s₂) a = runDropped s₁ a := by
  unfold runDropped
  split
  · rw [runLength_append_left cut (Nat.zero_le _)]
  · rw [List.getElem?_append_left (by omega)]

/-- The first part contributes what it contributes alone: what a block there reads ahead
stops at the cut. -/
theorem expectedAt_append_left {j : Nat} (inside : j < s₁.length) :
    expectedAt o (s₁ ++ s₂) j = expectedAt o s₁ j := by
  have found : (s₁ ++ s₂)[j]? = s₁[j]? := List.getElem?_append_left inside
  have ahead : ((s₁ ++ s₂).drop (j + 1)).takeWhile isDelay = (s₁.drop (j + 1)).takeWhile isDelay := by
    rw [List.drop_append_of_le_length (by omega), takeWhile_append_of_cut _ cut]
  have start : runStart (s₁ ++ s₂) j = runStart s₁ j := by
    rw [runStart, List.take_append_of_le_length inside.le, runStart]
  simp only [expectedAt, found, ahead, start,
    runDropped_append_left cut ((runStart_le s₁ j).trans inside.le)]

/-- Within the second part, a delay's run opens where it does in the second part alone,
past its first block. -/
theorem runStart_append_right {k : Nat} (opens : 1 ≤ k) (inside : k ≤ s₂.length) :
    runStart (s₁ ++ s₂) (s₁.length + k) = s₁.length + runStart s₂ k ∧ 1 ≤ runStart s₂ k := by
  induction k with
  | zero => omega
  | succ k ih =>
      have bound : s₁.length + k < (s₁ ++ s₂).length := by simp; omega
      have at_k : (s₁ ++ s₂)[s₁.length + k] = s₂[k] := by simp [List.getElem_append_right]
      rw [← Nat.add_assoc, runStart_succ _ bound, runStart_succ s₂ (by omega), at_k]
      rcases Nat.eq_zero_or_pos k with rfl | pos
      · -- the second part opens with a block that is no delay
        have first : isDelay s₂[0] = false := cut s₂[0] (by simp [List.head?_eq_getElem?])
        simp [first]
      · obtain ⟨shifted, positive⟩ := ih pos (by omega)
        split <;> omega

omit cut in
theorem runDropped_append_right {a : Nat} (opens : 1 ≤ a) :
    runDropped (s₁ ++ s₂) (s₁.length + a) = runDropped s₂ a := by
  unfold runDropped
  rw [if_neg (by omega), if_neg (by omega), show s₁.length + a - 1 = s₁.length + (a - 1) by omega,
    List.getElem?_append_right (by omega), Nat.add_sub_cancel_left]

/-- The second part contributes what it contributes alone. -/
theorem expectedAt_append_right (k : Nat) :
    expectedAt o (s₁ ++ s₂) (s₁.length + k) = expectedAt o s₂ k := by
  have found : (s₁ ++ s₂)[s₁.length + k]? = s₂[k]? := by simp [List.getElem?_append_right]
  have ahead : (s₁ ++ s₂).drop (s₁.length + k + 1) = s₂.drop (k + 1) := by
    rw [Nat.add_assoc, List.drop_append, List.drop_eq_nil_of_le (by omega), List.nil_append,
      Nat.add_sub_cancel_left]
  cases hb : s₂[k]? with
  | none => simp [expectedAt, found, hb]
  | some b =>
      by_cases delay : isDelay b
      · -- a delay lies past the second part's first block, in a run opening there
        have inside : k < s₂.length := (List.getElem?_eq_some_iff.mp hb).1
        have opens : 1 ≤ k := by
          rcases Nat.eq_zero_or_pos k with rfl | pos
          · have first := cut b (by rw [List.head?_eq_getElem?]; exact hb)
            simp [first] at delay
          · exact pos
        obtain ⟨shifted, positive⟩ := runStart_append_right cut opens inside.le
        rw [expectedAt_of_delay o _ (found.trans hb) delay, expectedAt_of_delay o _ hb delay,
          shifted, runDropped_append_right positive]
      · simp only [expectedAt, found, hb, ahead, delay, Bool.false_eq_true, ↓reduceIte]

/-- The queue of two sequences joined before a block that is no delay is their two queues
joined. -/
theorem commandQueue_append : commandQueue o (s₁ ++ s₂) = commandQueue o s₁ ++ commandQueue o s₂ := by
  have positions : ∀ s, commandQueue o s = (List.range' 0 s.length).flatMap (expectedAt o s) :=
    fun s => by rw [commandQueue, queueFrom_eq o s 0 (fun _ _ _ => .inl rfl), Nat.sub_zero]
  rw [positions, positions, positions, List.length_append, ← List.range'_append_1,
    List.flatMap_append, Nat.zero_add]
  congr 1
  · apply List.flatMap_congr
    intro j member
    exact expectedAt_append_left o cut (by simpa [List.mem_range'_1] using member)
  · rw [List.range'_eq_map_range, List.range'_eq_map_range, List.flatMap_map, List.flatMap_map]
    exact List.flatMap_congr fun k _ => by simpa using expectedAt_append_right o cut k

end Join

theorem head?_flatten_not_delay {chains : List (List Block)}
    (cuts : ∀ chain ∈ chains, ∀ b ∈ chain.head?, isDelay b = false) :
    ∀ b ∈ chains.flatten.head?, isDelay b = false := by
  induction chains with
  | nil => simp
  | cons chain chains ih =>
      intro b first
      rw [List.flatten_cons, List.head?_append] at first
      cases opening : chain.head? with
      | none =>
          rw [opening, Option.none_or] at first
          exact ih (fun c member => cuts c (List.mem_cons_of_mem _ member)) b first
      | some a =>
          rw [opening, Option.some_or, Option.mem_def, Option.some_inj] at first
          exact first ▸ cuts chain List.mem_cons_self a opening

/-- Chains that, but for the first, open with no delay have the queue of their join made
chain by chain. -/
theorem commandQueue_flatten (o : CompileOptions) {chains : List (List Block)}
    (cuts : ∀ chain ∈ chains.tail, ∀ b ∈ chain.head?, isDelay b = false) :
    commandQueue o chains.flatten = chains.flatMap (commandQueue o) := by
  induction chains with
  | nil => simp [commandQueue, queueFrom]
  | cons chain chains ih =>
      have rest : ∀ c ∈ chains, ∀ b ∈ c.head?, isDelay b = false := cuts
      rw [List.flatten_cons, commandQueue_append o (head?_flatten_not_delay rest), List.flatMap_cons,
        ih fun c member => rest c (List.mem_of_mem_tail member)]

end CommandQueue

/-- Only the empty snapshot has nothing to run: every block lies on some chain. -/
theorem Chain.linearize_eq_nil_iff (blocks : List Block) :
    Chain.linearize blocks = [] ↔ blocks = [] := by
  constructor
  · intro none
    apply List.eq_nil_iff_forall_not_mem.mpr
    intro b member
    have listed := (Chain.mem_linearize_ids blocks).mpr (List.mem_map_of_mem member)
    simp [none] at listed
  · rintro rfl
    exact List.eq_nil_iff_forall_not_mem.mpr fun b member => by
      simpa using Chain.mem_of_mem_linearize [] member

theorem compile_of_ne_nil (o : CompileOptions) {s : List Block} (blocks : s ≠ []) :
    compile o s = some ((commandQueue o s).map (·.command)) := by
  simp [compile, blocks]

open CommandQueue in
/-- Two sequences joined before a block that is no delay queue as the two apart, for every
naming and scale; so a snapshot whose execution chains, but for the first, open with no
delay compiles to the commands of its chains compiled one by one and joined, and to nothing
when it has no blocks. -/
theorem queue_join_and_compile_chains (o : CompileOptions) :
    (∀ s₁ s₂ : List Block, (∀ b ∈ s₂.head?, isDelay b = false) →
      commandQueue o (s₁ ++ s₂) = commandQueue o s₁ ++ commandQueue o s₂) ∧
    ∀ blocks : List Block,
      (∀ chain ∈ (Chain.executionChains blocks).tail, ∀ b ∈ chain.head?, isDelay b = false) →
      (∀ chain ∈ Chain.executionChains blocks, (compile o chain).isSome) ∧
      compileBlocks o blocks =
        if blocks = [] then none
        else some ((Chain.executionChains blocks).flatMap fun chain => (compile o chain).getD []) := by
  refine ⟨fun s₁ s₂ cut => commandQueue_append o cut, fun blocks cuts => ⟨?_, ?_⟩⟩
  · intro chain member
    simp [compile_of_ne_nil o (Chain.ne_nil_of_mem_executionChains blocks member)]
  -- every chain holds a block, so each compiles to its queue's commands
  have each : ∀ chain ∈ Chain.executionChains blocks,
      (compile o chain).getD [] = (commandQueue o chain).map (·.command) := by
    intro chain member
    rw [compile_of_ne_nil o (Chain.ne_nil_of_mem_executionChains blocks member), Option.getD_some]
  rw [compileBlocks]
  by_cases blank : blocks = []
  · subst blank
    rfl
  · rw [if_neg blank, compile_of_ne_nil o (mt (Chain.linearize_eq_nil_iff blocks).mp blank),
      Chain.linearize, commandQueue_flatten o cuts, List.map_flatMap, List.flatMap_congr each]

end BlockProgram
