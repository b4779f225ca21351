import Mathlib.Data.List.Dedup
import BlockProgram.Proofs.Chain.Walk

/-! # Execution chains

`Chain.executionChains` walks first from every head and then from every block, in
snapshot order, with one visited set for both passes. This module proves what that
gives for any snapshot, whatever its links and even with repeated ids:

* every chain is non-empty, and each distinct id of the snapshot occurs exactly once
  over all chains, so `Chain.linearize` is a permutation of the snapshot when ids are
  unique;
* inside a chain each block's child link names the next block;
* a chain ends at a block with no child, a child no block has, or an id emitted already;
* the chains are started, in order, by the heads and then by all blocks, each block
  starting one exactly when its id has not been emitted by the time its turn comes
  (`Chain.StartedBy`).
-/

namespace BlockProgram

namespace Chain

/-- `StartedBy emitted turns chains`: the blocks of `turns` take their turns in order.
A block whose id is not yet emitted starts the next chain, whose ids are emitted from
then on; a block already emitted starts nothing. -/
inductive StartedBy : List String → List Block → List (List Block) → Prop
  /-- No turns are left, and no chains. -/
  | nil (emitted : List String) : StartedBy emitted [] []
  /-- A block emitted before its turn is passed over. -/
  | skip {emitted : List String} {b : Block} {turns : List Block} {chains : List (List Block)} :
      b.id ∈ emitted → StartedBy emitted turns chains → StartedBy emitted (b :: turns) chains
  /-- A block not yet emitted starts the next chain. -/
  | start {emitted : List String} {b : Block} {turns chain : List Block}
      {chains : List (List Block)} :
      b.id ∉ emitted → chain.head? = some b →
      StartedBy (emitted ++ chain.map (·.id)) turns chains →
      StartedBy emitted (b :: turns) (chain :: chains)

namespace StartedBy

/-- Only which ids are emitted matters, not their order. -/
theorem congr {emitted emitted' : List String} {turns : List Block}
    {chains : List (List Block)} (same : ∀ x, x ∈ emitted ↔ x ∈ emitted')
    (started : StartedBy emitted turns chains) : StartedBy emitted' turns chains := by
  induction started generalizing emitted' with
  | nil => exact .nil _
  | skip seen _ ih => exact .skip ((same _).mp seen) (ih same)
  | start fresh head _ ih =>
      refine .start (fun seen => fresh ((same _).mpr seen)) head (ih ?_)
      intro x
      simp only [List.mem_append, same]

/-- Two rounds of turns, the second starting from what the first emitted. -/
theorem append {emitted : List String} {turns turns' : List Block}
    {chains chains' : List (List Block)} (first : StartedBy emitted turns chains)
    (second : StartedBy (emitted ++ chains.flatten.map (·.id)) turns' chains') :
    StartedBy emitted (turns ++ turns') (chains ++ chains') := by
  induction first with
  | nil => simpa using second
  | skip seen _ ih => exact .skip seen (ih second)
  | start fresh head _ ih =>
      refine .start fresh head (ih ?_)
      simpa [List.append_assoc] using second

end StartedBy

/-- A chain is closed against `emitted` when the child link of its last block finds no
block through `find`, or finds one whose id is in `emitted`. -/
def Closed (find : String → Option Block) (emitted : List String) (chain : List Block) : Prop :=
  ∀ last ∈ chain.getLast?, ∀ b ∈ last.child.bind find, b.id ∈ emitted

theorem Closed.mono {find : String → Option Block} {emitted emitted' : List String}
    {chain : List Block} (closed : Closed find emitted chain) (sub : ∀ x ∈ emitted, x ∈ emitted') :
    Closed find emitted' chain :=
  fun last hl b hb => sub _ (closed last hl b hb)

section WalkEach

variable (find : String → Option Block) (n : Nat)

theorem walkEach_nil (visited : List String) : walkEach find n [] visited = ([], visited) := rfl

theorem walkEach_of_mem {b : Block} {rest : List Block} {visited : List String}
    (seen : b.id ∈ visited) : walkEach find n (b :: rest) visited = walkEach find n rest visited := by
  simp [walkEach, seen]

theorem walkEach_of_not_mem {b : Block} {rest : List Block} {visited : List String}
    (fresh : b.id ∉ visited) :
    walkEach find n (b :: rest) visited =
      ((walk find n (some b) visited).1 ::
          (walkEach find n rest (walk find n (some b) visited).2).1,
        (walkEach find n rest (walk find n (some b) visited).2).2) := by
  simp [walkEach, fresh]

/-- The visited ids after all walks are the chains' ids, latest first, before the old ones. -/
theorem walkEach_snd (starts : List Block) (visited : List String) :
    (walkEach find n starts visited).2 =
      ((walkEach find n starts visited).1.flatten.map (·.id)).reverse ++ visited := by
  induction starts generalizing visited with
  | nil => rfl
  | cons b rest ih =>
      by_cases seen : b.id ∈ visited
      · rw [walkEach_of_mem find n seen, ih]
      · rw [walkEach_of_not_mem find n seen, ih, walk_snd]
        simp

theorem visited_subset_walkEach_snd (starts : List Block) (visited : List String) :
    ∀ x ∈ visited, x ∈ (walkEach find n starts visited).2 := by
  intro x member
  rw [walkEach_snd]
  exact List.mem_append_right _ member

theorem not_mem_visited_of_mem_walkEach {starts : List Block} {visited : List String}
    {b : Block} (member : b ∈ (walkEach find n starts visited).1.flatten) : b.id ∉ visited := by
  induction starts generalizing visited with
  | nil => simp [walkEach_nil] at member
  | cons a rest ih =>
      by_cases seen : a.id ∈ visited
      · rw [walkEach_of_mem find n seen] at member
        exact ih member
      · rw [walkEach_of_not_mem find n seen, List.flatten_cons, List.mem_append] at member
        rcases member with first | later
        · exact not_mem_visited_of_mem_walk find first
        · intro old
          apply ih later
          rw [walk_snd]
          exact List.mem_append_right _ old

theorem walkEach_ids_nodup (starts : List Block) (visited : List String) :
    ((walkEach find n starts visited).1.flatten.map (·.id)).Nodup := by
  induction starts generalizing visited with
  | nil => simp [walkEach_nil]
  | cons a rest ih =>
      by_cases seen : a.id ∈ visited
      · rw [walkEach_of_mem find n seen]
        exact ih visited
      · rw [walkEach_of_not_mem find n seen, List.flatten_cons, List.map_append,
          List.nodup_append]
        refine ⟨walk_ids_nodup find _ _ _, ih _, ?_⟩
        -- an id of the first chain is visited before the later walks, which avoid it
        intro x first y later same
        obtain ⟨c, hc, rfl⟩ := List.mem_map.mp later
        apply not_mem_visited_of_mem_walkEach find n hc
        rw [walk_snd, ← same]
        exact List.mem_append_left _ (List.mem_reverse.mpr first)

/-- A block of the chains is one of the starts or a block that `find` returns. -/
theorem mem_walkEach {starts : List Block} {visited : List String} {b : Block}
    (member : b ∈ (walkEach find n starts visited).1.flatten) :
    b ∈ starts ∨ ∃ id, find id = some b := by
  induction starts generalizing visited with
  | nil => simp [walkEach_nil] at member
  | cons a rest ih =>
      by_cases seen : a.id ∈ visited
      · rw [walkEach_of_mem find n seen] at member
        exact (ih member).imp (List.mem_cons_of_mem a) id
      · rw [walkEach_of_not_mem find n seen, List.flatten_cons, List.mem_append] at member
        rcases member with first | later
        · rcases mem_walk find first with same | found
          · exact .inl (Option.some.inj same ▸ List.mem_cons_self)
          · exact .inr found
        · exact (ih later).imp (List.mem_cons_of_mem a) id

theorem isChain_of_mem_walkEach {starts : List Block} {visited : List String}
    {chain : List Block} (member : chain ∈ (walkEach find n starts visited).1) :
    chain.IsChain (fun a b => a.child.bind find = some b) := by
  induction starts generalizing visited with
  | nil => simp [walkEach_nil] at member
  | cons a rest ih =>
      by_cases seen : a.id ∈ visited
      · rw [walkEach_of_mem find n seen] at member
        exact ih member
      · rw [walkEach_of_not_mem find n seen, List.mem_cons] at member
        rcases member with rfl | later
        · exact walk_isChain find _ _ _
        · exact ih later

variable {n} (positive : 0 < n)
include positive

theorem ne_nil_of_mem_walkEach {starts : List Block} {visited : List String}
    {chain : List Block} (member : chain ∈ (walkEach find n starts visited).1) : chain ≠ [] := by
  obtain ⟨m, rfl⟩ := Nat.exists_eq_add_one_of_ne_zero positive.ne'
  induction starts generalizing visited with
  | nil => simp [walkEach_nil] at member
  | cons a rest ih =>
      by_cases seen : a.id ∈ visited
      · rw [walkEach_of_mem find _ seen] at member
        exact ih member
      · rw [walkEach_of_not_mem find _ seen, List.mem_cons] at member
        rcases member with rfl | later
        · rw [walk_of_not_mem find seen]
          exact List.cons_ne_nil _ _
        · exact ih later

/-- Every start has been visited once all walks are done. -/
theorem mem_walkEach_snd {starts : List Block} {visited : List String} {b : Block}
    (member : b ∈ starts) : b.id ∈ (walkEach find n starts visited).2 := by
  obtain ⟨m, rfl⟩ := Nat.exists_eq_add_one_of_ne_zero positive.ne'
  induction starts generalizing visited with
  | nil => simp at member
  | cons a rest ih =>
      have later : b ∈ rest → b.id ∈ (walkEach find (m + 1) (a :: rest) visited).2 := by
        intro inRest
        by_cases seen : a.id ∈ visited
        · rw [walkEach_of_mem find _ seen]
          exact ih inRest
        · rw [walkEach_of_not_mem find _ seen]
          exact ih inRest
      rcases List.mem_cons.mp member with rfl | inRest
      · by_cases seen : b.id ∈ visited
        · exact visited_subset_walkEach_snd find _ _ _ _ seen
        · rw [walkEach_of_not_mem find _ seen]
          apply visited_subset_walkEach_snd
          rw [walk_snd, walk_of_not_mem find seen]
          simp
      · exact later inRest

theorem walkEach_startedBy (starts : List Block) (visited : List String) :
    StartedBy visited starts (walkEach find n starts visited).1 := by
  obtain ⟨m, rfl⟩ := Nat.exists_eq_add_one_of_ne_zero positive.ne'
  induction starts generalizing visited with
  | nil => exact .nil _
  | cons a rest ih =>
      by_cases seen : a.id ∈ visited
      · rw [walkEach_of_mem find _ seen]
        exact .skip seen (ih visited)
      · rw [walkEach_of_not_mem find _ seen]
        refine .start seen (walk_head? find seen) (StartedBy.congr ?_ (ih _))
        intro x
        rw [walk_snd]
        simp [or_comm]

omit positive

variable {ids : Finset String} (closed : ∀ id b, find id = some b → b.id ∈ ids)
  (fuel : ids.card < n)
include closed fuel

/-- Each chain is closed against the ids emitted up to and including it. -/
theorem walkEach_closed {starts : List Block} (starts_mem : ∀ b ∈ starts, b.id ∈ ids)
    {visited : List String} {pre post : List (List Block)} {chain : List Block}
    (split : (walkEach find n starts visited).1 = pre ++ chain :: post) :
    Closed find (visited ++ (pre ++ [chain]).flatten.map (·.id)) chain := by
  induction starts generalizing visited pre with
  | nil => simp [walkEach_nil] at split
  | cons a rest ih =>
      have rest_mem : ∀ b ∈ rest, b.id ∈ ids := fun b hb => starts_mem b (List.mem_cons_of_mem a hb)
      by_cases seen : a.id ∈ visited
      · rw [walkEach_of_mem find n seen] at split
        exact ih rest_mem split
      · rw [walkEach_of_not_mem find n seen] at split
        cases pre with
        | nil =>
            -- the first walk runs until the loop stops, which is what `Closed` says
            obtain ⟨rfl, -⟩ := List.cons.inj split
            have unvisited : (ids \ visited.toFinset).card < n :=
              lt_of_le_of_lt (Finset.card_le_card Finset.sdiff_subset) fuel
            have start_mem : ∀ b ∈ some a, b.id ∈ ids := by
              intro b hb
              obtain rfl := Option.some.inj (Option.mem_def.mp hb)
              exact starts_mem a List.mem_cons_self
            have stops := walk_next_visited find closed start_mem unvisited
            intro last ends b found
            have emitted := stops b (by rwa [next_of_getLast? find ends])
            rw [walk_snd] at emitted
            simp only [List.nil_append, List.flatten_cons, List.flatten_nil, List.append_nil,
              List.mem_append, List.mem_reverse] at emitted ⊢
            exact emitted.symm
        | cons first pre =>
            obtain ⟨rfl, later⟩ := List.cons.inj split
            refine (ih rest_mem later).mono ?_
            intro x member
            rw [walk_snd] at member
            simp only [List.mem_append, List.mem_reverse, List.cons_append, List.flatten_cons,
              List.map_append] at member ⊢
            tauto

end WalkEach

section Snapshot

variable (blocks : List Block)

theorem executionChains_eq :
    executionChains blocks =
      (walkEach (lookup blocks) (steps blocks) (blocks.filter (·.isHead)) []).1 ++
        (walkEach (lookup blocks) (steps blocks) blocks
          (walkEach (lookup blocks) (steps blocks) (blocks.filter (·.isHead)) []).2).1 := rfl

theorem steps_pos : 0 < steps blocks := Nat.succ_pos _

theorem ne_nil_of_mem_executionChains {chain : List Block}
    (member : chain ∈ executionChains blocks) : chain ≠ [] := by
  rw [executionChains_eq, List.mem_append] at member
  rcases member with first | second
  · exact ne_nil_of_mem_walkEach _ (steps_pos blocks) first
  · exact ne_nil_of_mem_walkEach _ (steps_pos blocks) second

theorem mem_of_mem_linearize {b : Block} (member : b ∈ linearize blocks) : b ∈ blocks := by
  rw [linearize, executionChains_eq, List.flatten_append, List.mem_append] at member
  rcases member with first | second
  · rcases mem_walkEach _ _ first with start | ⟨id, found⟩
    · exact List.mem_of_mem_filter start
    · exact (lookup_mem found).1
  · rcases mem_walkEach _ _ second with start | ⟨id, found⟩
    · exact start
    · exact (lookup_mem found).1

theorem linearize_ids_nodup : ((linearize blocks).map (·.id)).Nodup := by
  rw [linearize, executionChains_eq, List.flatten_append, List.map_append, List.nodup_append]
  refine ⟨walkEach_ids_nodup _ _ _ _, walkEach_ids_nodup _ _ _ _, ?_⟩
  -- the second pass starts from what the first visited and so avoids every id it emitted
  intro x first y second same
  obtain ⟨b, member, rfl⟩ := List.mem_map.mp second
  apply not_mem_visited_of_mem_walkEach _ _ member
  rw [walkEach_snd, ← same]
  simpa using first

theorem mem_linearize_ids {x : String} :
    x ∈ (linearize blocks).map (·.id) ↔ x ∈ blocks.map (·.id) := by
  constructor
  · intro member
    obtain ⟨b, inLinear, rfl⟩ := List.mem_map.mp member
    exact List.mem_map_of_mem (mem_of_mem_linearize blocks inLinear)
  · intro member
    obtain ⟨b, inBlocks, rfl⟩ := List.mem_map.mp member
    -- the second pass has every block as a start, so every id ends up visited
    have visited : b.id ∈ (walkEach (lookup blocks) (steps blocks) blocks
        (walkEach (lookup blocks) (steps blocks) (blocks.filter (·.isHead)) []).2).2 :=
      mem_walkEach_snd _ (steps_pos blocks) inBlocks
    rw [walkEach_snd, List.mem_append, List.mem_reverse] at visited
    rw [linearize, executionChains_eq, List.flatten_append, List.map_append, List.mem_append]
    rcases visited with second | first
    · exact .inr second
    · rw [walkEach_snd, List.append_nil, List.mem_reverse] at first
      exact .inl first

/-- Each distinct id of the snapshot occurs exactly once in the linear order. -/
theorem linearize_ids_perm : ((linearize blocks).map (·.id)).Perm (blocks.map (·.id)).dedup := by
  rw [List.perm_ext_iff_of_nodup (linearize_ids_nodup blocks) (List.nodup_dedup _)]
  intro x
  rw [List.mem_dedup, mem_linearize_ids]

theorem linearize_perm (unique : (blocks.map (·.id)).Nodup) : (linearize blocks).Perm blocks := by
  rw [List.perm_ext_iff_of_nodup ((linearize_ids_nodup blocks).of_map _) (unique.of_map _)]
  intro b
  refine ⟨mem_of_mem_linearize blocks, fun member => ?_⟩
  obtain ⟨c, inLinear, same⟩ :=
    List.mem_map.mp ((mem_linearize_ids blocks).mpr (List.mem_map_of_mem member))
  -- with unique ids the block of the linear order with `b`'s id is `b` itself
  have : c = b := List.inj_on_of_nodup_map unique (mem_of_mem_linearize blocks inLinear) member same
  exact this ▸ inLinear

theorem isChain_of_mem_executionChains {chain : List Block}
    (member : chain ∈ executionChains blocks) :
    chain.IsChain fun a b => a.child = some b.id ∧ lookup blocks b.id = some b := by
  have linked : chain.IsChain fun a b => a.child.bind (lookup blocks) = some b := by
    rw [executionChains_eq, List.mem_append] at member
    rcases member with first | second
    · exact isChain_of_mem_walkEach _ _ first
    · exact isChain_of_mem_walkEach _ _ second
  refine linked.imp fun a b found => ?_
  obtain ⟨c, child, hc⟩ := Option.bind_eq_some_iff.mp found
  obtain ⟨-, rfl⟩ := lookup_mem hc
  exact ⟨child, hc⟩

theorem blocks_mem : ∀ b ∈ blocks, b.id ∈ (blocks.map (·.id)).toFinset := by
  intro b member
  simpa using ⟨b, member, rfl⟩

theorem heads_mem : ∀ b ∈ blocks.filter (·.isHead), b.id ∈ (blocks.map (·.id)).toFinset :=
  fun b member => blocks_mem blocks b (List.mem_of_mem_filter member)

theorem executionChains_closed {pre post : List (List Block)} {chain : List Block}
    (split : executionChains blocks = pre ++ chain :: post) :
    ∀ last ∈ chain.getLast?, ∀ c ∈ last.child,
      lookup blocks c = none ∨ c ∈ (pre ++ [chain]).flatten.map (·.id) := by
  have closed : Closed (lookup blocks) ((pre ++ [chain]).flatten.map (·.id)) chain := by
    rw [executionChains_eq] at split
    -- the chain lies in the first pass, is the first of the second, or lies further on
    rcases List.append_eq_append_iff.mp split with ⟨between, rfl, second⟩ | ⟨rest, first, later⟩
    · refine (walkEach_closed _ (lookup_closed blocks) (steps_fuel blocks) (blocks_mem blocks)
        second).mono ?_
      intro x member
      rw [walkEach_snd] at member
      simp only [List.append_nil, List.mem_append, List.mem_reverse, List.flatten_append,
        List.map_append] at member ⊢
      tauto
    · cases rest with
      | nil =>
          rw [List.append_nil] at first
          subst first
          refine (walkEach_closed _ (lookup_closed blocks) (steps_fuel blocks) (blocks_mem blocks)
            (show _ = [] ++ chain :: post from later.symm)).mono ?_
          intro x member
          rw [walkEach_snd] at member
          simpa [or_comm] using member
      | cons c rest =>
          obtain ⟨rfl, -⟩ := List.cons.inj later
          simpa using walkEach_closed _ (lookup_closed blocks) (steps_fuel blocks)
            (heads_mem blocks) first
  intro last ends c child
  cases found : lookup blocks c with
  | none => exact .inl rfl
  | some b =>
      obtain ⟨-, rfl⟩ := lookup_mem found
      exact .inr (closed last ends b (by rw [Option.mem_def.mp child]; exact found))

theorem executionChains_startedBy :
    StartedBy [] (blocks.filter (·.isHead) ++ blocks) (executionChains blocks) := by
  rw [executionChains_eq]
  refine (walkEach_startedBy _ (steps_pos blocks) _ _).append
    (StartedBy.congr ?_ (walkEach_startedBy _ (steps_pos blocks) _ _))
  intro x
  rw [walkEach_snd]
  simp

/-- What execution chains are, for every snapshot: non-empty chains that hold each
distinct id exactly once (a permutation of the snapshot when ids are unique), linked by
child links, each ending where the walk had to stop, and started by the heads and then by
all blocks, each block when its id is still unemitted at its turn. -/
theorem executionChains_spec :
    (∀ chain ∈ executionChains blocks, chain ≠ []) ∧
    ((linearize blocks).map (·.id)).Perm (blocks.map (·.id)).dedup ∧
    ((blocks.map (·.id)).Nodup → (linearize blocks).Perm blocks) ∧
    (∀ chain ∈ executionChains blocks,
      chain.IsChain fun a b => a.child = some b.id ∧ lookup blocks b.id = some b) ∧
    (∀ pre chain post, executionChains blocks = pre ++ chain :: post →
      ∀ last ∈ chain.getLast?, ∀ c ∈ last.child,
        lookup blocks c = none ∨ c ∈ (pre ++ [chain]).flatten.map (·.id)) ∧
    StartedBy [] (blocks.filter (·.isHead) ++ blocks) (executionChains blocks) :=
  ⟨fun _ => ne_nil_of_mem_executionChains blocks, linearize_ids_perm blocks,
    linearize_perm blocks, fun _ => isChain_of_mem_executionChains blocks,
    fun _ _ _ => executionChains_closed blocks, executionChains_startedBy blocks⟩

end Snapshot

end Chain

end BlockProgram
