import Mathlib.Data.List.Basic
import BlockProgram.Proofs.Graph.Frame

/-! # Removing a chain from the execution order

On a well-formed graph the execution order is the chains from the heads, in graph order
(`Graph.Valid.linearize_eq`). `removeChain c` takes out the chain from `c`: the tail, from
`c` on, of the one chain that holds it. Afterwards the heads are the old heads less `c`, the
chain from each kept head is its old chain cut where the removed tail began
(`Graph.Valid.chainIds_removedChain`), and the one block that changes is the former parent
of `c`, whose child link is cleared. So the new execution order is the old one with the
removed blocks filtered out (`Graph.Valid.linearize_removedChain`).
-/

namespace BlockProgram

namespace Block

/-- The block with its child link cleared when it names `c`. -/
def unlinkChild (c : String) (b : Block) : Block :=
  if b.child = some c then { b with child := none } else b

@[simp] theorem id_unlinkChild (c : String) (b : Block) : (b.unlinkChild c).id = b.id := by
  unfold unlinkChild
  split <;> rfl

@[simp] theorem isHead_unlinkChild (c : String) (b : Block) :
    (b.unlinkChild c).isHead = b.isHead := by
  unfold unlinkChild
  split <;> rfl

end Block

/-- Filtering out items that contribute nothing leaves a `flatMap` as it was. -/
theorem flatMap_filter_of_nil {α β : Type} {l : List α} {p : α → Bool} {k : α → List β}
    (empty : ∀ a ∈ l, p a = false → k a = []) : (l.filter p).flatMap k = l.flatMap k := by
  induction l with
  | nil => rfl
  | cons a l ih =>
      have rest := ih fun b member => empty b (List.mem_cons_of_mem a member)
      cases kept : p a
      · simp [kept, empty a List.mem_cons_self kept, rest]
      · simp [kept, rest]

namespace Graph

section Order

variable {g : Graph} (valid : g.Valid)
include valid

/-- The blocks of a valid graph are found again from their ids. -/
theorem Valid.filterMap_block?_ids {l : List Block} (sub : ∀ b ∈ l, b ∈ g.blocks) :
    (l.map (·.id)).filterMap g.block? = l := by
  rw [List.filterMap_map]
  conv_rhs => rw [← List.filterMap_some (l := l)]
  refine List.filterMap_congr fun b member => ?_
  exact (block?_eq_some_iff valid.nodup).mpr ⟨sub b member, rfl⟩

theorem Valid.chainFrom_eq_filterMap (x : String) :
    g.chainFrom x = (g.chainIds x).filterMap g.block? :=
  (valid.filterMap_block?_ids fun _ => valid.mem_chainFrom).symm

/-- What `removeChain c` returns, in graph order, are the blocks of the chain from `c`. -/
theorem Valid.removed_perm_chainFrom {c : String} :
    (g.blocks.filter fun b => (g.chainIds c).contains b.id).Perm (g.chainFrom c) := by
  have kept : (g.blocks.filter fun b => (g.chainIds c).contains b.id).Nodup :=
    ((List.filter_sublist.map _).nodup valid.nodup).of_map _
  rw [List.perm_ext_iff_of_nodup kept ((g.chainIds_nodup c).of_map _)]
  intro b
  constructor
  · intro member
    obtain ⟨inGraph, inChain⟩ := List.mem_filter.mp member
    have inIds : b.id ∈ g.chainIds c := by simpa using inChain
    obtain ⟨b', found, same⟩ := List.mem_map.mp inIds
    rwa [← List.inj_on_of_nodup_map valid.nodup (valid.mem_chainFrom found) inGraph same]
  · intro member
    have inIds : b.id ∈ g.chainIds c := List.mem_map_of_mem member
    exact List.mem_filter.mpr ⟨valid.mem_chainFrom member, by simpa using inIds⟩

variable (wf : g.WellFormed)
include wf

/-- On a well-formed graph the execution chains are the chains from the heads, in order. -/
theorem Valid.executionChains_eq :
    Chain.executionChains g.blocks = (g.blocks.filter (·.isHead)).map fun h => g.chainFrom h.id := by
  have wf' : (Graph.ofBlocks g.blocks).WellFormed :=
    wf.of_links (fun _ member => member) (fun _ => rfl) (fun _ => rfl)
  rw [Chain.executionChains_of_wellFormed valid.nodup wf']
  refine List.map_congr_left fun h member => ?_
  rw [Chain.walk_eq_chainFrom valid.nodup (List.mem_of_mem_filter member), valid.chainFrom_eq]

theorem Valid.linearize_eq :
    Chain.linearize g.blocks = (g.blocks.filter (·.isHead)).flatMap fun h => g.chainFrom h.id := by
  rw [Chain.linearize, valid.executionChains_eq wf, List.flatMap_def]

end Order

section Removal

variable {g : Graph} (valid : g.Valid) (wf : g.WellFormed) {c : String} (hc : c ∈ g.ids)
include valid wf hc

/-- The blocks `removeChain c` keeps, in order, with the former parent's link to `c`
cleared: in a well-formed graph only that block links to `c`. -/
theorem Valid.removedChain_blocks :
    (g.removedChain c).blocks =
      (g.blocks.filter fun b => b.id ∉ g.chainIds c).map (·.unlinkChild c) := by
  have edit := valid.removeChain_blocks c
  rw [valid.apply_removeChain, if_pos hc] at edit
  rw [edit]
  refine List.map_congr_left fun b member => ?_
  have parent : g.parentOf c = some b.id ↔ b.child = some c := by
    rw [← wf.linked, childOf_of_mem valid.nodup (List.mem_filter.mp member).1]
  by_cases child : b.child = some c
  · simp [Block.unlinkChild, child, parent.mpr child]
  · simp [Block.unlinkChild, child]

/-- A block whose child link is missing or names `c` links nowhere once the chain from `c`
is gone. -/
theorem Valid.childOf_removedChain_eq_none {x : String}
    (ends : g.childOf x = none ∨ g.childOf x = some c) : (g.removedChain c).childOf x = none := by
  rw [childOf_removedChain valid wf hc]
  split
  · rfl
  · rename_i kept
    rcases ends with missing | toC
    · exact missing
    · exact absurd (.inr toC) kept

/-- Nothing of the chain from a block of the chain from `c` is kept. -/
theorem Valid.chainFrom_filter_eq_nil {x : String} (inside : x ∈ g.chainIds c) :
    ((g.chainFrom x).filter fun b => b.id ∉ g.chainIds c) = [] := by
  refine List.filter_eq_nil_iff.mpr fun b member => ?_
  have hx := valid.mem_ids_of_chainIds inside
  have below : b.id ∈ g.chainIds x := List.mem_map_of_mem member
  -- what lies below a block of the chain from `c` lies below `c`
  have reached := ((valid.mem_chainIds_iff wf hc).mp inside).trans
    ((valid.mem_chainIds_iff wf hx).mp below)
  simpa using (valid.mem_chainIds_iff wf hc).mpr reached

section Kept

variable {h : String} (hh : h ∈ g.ids) (off : h ∉ g.chainIds c)
include hh off

/-- The chain from a block `h` off the chain from `c` is `h` and blocks off that chain,
followed by the chain from `c` when `h` reaches it. -/
theorem Valid.chainIds_cut :
    ∃ F, g.chainIds h = (h :: F) ++ (if c ∈ g.chainIds h then g.chainIds c else []) ∧
      ∀ z ∈ h :: F, z ∉ g.chainIds c := by
  refine ⟨_, valid.chainIds_split wf hc hh off, fun z member => ?_⟩
  rcases List.mem_cons.mp member with rfl | later
  · exact off
  · exact (valid.mem_following wf hc hh off later).1

/-- After `removeChain c` the chain from `h` is the old one cut where the chain from `c`
began: its links among kept blocks survive, and the link into the removed chain is gone. -/
theorem Valid.run_removedChain :
    (g.removedChain c).Run h ((g.chainIds h).filter (· ∉ g.chainIds c)) := by
  obtain ⟨F, split, outside⟩ := valid.chainIds_cut wf hc hh off
  have cut : (g.chainIds h).filter (· ∉ g.chainIds c) = h :: F := by
    rw [split, List.filter_append, List.filter_eq_self.mpr (by simpa using outside)]
    split <;> simp
  have runH := valid.run_chainIds wf hh
  rw [split] at runH
  obtain ⟨kept, -, junction⟩ := List.isChain_append.mp runH.chain
  rw [cut]
  refine ⟨rfl, kept.imp_of_mem_imp fun x y inX inY link => ?_, fun z last => ?_⟩
  · -- the link names a kept block, so not `c`, and leaves a kept block
    have named : g.childOf x ≠ some c := by
      rw [link]
      intro same
      apply outside y inY
      rw [Option.some.inj same]
      exact valid.mem_chainIds_self hc
    show (g.removedChain c).childOf x = some y
    rw [childOf_removedChain valid wf hc, if_neg (not_or.mpr ⟨outside x inX, named⟩)]
    exact link
  · refine valid.childOf_removedChain_eq_none wf hc ?_
    by_cases below : c ∈ g.chainIds h
    · -- the last kept block linked to `c`, where the removed chain began
      rw [if_pos below] at junction
      exact .inr (junction z last c (valid.chainIds_head? hc))
    · rw [if_neg below, List.append_nil] at runH
      exact .inl (runH.last z last)

theorem Valid.chainIds_removedChain :
    (g.removedChain c).chainIds h = (g.chainIds h).filter (· ∉ g.chainIds c) :=
  (valid.removedChain c).chainIds_eq_of_run (wf.removedChain valid hc)
    (mem_ids_removedChain.mpr ⟨hh, off⟩) (valid.run_removedChain wf hc hh off)

theorem Valid.chainFrom_removedChain :
    (g.removedChain c).chainFrom h =
      ((g.chainFrom h).filter fun b => b.id ∉ g.chainIds c).map (·.unlinkChild c) := by
  have sub : ∀ b ∈ ((g.chainFrom h).filter fun b => b.id ∉ g.chainIds c).map (·.unlinkChild c),
      b ∈ (g.removedChain c).blocks := by
    intro b member
    obtain ⟨a, inChain, rfl⟩ := List.mem_map.mp member
    obtain ⟨inFrom, outside⟩ := List.mem_filter.mp inChain
    rw [valid.removedChain_blocks wf hc]
    exact List.mem_map_of_mem (List.mem_filter.mpr ⟨valid.mem_chainFrom inFrom, outside⟩)
  have ids : (((g.chainFrom h).filter fun b => b.id ∉ g.chainIds c).map (·.unlinkChild c)).map
      (·.id) = (g.chainIds h).filter (· ∉ g.chainIds c) := by
    rw [show g.chainIds h = (g.chainFrom h).map (·.id) from rfl, List.filter_map, List.map_map]
    simp [Function.comp_def]
  rw [(valid.removedChain c).chainFrom_eq_filterMap, valid.chainIds_removedChain wf hc hh off,
    ← ids, (valid.removedChain c).filterMap_block?_ids sub]

end Kept

/-- The chain from `c` is the tail, from `c` on, of the execution chain of the head above
`c`. -/
theorem Valid.chainFrom_tail_of_executionChain :
    ∃ pre, pre ++ g.chainFrom c ∈ Chain.executionChains g.blocks := by
  obtain ⟨h, inBlocks, head, path⟩ := wf.exists_head valid.nodup hc
  have hh : h.id ∈ g.ids := List.mem_map_of_mem inBlocks
  have split : ∃ P, g.chainIds h.id = P ++ g.chainIds c := by
    by_cases same : h.id = c
    · exact ⟨[], by rw [same, List.nil_append]⟩
    · -- a head in the chain from `c` would be `c` itself: nothing links to a head
      have orphan : g.parentOf h.id = none := by
        rw [parentOf_of_mem valid.nodup inBlocks]
        simpa [Block.isHead] using head
      have off : h.id ∉ g.chainIds c := fun inside =>
        same (wf.eq_of_reaches_orphan orphan ((valid.mem_chainIds_iff wf hc).mp inside)).symm
      obtain ⟨F, split, -⟩ := valid.chainIds_cut wf hc hh off
      rw [if_pos ((valid.mem_chainIds_iff wf hh).mpr path)] at split
      exact ⟨h.id :: F, split⟩
  obtain ⟨P, split⟩ := split
  refine ⟨P.filterMap g.block?, ?_⟩
  rw [valid.executionChains_eq wf]
  refine List.mem_map.mpr ⟨h, List.mem_filter.mpr ⟨inBlocks, head⟩, ?_⟩
  rw [valid.chainFrom_eq_filterMap, split, List.filterMap_append, ← valid.chainFrom_eq_filterMap]

/-- The execution order after `removeChain c` is the old one with the chain from `c` filtered
out and the former parent's link to `c` cleared. -/
theorem Valid.linearize_removedChain :
    Chain.linearize (g.removedChain c).blocks =
      ((Chain.linearize g.blocks).filter fun b => b.id ∉ g.chainIds c).map (·.unlinkChild c) := by
  have heads : (g.removedChain c).blocks.filter (·.isHead) =
      ((g.blocks.filter (·.isHead)).filter fun b => b.id ∉ g.chainIds c).map (·.unlinkChild c) := by
    rw [valid.removedChain_blocks wf hc, List.filter_map, List.filter_filter, List.filter_filter]
    congr 1
    refine List.filter_congr fun b _ => ?_
    simp [Bool.and_comm]
  calc Chain.linearize (g.removedChain c).blocks
      = ((g.blocks.filter (·.isHead)).filter fun b => b.id ∉ g.chainIds c).flatMap
          fun h => (g.removedChain c).chainFrom h.id := by
        rw [(valid.removedChain c).linearize_eq (wf.removedChain valid hc), heads, List.flatMap_map]
        simp only [Block.id_unlinkChild]
    _ = ((g.blocks.filter (·.isHead)).filter fun b => b.id ∉ g.chainIds c).flatMap
          fun h => ((g.chainFrom h.id).filter fun b => b.id ∉ g.chainIds c).map (·.unlinkChild c) := by
        refine List.flatMap_congr fun h member => ?_
        obtain ⟨inHeads, outside⟩ := List.mem_filter.mp member
        exact valid.chainFrom_removedChain wf hc
          (List.mem_map_of_mem (List.mem_of_mem_filter inHeads)) (by simpa using outside)
    _ = (g.blocks.filter (·.isHead)).flatMap
          fun h => ((g.chainFrom h.id).filter fun b => b.id ∉ g.chainIds c).map (·.unlinkChild c) := by
        -- a head on the removed chain contributes nothing either way
        refine flatMap_filter_of_nil fun h _ dropped => ?_
        rw [valid.chainFrom_filter_eq_nil wf hc (by simpa using dropped), List.map_nil]
    _ = ((Chain.linearize g.blocks).filter fun b => b.id ∉ g.chainIds c).map (·.unlinkChild c) := by
        rw [valid.linearize_eq wf, List.filter_flatMap, List.map_flatMap]

end Removal

/-- On a well-formed graph, `removeChain c` for a block `c` of the graph succeeds. The blocks it
returns are, up to order, the tail from `c` on of the execution chain holding `c`, and the
execution order afterwards is the old one with them filtered out: the same ids in the same
order, and the same blocks but for the former parent of `c`, whose child link is cleared. -/
theorem removeChain_filters_execution_order {g : Graph} {c : String} (valid : g.Valid)
    (wf : g.WellFormed) (member : c ∈ g.ids) :
    ∃ removed g', (removeChain c).run g = .ok removed g' ∧
      (Chain.linearize g'.blocks).map (·.id) =
        ((Chain.linearize g.blocks).filter fun b => b.id ∉ removed.map (·.id)).map (·.id) ∧
      Chain.linearize g'.blocks =
        ((Chain.linearize g.blocks).filter fun b => b.id ∉ removed.map (·.id)).map
          (·.unlinkChild c) ∧
      ∃ pre b rest, pre ++ b :: rest ∈ Chain.executionChains g.blocks ∧ b.id = c ∧
        removed.Perm (b :: rest) := by
  have run := valid.removeChain_run c
  rw [if_pos member] at run
  refine ⟨_, _, run, ?_⟩
  -- the returned blocks carry exactly the ids of the chain from `c`
  have ids : ∀ x, x ∈ (g.blocks.filter fun b => (g.chainIds c).contains b.id).map (·.id) ↔
      x ∈ g.chainIds c := by
    intro x
    constructor
    · intro inRemoved
      obtain ⟨b, inFilter, rfl⟩ := List.mem_map.mp inRemoved
      simpa using (List.mem_filter.mp inFilter).2
    · intro inChain
      obtain ⟨b, inGraph, rfl⟩ := List.mem_map.mp (valid.mem_ids_of_chainIds inChain)
      exact List.mem_map_of_mem (List.mem_filter.mpr ⟨inGraph, by simpa using inChain⟩)
  have order := valid.linearize_removedChain wf member
  simp only [ids]
  refine ⟨by rw [order, List.map_map]; simp [Function.comp_def], order, ?_⟩
  obtain ⟨pre, inExecution⟩ := valid.chainFrom_tail_of_executionChain wf member
  have first := valid.chainIds_head? member
  cases starts : g.chainFrom c with
  | nil => simp [chainIds, starts] at first
  | cons b rest =>
      refine ⟨pre, b, rest, starts ▸ inExecution, by simpa [chainIds, starts] using first, ?_⟩
      rw [← starts]
      exact valid.removed_perm_chainFrom

/-- A flag linked to `up` and `up` to a delay, with a loose block beside them: removing the
chain from `up` leaves the flag, unlinked, and the loose block. -/
theorem removeChain_below_flag :
    let g₀ := ofBlocks [Block.make "flag" .greenFlag, Block.make "up" .up, Block.delayOf "d1" 2,
      Block.make "loose" .down]
    let g := (g₀.attached "up" "flag").attached "d1" "up"
    g.Valid ∧ g.WellFormed ∧ "up" ∈ g.ids ∧
      ∃ removed g', (removeChain "up").run g = .ok removed g' ∧
        (Chain.linearize g'.blocks).map (·.id) =
          ((Chain.linearize g.blocks).filter fun b => b.id ∉ removed.map (·.id)).map (·.id) ∧
        Chain.linearize g'.blocks =
          ((Chain.linearize g.blocks).filter fun b => b.id ∉ removed.map (·.id)).map
            (·.unlinkChild "up") ∧
        ∃ pre b rest, pre ++ b :: rest ∈ Chain.executionChains g.blocks ∧ b.id = "up" ∧
          removed.Perm (b :: rest) := by
  intro g₀ g
  have valid₀ : g₀.Valid := Valid.ofBlocks (by decide)
  have wf₀ : g₀.WellFormed := WellFormed.of_unlinked (by decide)
  have valid₁ : (g₀.attached "up" "flag").Valid := valid₀.attached "up" "flag"
  have wf₁ : (g₀.attached "up" "flag").WellFormed :=
    wf₀.attached valid₀ (by decide) (by decide) (by rw [chainIds, valid₀.chainFrom_eq]; decide)
  -- `up` is off the chain from the delay, which has no child yet
  have off : "up" ∉ (g₀.attached "up" "flag").chainIds "d1" := by
    rw [chainIds, valid₁.chainFrom_eq]
    simp only [attached, displaced, chainIds, valid₀.chainFrom_eq]
    decide
  have valid : g.Valid := valid₁.attached _ _
  have wf : g.WellFormed := wf₁.attached valid₁ (by simp; decide) (by simp; decide) off
  have member : "up" ∈ g.ids := by simp [g]; decide
  exact ⟨valid, wf, member, removeChain_filters_execution_order valid wf member⟩

end Graph

end BlockProgram
