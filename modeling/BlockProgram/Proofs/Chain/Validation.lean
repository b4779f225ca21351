import Mathlib.Data.List.TakeWhile
import BlockProgram.Proofs.Graph.WellFormed
import BlockProgram.Proofs.Graph.Build

/-! # Validation chains against execution chains

`Chain.validationChains` walks from every head with a visited set of its own, while
`Chain.executionChains` shares one set between all its walks and adds a second pass over
all blocks. A walk that starts with more ids visited stops at the first of them, so for
every snapshot an execution chain that starts at a head is a prefix of that head's
validation chain. On a well-formed snapshot with distinct ids both are the chains from the
heads in order: every block lies below exactly one head, so the walks from the heads never
meet and leave nothing for the second pass (`Chain.validationChains_eq_executionChains`).
-/

namespace BlockProgram

open Relation

namespace Graph

/-! Parent links in a well-formed graph lead up to a head, and only one. -/

variable {g : Graph}

/-- Every block of a well-formed graph lies below a block without a parent. -/
theorem WellFormed.exists_head (unique : g.ids.Nodup) (wf : g.WellFormed) {x : String}
    (member : x ∈ g.ids) : ∃ h ∈ g.blocks, h.isHead = true ∧ ReflTransGen g.Link h.id x := by
  obtain ⟨rank, lt, le⟩ := wf.exists_rank
  -- climb the parent links: the rank grows along each and stays below the number of ids
  suffices climb : ∀ m x, g.ids.length - rank x = m → x ∈ g.ids →
      ∃ h ∈ g.blocks, h.isHead = true ∧ ReflTransGen g.Link h.id x from
    climb _ x rfl member
  intro m
  induction m using Nat.strong_induction_on with
  | _ m ih =>
      intro x height member
      cases parent : g.parentOf x with
      | none =>
          obtain ⟨b, inBlocks, rfl⟩ := List.mem_map.mp member
          rw [parentOf_of_mem unique inBlocks] at parent
          exact ⟨b, inBlocks, by simp [Block.isHead, parent], ReflTransGen.refl⟩
      | some p =>
          have link : g.Link p x := (wf.linked p x).mpr parent
          have higher : g.ids.length - rank p < m := by
            have := lt p x link
            have := le p
            omega
          obtain ⟨h, inBlocks, head, path⟩ := ih _ higher p rfl (wf.parent_mem x p parent)
          exact ⟨h, inBlocks, head, path.tail link⟩

/-- Two blocks that reach a common block reach one another: no block has two parents. -/
theorem WellFormed.reaches_of_common (wf : g.WellFormed) {a b y : String}
    (fromA : ReflTransGen g.Link a y) (fromB : ReflTransGen g.Link b y) :
    ReflTransGen g.Link a b ∨ ReflTransGen g.Link b a := by
  induction fromA generalizing b with
  | refl => exact .inr fromB
  | tail path link ih =>
      rcases fromB.cases_tail with rfl | ⟨z, path', link'⟩
      · exact .inl (path.tail link)
      · rw [wf.unique_parent link link'] at ih
        exact ih path'

/-- Nothing but itself reaches a block without a parent. -/
theorem WellFormed.eq_of_reaches_orphan (wf : g.WellFormed) {x h : String}
    (orphan : g.parentOf h = none) (path : ReflTransGen g.Link x h) : x = h := by
  rcases path.cases_tail with same | ⟨z, -, link⟩
  · exact same.symm
  · exact absurd link (wf.childOf_ne_of_orphan orphan)

/-- Two heads that reach a common block are the same head. -/
theorem WellFormed.head_unique (unique : g.ids.Nodup) (wf : g.WellFormed) {h h' : Block}
    (member : h ∈ g.blocks) (head : h.isHead = true) (member' : h' ∈ g.blocks)
    (head' : h'.isHead = true) {y : String} (path : ReflTransGen g.Link h.id y)
    (path' : ReflTransGen g.Link h'.id y) : h = h' := by
  have orphan : ∀ b ∈ g.blocks, b.isHead = true → g.parentOf b.id = none := by
    intro b inBlocks isHead
    rw [parentOf_of_mem unique inBlocks]
    simpa [Block.isHead] using isHead
  have same : h.id = h'.id := by
    rcases wf.reaches_of_common path path' with down | up
    · exact wf.eq_of_reaches_orphan (orphan h' member' head') down
    · exact (wf.eq_of_reaches_orphan (orphan h member head) up).symm
  exact List.inj_on_of_nodup_map unique member member' same

end Graph

namespace Chain

section Walks

variable (find : String → Option Block)

/-- A walk that starts with the ids `U` visited as well stops at the first of them: it is
the walk without them, cut there. -/
theorem walk_eq_takeWhile {U V W : List String} (same : ∀ x, x ∈ V ↔ x ∈ U ∨ x ∈ W)
    (n : Nat) (start : Option Block) :
    (walk find n start V).1 = (walk find n start W).1.takeWhile fun b => b.id ∉ U := by
  induction n generalizing start V W with
  | zero => simp
  | succ n ih =>
      cases start with
      | none => simp
      | some b =>
          by_cases seen : b.id ∈ W
          · rw [walk_of_mem find ((same _).mpr (.inr seen)), walk_of_mem find seen]
            rfl
          by_cases cut : b.id ∈ U
          · rw [walk_of_mem find ((same _).mpr (.inl cut)), walk_of_not_mem find seen]
            simp [cut]
          have fresh : b.id ∉ V := fun inV => ((same _).mp inV).elim cut seen
          have same' : ∀ x, x ∈ b.id :: V ↔ x ∈ U ∨ x ∈ b.id :: W := by
            intro x
            simp only [List.mem_cons, same]
            tauto
          rw [walk_of_not_mem find fresh, walk_of_not_mem find seen,
            List.takeWhile_cons_of_pos (by simpa using cut), ih same']

theorem walk_prefix (n : Nat) (start : Option Block) (visited : List String) :
    (walk find n start visited).1 <+: (walk find n start []).1 := by
  rw [walk_eq_takeWhile find (U := visited) (W := []) (by simp) n start]
  exact List.takeWhile_prefix _

/-- Each chain of a round of walks is the walk from one of its starts. -/
theorem exists_walk_of_mem_walkEach {n : Nat} {starts : List Block} {visited : List String}
    {chain : List Block} (member : chain ∈ (walkEach find n starts visited).1) :
    ∃ b ∈ starts, ∃ seen, chain = (walk find n (some b) seen).1 := by
  induction starts generalizing visited with
  | nil => simp [walkEach_nil] at member
  | cons a rest ih =>
      by_cases seen : a.id ∈ visited
      · rw [walkEach_of_mem find n seen] at member
        obtain ⟨b, inRest, before, rfl⟩ := ih member
        exact ⟨b, List.mem_cons_of_mem a inRest, before, rfl⟩
      · rw [walkEach_of_not_mem find n seen, List.mem_cons] at member
        rcases member with rfl | later
        · exact ⟨a, List.mem_cons_self, visited, rfl⟩
        · obtain ⟨b, inRest, before, rfl⟩ := ih later
          exact ⟨b, List.mem_cons_of_mem a inRest, before, rfl⟩

theorem walkEach_of_visited {n : Nat} {starts : List Block} {visited : List String}
    (all : ∀ b ∈ starts, b.id ∈ visited) : (walkEach find n starts visited).1 = [] := by
  induction starts with
  | nil => rfl
  | cons a rest ih =>
      rw [walkEach_of_mem find n (all a List.mem_cons_self)]
      exact ih fun b member => all b (List.mem_cons_of_mem a member)

end Walks

section Snapshot

variable (blocks : List Block)

theorem exists_walk_of_mem_executionChains {chain : List Block}
    (member : chain ∈ executionChains blocks) :
    ∃ b ∈ blocks, ∃ seen, chain = (walk (lookup blocks) (steps blocks) (some b) seen).1 := by
  rw [executionChains_eq, List.mem_append] at member
  rcases member with first | second
  · obtain ⟨b, head, seen, rfl⟩ := exists_walk_of_mem_walkEach _ first
    exact ⟨b, List.mem_of_mem_filter head, seen, rfl⟩
  · exact exists_walk_of_mem_walkEach _ second

/-- With a head in the snapshot, the validation chains are the walks from the heads. -/
theorem validationChains_of_head {h : Block} (member : h ∈ blocks) (head : h.isHead = true) :
    validationChains blocks =
      (blocks.filter (·.isHead)).map fun b => (walk (lookup blocks) (steps blocks) (some b) []).1 := by
  have heads : h ∈ blocks.filter (·.isHead) := List.mem_filter.mpr ⟨member, head⟩
  have some : (blocks.filter (·.isHead)).isEmpty = false :=
    List.isEmpty_eq_false_iff.mpr (List.ne_nil_of_mem heads)
  simp only [validationChains, some, Bool.false_eq_true, if_false]

/-- For every snapshot, an execution chain that starts at a head is a prefix of that head's
validation chain. -/
theorem prefix_validationChain {chain : List Block} (member : chain ∈ executionChains blocks)
    {h : Block} (starts : h ∈ chain.head?) (head : h.isHead = true) :
    ∃ v ∈ validationChains blocks, v.head? = some h ∧ chain <+: v := by
  obtain ⟨b, inBlocks, seen, rfl⟩ := exists_walk_of_mem_executionChains blocks member
  obtain rfl : b = h := Option.some.inj (eq_of_mem_walk_head? _ starts)
  refine ⟨_, ?_, walk_head? _ List.not_mem_nil, walk_prefix _ _ _ _⟩
  rw [validationChains_of_head blocks inBlocks head]
  exact List.mem_map_of_mem (List.mem_filter.mpr ⟨inBlocks, head⟩)

end Snapshot

section WellFormed

/-! A well-formed snapshot with distinct ids: its graph's links are its blocks' links. -/

variable {blocks : List Block} (unique : (blocks.map (·.id)).Nodup)
include unique

theorem lookup_of_mem {b : Block} (member : b ∈ blocks) : lookup blocks b.id = some b := by
  rw [show blocks = (Graph.ofBlocks blocks).blocks from rfl,
    Graph.lookup_eq_block? (g := Graph.ofBlocks blocks) unique]
  exact (Graph.block?_eq_some_iff (g := Graph.ofBlocks blocks) unique).mpr ⟨member, rfl⟩

theorem walk_eq_chainFrom {b : Block} (member : b ∈ blocks) :
    (walk (lookup blocks) (steps blocks) (some b) []).1 = chainFrom blocks b.id := by
  rw [chainFrom, lookup_of_mem unique member]

theorem walk_ids_eq_chainIds {b : Block} (member : b ∈ blocks) :
    (walk (lookup blocks) (steps blocks) (some b) []).1.map (·.id) =
      (Graph.ofBlocks blocks).chainIds b.id := by
  rw [Graph.chainIds, (Graph.Valid.ofBlocks unique).chainFrom_eq, walk_eq_chainFrom unique member]
  rfl

variable (wf : (Graph.ofBlocks blocks).WellFormed)
include wf

theorem mem_walk_ids_iff {b : Block} (member : b ∈ blocks) {x : String} :
    x ∈ (walk (lookup blocks) (steps blocks) (some b) []).1.map (·.id) ↔
      ReflTransGen (Graph.ofBlocks blocks).Link b.id x := by
  rw [walk_ids_eq_chainIds unique member]
  exact (Graph.Valid.ofBlocks unique).mem_chainIds_iff wf (List.mem_map_of_mem member)

/-- Walking from heads, each with nothing below it visited yet, gives each head its whole
chain: the chains below two heads never meet. -/
theorem walkEach_heads {hs : List Block} (heads : ∀ h ∈ hs, h ∈ blocks ∧ h.isHead = true)
    (distinct : (hs.map (·.id)).Nodup) {visited : List String}
    (apart : ∀ x ∈ visited, ∀ h ∈ hs, ¬ ReflTransGen (Graph.ofBlocks blocks).Link h.id x) :
    (walkEach (lookup blocks) (steps blocks) hs visited).1 =
      hs.map fun h => (walk (lookup blocks) (steps blocks) (some h) []).1 := by
  induction hs generalizing visited with
  | nil => rfl
  | cons h rest ih =>
      obtain ⟨inBlocks, head⟩ := heads h List.mem_cons_self
      have fresh : h.id ∉ visited := fun seen => apart _ seen h List.mem_cons_self ReflTransGen.refl
      -- the walk from `h` meets nothing visited, so it is the whole chain below `h`
      have whole : (walk (lookup blocks) (steps blocks) (some h) visited).1 =
          (walk (lookup blocks) (steps blocks) (some h) []).1 := by
        rw [walk_eq_takeWhile _ (U := visited) (W := []) (by simp), List.takeWhile_eq_self_iff]
        intro b inChain
        have below := (mem_walk_ids_iff unique wf inBlocks).mp (List.mem_map_of_mem inChain)
        simpa using fun seen => apart b.id seen h List.mem_cons_self below
      have apart' : ∀ x ∈ (walk (lookup blocks) (steps blocks) (some h) visited).2, ∀ h' ∈ rest,
          ¬ ReflTransGen (Graph.ofBlocks blocks).Link h'.id x := by
        intro x seen h' later path'
        rw [walk_snd, whole, List.mem_append, List.mem_reverse] at seen
        rcases seen with below | old
        · -- below `h` and below `h'`: the two heads coincide, yet their ids differ
          have path := (mem_walk_ids_iff unique wf inBlocks).mp below
          obtain ⟨inBlocks', head'⟩ := heads h' (List.mem_cons_of_mem h later)
          have same := Graph.WellFormed.head_unique (g := Graph.ofBlocks blocks) unique wf
            inBlocks head inBlocks' head' path path'
          subst same
          exact (List.nodup_cons.mp distinct).1 (List.mem_map_of_mem later)
        · exact apart x old h' (List.mem_cons_of_mem h later) path'
      rw [walkEach_of_not_mem _ _ fresh, whole, List.map_cons,
        ih (fun h' later => heads h' (List.mem_cons_of_mem h later)) (List.nodup_cons.mp distinct).2 apart']

theorem executionChains_of_wellFormed :
    executionChains blocks =
      (blocks.filter (·.isHead)).map fun h => (walk (lookup blocks) (steps blocks) (some h) []).1 := by
  have first : (walkEach (lookup blocks) (steps blocks) (blocks.filter (·.isHead)) []).1 =
      (blocks.filter (·.isHead)).map fun h => (walk (lookup blocks) (steps blocks) (some h) []).1 :=
    walkEach_heads unique wf (fun h member => by simpa using List.mem_filter.mp member)
      ((List.filter_sublist.map _).nodup unique) (by simp)
  rw [executionChains_eq, first, walkEach_of_visited, List.append_nil]
  -- every block lies below a head, so the first pass visits every id
  intro b member
  obtain ⟨h, inBlocks, head, path⟩ :=
    Graph.WellFormed.exists_head (g := Graph.ofBlocks _) unique wf (x := b.id) (List.mem_map_of_mem member)
  rw [walkEach_snd, first, List.append_nil, List.mem_reverse, List.map_flatten, List.mem_flatten]
  have inHeads : h ∈ blocks.filter (·.isHead) := List.mem_filter.mpr ⟨inBlocks, head⟩
  refine ⟨_, List.mem_map.mpr ⟨_, List.mem_map.mpr ⟨h, inHeads, rfl⟩, rfl⟩, ?_⟩
  exact (mem_walk_ids_iff unique wf inBlocks).mpr path

theorem validationChains_of_wellFormed :
    validationChains blocks =
      (blocks.filter (·.isHead)).map fun h => (walk (lookup blocks) (steps blocks) (some h) []).1 := by
  cases blocks with
  | nil => rfl
  | cons b rest =>
      -- a snapshot with blocks has a head
      obtain ⟨h, inBlocks, head, -⟩ :=
        Graph.WellFormed.exists_head (g := Graph.ofBlocks _) unique wf (x := b.id)
          (List.mem_map_of_mem List.mem_cons_self)
      exact validationChains_of_head _ inBlocks head

end WellFormed

/-- On a well-formed snapshot with distinct ids, the validation chains and the execution
chains are both the chains from the heads in order, and they partition the snapshot. On
every snapshot, an execution chain that starts at a head is a prefix of that head's
validation chain. -/
theorem validationChains_eq_executionChains (blocks : List Block) :
    ((blocks.map (·.id)).Nodup → (Graph.ofBlocks blocks).WellFormed →
      validationChains blocks = executionChains blocks ∧
      executionChains blocks = (blocks.filter (·.isHead)).map (fun h => chainFrom blocks h.id) ∧
      (∀ chain ∈ executionChains blocks, chain ≠ []) ∧
      (executionChains blocks).flatten.Perm blocks) ∧
    ∀ chain ∈ executionChains blocks, ∀ h ∈ chain.head?, h.isHead = true →
      ∃ v ∈ validationChains blocks, v.head? = some h ∧ chain <+: v := by
  refine ⟨fun unique wf => ⟨?_, ?_, fun _ => ne_nil_of_mem_executionChains blocks,
    linearize_perm blocks unique⟩,
    fun _ member _ starts head => prefix_validationChain blocks member starts head⟩
  · rw [validationChains_of_wellFormed unique wf, executionChains_of_wellFormed unique wf]
  · rw [executionChains_of_wellFormed unique wf]
    exact List.map_congr_left fun h member =>
      walk_eq_chainFrom unique (List.mem_of_mem_filter member)

/-- A green flag with one block below it, and a block on its own: a well-formed snapshot
whose validation chains are its execution chains. -/
theorem validationChains_flagAndShoot :
    let blocks := [(Block.make "f" .greenFlag).withChild "u", (Block.make "u" .up).withParent "f",
      Block.make "s" .shoot]
    ((blocks.map (·.id)).Nodup ∧ (Graph.ofBlocks blocks).WellFormed) ∧
      validationChains blocks = executionChains blocks := by
  intro blocks
  have unique : (blocks.map (·.id)).Nodup := by decide
  -- the lookup by id, read off the three blocks
  have block? : ∀ x, (Graph.ofBlocks blocks).block? x =
      if x = "f" then some ((Block.make "f" .greenFlag).withChild "u")
      else if x = "u" then some ((Block.make "u" .up).withParent "f")
      else if x = "s" then some (Block.make "s" .shoot) else none := by
    intro x
    by_cases f : x = "f"
    · subst f; rfl
    by_cases u : x = "u"
    · subst u; rfl
    by_cases s : x = "s"
    · subst s; rfl
    simp only [blocks, Graph.block?, Graph.ofBlocks, Block.make, Block.withChild, Block.withParent,
      List.find?_cons, List.find?_nil, beq_eq_false_iff_ne.mpr (Ne.symm f),
      beq_eq_false_iff_ne.mpr (Ne.symm u), beq_eq_false_iff_ne.mpr (Ne.symm s), f, u, s, if_false]
  have wf : (Graph.ofBlocks blocks).WellFormed := by
    refine ⟨?_, ?_, ?_, ?_⟩
    · intro x p parent
      simp only [Graph.parentOf, block?] at parent
      split_ifs at parent <;>
        simp_all [blocks, Block.make, Block.withChild, Block.withParent, Graph.ids, Graph.ofBlocks]
    · intro x c child
      simp only [Graph.childOf, block?] at child
      split_ifs at child <;>
        simp_all [blocks, Block.make, Block.withChild, Block.withParent, Graph.ids, Graph.ofBlocks]
    · intro x y
      simp only [Graph.childOf, Graph.parentOf, block?]
      split_ifs <;> grind [Block.make, Block.withChild, Block.withParent]
    · -- the one link leaves the flag
      refine Graph.acyclic_of_measure (fun x => if x = "f" then 1 else 0) fun x y link => ?_
      simp only [Graph.Link, Graph.childOf, block?] at link
      split_ifs at link <;> grind [Block.make, Block.withChild, Block.withParent]
  exact ⟨⟨unique, wf⟩, ((validationChains_eq_executionChains blocks).1 unique wf).1⟩

end Chain

end BlockProgram
