import BlockProgram.Proofs.Graph.Run

/-! # Rebuilding child links from parent links

`Graph.normalizeLinks` reads only the parent links: each block's child becomes the last block
in graph order that names it as parent (`Graph.LastClaimant`), or none, and nothing else
changes. This holds of every graph, whatever its links. Three things follow: a second run
changes nothing, since the parent links it reads are the same; on a valid graph every child
link it leaves is answered by that child's parent link; and a graph whose child links are
already exactly the answered ones is left as it is.
-/

namespace BlockProgram

namespace Graph

/-- `c` is the id of the last block of `blocks` whose parent link names `x`. -/
def LastClaimant (blocks : List Block) (x c : String) : Prop :=
  ∃ pre b post, blocks = pre ++ b :: post ∧ b.parent = some x ∧ b.id = c ∧
    ∀ a ∈ post, a.parent ≠ some x

variable {g : Graph}

theorem lastChildOf_eq_some_iff {x c : String} :
    g.lastChildOf x = some c ↔ LastClaimant g.blocks x c := by
  simp only [lastChildOf, Option.map_eq_some_iff]
  constructor
  · rintro ⟨b, last, rfl⟩
    -- the claimants end with `b`, so `b` claims `x` and no later block does
    obtain ⟨front, split⟩ := List.getLast?_eq_some_iff.mp last
    obtain ⟨l₁, l₂, whole, -, after⟩ := List.filter_eq_append_iff.mp split
    obtain ⟨m, post, rest, -, claims, none⟩ := List.filter_eq_cons_iff.mp after
    refine ⟨l₁ ++ m, b, post, by simp [whole, rest], by simpa using claims, rfl, fun a member => ?_⟩
    have : a ∉ post.filter (·.parent == some x) := by simp [none]
    simpa [member] using this
  · rintro ⟨pre, b, post, split, claims, rfl, later⟩
    have none : post.filter (·.parent == some x) = [] :=
      List.filter_eq_nil_iff.mpr fun a member => by simpa using later a member
    exact ⟨b, by simp [split, claims, none], rfl⟩

theorem lastChildOf_eq_none_iff {x : String} :
    g.lastChildOf x = none ↔ ∀ b ∈ g.blocks, b.parent ≠ some x := by
  simp [lastChildOf]

@[simp] theorem index_normalizeLinks : g.normalizeLinks.index = g.index := rfl

theorem normalizeLinks_blocks :
    g.normalizeLinks.blocks = g.blocks.map fun b => { b with child := g.lastChildOf b.id } := rfl

/-- The parent links a second run reads are those the first read. -/
@[simp] theorem lastChildOf_normalizeLinks (x : String) :
    g.normalizeLinks.lastChildOf x = g.lastChildOf x := by
  simp only [lastChildOf, normalizeLinks_blocks, List.filter_map, List.getLast?_map,
    Option.map_map]
  rfl

theorem normalizeLinks_normalizeLinks : g.normalizeLinks.normalizeLinks = g.normalizeLinks := by
  conv_lhs => rw [normalizeLinks]
  simp only [lastChildOf_normalizeLinks, normalizeLinks_blocks, List.map_map]
  rfl

/-- Each block keeps every field but its child link, which names the last block claiming it
as parent, or nothing when none does. -/
theorem forall₂_normalizeLinks :
    List.Forall₂ (fun b b' => b' = { b with child := b'.child } ∧
        (∀ c, b'.child = some c ↔ LastClaimant g.blocks b.id c) ∧
        (b'.child = none ↔ ∀ a ∈ g.blocks, a.parent ≠ some b.id))
      g.blocks g.normalizeLinks.blocks := by
  rw [normalizeLinks_blocks, List.forall₂_map_right_iff, List.forall₂_same]
  intro b _
  exact ⟨rfl, fun c => lastChildOf_eq_some_iff, lastChildOf_eq_none_iff⟩

/-- On a valid graph every child link the rebuild leaves names a block, found through the
index, whose parent link names the block back. -/
theorem Valid.normalizeLinks_answered (valid : g.Valid) {a : Block}
    (member : a ∈ g.normalizeLinks.blocks) {c : String} (child : a.child = some c) :
    ∃ b, g.normalizeLinks.get? c = some b ∧ b.parent = some a.id := by
  rw [normalizeLinks_blocks, List.mem_map] at member
  obtain ⟨a₀, -, rfl⟩ := member
  obtain ⟨pre, b, post, split, claims, rfl, -⟩ := lastChildOf_eq_some_iff.mp child
  have inBlocks : b ∈ g.blocks := by simp [split]
  refine ⟨{ b with child := g.lastChildOf b.id }, ?_, claims⟩
  rw [valid.normalizeLinks.get?_eq_some_iff, normalizeLinks_blocks]
  exact ⟨List.mem_map_of_mem inBlocks, rfl⟩

/-- A graph whose child links name exactly the blocks that name them back as parent is a
fixed point of the rebuild. -/
theorem normalizeLinks_eq_self
    (answered : ∀ a ∈ g.blocks, ∀ c, a.child = some c ↔ ∃ b ∈ g.blocks, b.id = c ∧ b.parent = some a.id) :
    g.normalizeLinks = g := by
  have same : ∀ a ∈ g.blocks, g.lastChildOf a.id = a.child := by
    intro a member
    cases last : g.lastChildOf a.id with
    | none =>
        -- no block claims `a`, so `a` links nowhere
        cases child : a.child with
        | none => rfl
        | some c =>
            obtain ⟨b, inBlocks, -, claims⟩ := (answered a member c).mp child
            exact absurd claims (lastChildOf_eq_none_iff.mp last b inBlocks)
    | some c =>
        obtain ⟨pre, b, post, split, claims, rfl, -⟩ := lastChildOf_eq_some_iff.mp last
        exact ((answered a member b.id).mpr ⟨b, by simp [split], rfl, claims⟩).symm
  have blocks : g.normalizeLinks.blocks = g.blocks := by
    rw [normalizeLinks_blocks]
    refine (List.map_congr_left fun a member => ?_).trans (List.map_id _)
    rw [same a member, id_eq]
  cases g
  simp only [normalizeLinks] at blocks ⊢
  rw [blocks]

/-- For every graph, whatever its links: rebuilding the child links keeps the index and, block
by block, every field but the child link, which names the last block in graph order whose
parent link names the block, or nothing when there is none. A second rebuild changes nothing;
on a valid graph every child link left is answered by the child's parent link; and a graph
whose child links name exactly the blocks naming them back is left as it is. -/
theorem normalizeLinks_rebuilds_from_parents (g : Graph) :
    g.normalizeLinks.index = g.index ∧
    List.Forall₂ (fun b b' => b' = { b with child := b'.child } ∧
        (∀ c, b'.child = some c ↔ LastClaimant g.blocks b.id c) ∧
        (b'.child = none ↔ ∀ a ∈ g.blocks, a.parent ≠ some b.id))
      g.blocks g.normalizeLinks.blocks ∧
    g.normalizeLinks.normalizeLinks = g.normalizeLinks ∧
    (g.Valid → ∀ a ∈ g.normalizeLinks.blocks, ∀ c, a.child = some c →
      ∃ b, g.normalizeLinks.get? c = some b ∧ b.parent = some a.id) ∧
    ((∀ a ∈ g.blocks, ∀ c, a.child = some c ↔ ∃ b ∈ g.blocks, b.id = c ∧ b.parent = some a.id) →
      g.normalizeLinks = g) :=
  ⟨rfl, forall₂_normalizeLinks, normalizeLinks_normalizeLinks,
    fun valid _ member _ child => valid.normalizeLinks_answered member child,
    normalizeLinks_eq_self⟩

/-- A stale child link and a chain known only from parent links: the rebuild links `a` to
`b` and `b` to `c`, every link it leaves is answered, and the rebuilt graph is a fixed
point. -/
theorem normalizeLinks_repairs_stale_link :
    let g := Graph.ofBlocks [(Block.make "a" .up).withChild "stale",
      (Block.make "b" .down).withParent "a", (Block.make "c" .delay).withParent "b"]
    g.Valid ∧
      (∀ a ∈ g.normalizeLinks.blocks, ∀ c, a.child = some c →
        ∃ b, g.normalizeLinks.get? c = some b ∧ b.parent = some a.id) ∧
      (∀ a ∈ g.normalizeLinks.blocks, ∀ c, a.child = some c ↔
        ∃ b ∈ g.normalizeLinks.blocks, b.id = c ∧ b.parent = some a.id) ∧
      g.normalizeLinks.normalizeLinks = g.normalizeLinks := by
  intro g
  have valid : g.Valid := Valid.ofBlocks (by decide)
  have rebuilt : g.normalizeLinks.blocks = [(Block.make "a" .up).withChild "b",
      ((Block.make "b" .down).withParent "a").withChild "c",
      (Block.make "c" .delay).withParent "b"] := rfl
  have answered : ∀ a ∈ g.normalizeLinks.blocks, ∀ c, a.child = some c ↔
      ∃ b ∈ g.normalizeLinks.blocks, b.id = c ∧ b.parent = some a.id := by
    rw [rebuilt]
    intro a member c
    simp only [List.mem_cons, List.not_mem_nil, or_false] at member
    rcases member with rfl | rfl | rfl <;>
      simp [Block.make, Block.withChild, Block.withParent, eq_comm]
  exact ⟨valid, (normalizeLinks_rebuilds_from_parents g).2.2.2.1 valid, answered,
    (normalizeLinks_rebuilds_from_parents g.normalizeLinks).2.2.2.2 answered⟩

end Graph

end BlockProgram
