import Mathlib.Data.List.Chain
import Mathlib.Logic.Relation
import BlockProgram.Proofs.Graph.Run

/-! # Well-formed graphs

A graph is well formed when every link names a block, a block's child link names a block
exactly when that block's parent link names it back, and no block reaches itself along
child links (`Graph.WellFormed`). This module collects what the edits need: how changing
one block changes the links by id, what the chain from a block of a well-formed graph is
(the block and everything below it), and why relinking a chain under a block off it closes
no loop.

That last fact carries `attach`. A measure decreases along every link after the move:
blocks that reach the new parent come first, then the moved chain, then the rest, and
within a group the blocks that reached more before come first
(`Graph.Valid.acyclic_of_relink`).
-/

namespace BlockProgram

namespace Graph

open Relation

/-- The block with id `x` has child link `y`. -/
def Link (g : Graph) (x y : String) : Prop := g.childOf x = some y

/-- What the editing interface keeps true of a graph: links name blocks, child and parent
links agree, and child links never lead back to where they started. -/
structure WellFormed (g : Graph) : Prop where
  parent_mem : ∀ x p, g.parentOf x = some p → p ∈ g.ids
  child_mem : ∀ x c, g.childOf x = some c → c ∈ g.ids
  linked : ∀ x y, g.childOf x = some y ↔ g.parentOf y = some x
  acyclic : ∀ x, ¬ TransGen g.Link x x

theorem wellFormed_empty : empty.WellFormed := by
  have none : ∀ x, empty.block? x = none := fun _ => rfl
  refine ⟨?_, ?_, ?_, ?_⟩
  · simp [parentOf, none]
  · simp [childOf, none]
  · simp [parentOf, childOf, none]
  · intro x loop
    obtain ⟨y, link, -⟩ := TransGen.head'_iff.mp loop
    simp [Link, childOf, none] at link

/-- A relation along which a measure strictly decreases has no loop. -/
theorem acyclic_of_measure {R : String → String → Prop} (μ : String → Nat)
    (decreasing : ∀ x y, R x y → μ y < μ x) : ∀ x, ¬ TransGen R x x := by
  have below : ∀ x y, TransGen R x y → μ y < μ x := by
    intro x y path
    induction path with
    | single step => exact decreasing _ _ step
    | tail _ step ih => exact (decreasing _ _ step).trans ih
  exact fun x loop => (below x x loop).false

theorem exists_block?_of_mem {g : Graph} {id : String} (member : id ∈ g.ids) :
    ∃ b, g.block? id = some b :=
  Option.ne_none_iff_exists'.mp (mt block?_eq_none_iff.mp (not_not_intro member))

theorem childOf_of_mem {g : Graph} (unique : g.ids.Nodup) {b : Block} (member : b ∈ g.blocks) :
    g.childOf b.id = b.child := by
  rw [childOf, (block?_eq_some_iff unique).mpr ⟨member, rfl⟩, Option.bind_some]

theorem parentOf_of_mem {g : Graph} (unique : g.ids.Nodup) {b : Block} (member : b ∈ g.blocks) :
    g.parentOf b.id = b.parent := by
  rw [parentOf, (block?_eq_some_iff unique).mpr ⟨member, rfl⟩, Option.bind_some]

theorem mem_ids_of_childOf {g : Graph} {x y : String} (link : g.childOf x = some y) : x ∈ g.ids := by
  by_contra missing
  simp [childOf, block?_eq_none_iff.mpr missing] at link

theorem mem_ids_of_parentOf {g : Graph} {x y : String} (link : g.parentOf y = some x) :
    y ∈ g.ids := by
  by_contra missing
  simp [parentOf, block?_eq_none_iff.mpr missing] at link

/-- Well-formedness reads only the ids and the links. -/
theorem WellFormed.of_links {g g' : Graph} (wf : g.WellFormed) (ids : ∀ x ∈ g.ids, x ∈ g'.ids)
    (child : ∀ x, g'.childOf x = g.childOf x) (parent : ∀ x, g'.parentOf x = g.parentOf x) :
    g'.WellFormed where
  parent_mem x p link := ids p (wf.parent_mem x p (by rwa [← parent]))
  child_mem x c link := ids c (wf.child_mem x c (by rwa [← child]))
  linked x y := by rw [child, parent]; exact wf.linked x y
  acyclic x := by
    have same : g'.Link = g.Link := by
      funext x y
      simp only [Link, child]
    rw [same]
    exact wf.acyclic x

theorem WellFormed.unique_parent {g : Graph} (wf : g.WellFormed) {x x' y : String}
    (link : g.Link x y) (link' : g.Link x' y) : x = x' :=
  Option.some.inj (((wf.linked x y).mp link).symm.trans ((wf.linked x' y).mp link'))

/-- A block without a parent is no block's child. -/
theorem WellFormed.childOf_ne_of_orphan {g : Graph} (wf : g.WellFormed) {c x : String}
    (orphan : g.parentOf c = none) : g.childOf x ≠ some c :=
  fun link => by simp [(wf.linked x c).mp link] at orphan

/-- A block's parent is the only block that has it as child. -/
theorem WellFormed.childOf_eq_iff {g : Graph} (wf : g.WellFormed) {c q x : String}
    (parent : g.parentOf c = some q) : g.childOf x = some c ↔ x = q := by
  rw [wf.linked, parent, Option.some_inj, eq_comm]

theorem WellFormed.acyclic_of_sub {g g' : Graph} (wf : g.WellFormed)
    (sub : ∀ x y, g'.Link x y → g.Link x y) : ∀ x, ¬ TransGen g'.Link x x :=
  fun x loop => wf.acyclic x (TransGen.mono sub x x loop)

section Update

/-! How changing one block's links changes the links by id. -/

variable {g : Graph} {id : String}

theorem block?_update_eq {f : Block → Block} (keeps : ∀ b, (f b).id = b.id) (x : String) :
    (g.update id f).block? x = if x = id then (g.block? x).map f else g.block? x := by
  rw [block?_update keeps]
  cases found : g.block? x with
  | none => simp
  | some b =>
      have named := id_of_block? found
      by_cases same : x = id <;> simp [named, same]

/-- A link of the block `id` read after `f` sets it to `o`. -/
theorem link_update_of_sets {f : Block → Block} (keeps : ∀ b, (f b).id = b.id)
    (member : id ∈ g.ids) {field : Block → Option String} {o : Option String}
    (sets : ∀ b, field (f b) = o) (x : String) :
    ((g.update id f).block? x).bind field = if x = id then o else (g.block? x).bind field := by
  obtain ⟨b, found⟩ := exists_block?_of_mem member
  rw [block?_update_eq keeps]
  split
  · rename_i same
    subst same
    simp [found, sets]
  · rfl

/-- A link that `f` leaves alone reads the same after it. -/
theorem link_update_of_keeps {f : Block → Block} (keeps : ∀ b, (f b).id = b.id)
    {field : Block → Option String} (same : ∀ b, field (f b) = field b) (x : String) :
    ((g.update id f).block? x).bind field = (g.block? x).bind field := by
  rw [block?_update_eq keeps]
  split
  · cases g.block? x <;> simp [same]
  · rfl

@[simp] theorem childOf_setChild (member : id ∈ g.ids) (o : Option String) (x : String) :
    (g.update id fun b => { b with child := o }).childOf x = if x = id then o else g.childOf x := by
  unfold childOf
  exact link_update_of_sets (by intro _; rfl) member (by intro _; rfl) x

@[simp] theorem parentOf_setChild (o : Option String) (x : String) :
    (g.update id fun b => { b with child := o }).parentOf x = g.parentOf x := by
  unfold parentOf
  exact link_update_of_keeps (by intro _; rfl) (by intro _; rfl) x

@[simp] theorem parentOf_setParent (member : id ∈ g.ids) (o : Option String) (x : String) :
    (g.update id fun b => { b with parent := o }).parentOf x = if x = id then o else g.parentOf x := by
  unfold parentOf
  exact link_update_of_sets (by intro _; rfl) member (by intro _; rfl) x

@[simp] theorem childOf_setParent (o : Option String) (x : String) :
    (g.update id fun b => { b with parent := o }).childOf x = g.childOf x := by
  unfold childOf
  exact link_update_of_keeps (by intro _; rfl) (by intro _; rfl) x

@[simp] theorem childOf_setValue (o : Option UInt32) (x : String) :
    (g.update id fun b => { b with value := o }).childOf x = g.childOf x := by
  unfold childOf
  exact link_update_of_keeps (by intro _; rfl) (by intro _; rfl) x

@[simp] theorem parentOf_setValue (o : Option UInt32) (x : String) :
    (g.update id fun b => { b with value := o }).parentOf x = g.parentOf x := by
  unfold parentOf
  exact link_update_of_keeps (by intro _; rfl) (by intro _; rfl) x

@[simp] theorem ids_setChild (o : Option String) :
    (g.update id fun b => { b with child := o }).ids = g.ids :=
  ids_update fun _ => rfl

@[simp] theorem ids_setParent (o : Option String) :
    (g.update id fun b => { b with parent := o }).ids = g.ids :=
  ids_update fun _ => rfl

@[simp] theorem ids_setValue (o : Option UInt32) :
    (g.update id fun b => { b with value := o }).ids = g.ids :=
  ids_update fun _ => rfl

end Update

section MovedChain

/-! The chain from a block of a valid well-formed graph is the block and everything below
it. -/

namespace Valid

variable {g : Graph} (valid : g.Valid)
include valid

theorem chainIds_head? {c : String} (member : c ∈ g.ids) : (g.chainIds c).head? = some c := by
  obtain ⟨b, found⟩ := exists_block?_of_mem member
  have start : g.get? c = some b := by rw [valid.get?_eq]; exact found
  simp [chainIds, chainFrom, Chain.steps, start, Chain.walk_of_not_mem, id_of_block? found]

theorem mem_chainIds_self {c : String} (member : c ∈ g.ids) : c ∈ g.chainIds c :=
  List.mem_of_mem_head? (valid.chainIds_head? member)

theorem exists_getLast?_chainIds {c : String} (member : c ∈ g.ids) :
    ∃ tail, (g.chainIds c).getLast? = some tail :=
  Option.isSome_iff_exists.mp
    (List.getLast?_isSome.mpr (List.ne_nil_of_mem (valid.mem_chainIds_self member)))

theorem chainIds_isChain (c : String) : (g.chainIds c).IsChain g.Link := by
  have chain := Chain.walk_isChain g.get? (Chain.steps g.blocks) (g.get? c) []
  rw [chainIds, chainFrom, List.isChain_map]
  refine chain.imp_of_mem_imp fun a b inA _ step => ?_
  -- each block of the chain is a block of the graph, so its child link is its id's
  obtain ⟨y, child, found⟩ := Option.bind_eq_some_iff.mp step
  have named : b.id = y := ((valid.get?_eq_some_iff).mp found).2
  show g.childOf a.id = some b.id
  rw [childOf_of_mem valid.nodup (valid.mem_chainFrom inA), child, named]

variable (wf : g.WellFormed)
include wf

theorem chainIds_closed {c x y : String} (inside : x ∈ g.chainIds c) (link : g.Link x y) :
    y ∈ g.chainIds c := by
  obtain ⟨b, inChain, rfl⟩ := List.mem_map.mp inside
  obtain ⟨b', found⟩ := exists_block?_of_mem (wf.child_mem _ _ link)
  have child : b.child = some y := by
    rw [← childOf_of_mem valid.nodup (valid.mem_chainFrom inChain)]
    exact link
  have next : b' ∈ b.child.bind g.get? := by
    rw [child, Option.bind_some, valid.get?_eq, found]
    rfl
  have closedIds : ∀ id b, g.get? id = some b → b.id ∈ g.ids.toFinset := fun _ b found =>
    List.mem_toFinset.mpr (List.mem_map_of_mem ((valid.get?_eq_some_iff).mp found).1)
  have startIds : ∀ b ∈ g.get? c, b.id ∈ g.ids.toFinset := fun b found => closedIds c b found
  rw [← id_of_block? found]
  exact Chain.walk_closed g.get? closedIds startIds (Chain.steps_fuel g.blocks) inChain b' next

theorem mem_chainIds_iff {c y : String} (member : c ∈ g.ids) :
    y ∈ g.chainIds c ↔ ReflTransGen g.Link c y := by
  constructor
  · intro inside
    refine (valid.chainIds_isChain c).induction (ReflTransGen g.Link c ·) _
      (fun _ _ link path => path.tail link) (fun nonempty => ?_) y inside
    rw [Option.some.inj ((List.head?_eq_some_head nonempty).symm.trans (valid.chainIds_head? member))]
  · intro path
    induction path with
    | refl => exact valid.mem_chainIds_self member
    | tail _ link ih => exact valid.chainIds_closed wf ih link

/-- A block of the chain other than its first has its parent in the chain too. -/
theorem mem_chainIds_of_link {c x y : String} (member : c ∈ g.ids) (inside : y ∈ g.chainIds c)
    (other : y ≠ c) (link : g.Link x y) : x ∈ g.chainIds c := by
  rcases ((valid.mem_chainIds_iff wf member).mp inside).cases_tail with same | ⟨z, path, last⟩
  · exact absurd same other
  · rw [wf.unique_parent link last]
    exact (valid.mem_chainIds_iff wf member).mpr path

theorem childOf_last {c tail : String} (last : (g.chainIds c).getLast? = some tail) :
    g.childOf tail = none := by
  cases next : g.childOf tail with
  | none => rfl
  | some y =>
      -- a child of the last block would lie on the chain, and lead back to the last block
      have inside : tail ∈ g.chainIds c := List.mem_of_getLast? last
      have nonempty : g.chainIds c ≠ [] := List.ne_nil_of_mem inside
      have isLast : (g.chainIds c).getLast nonempty = tail :=
        Option.some.inj ((List.getLast?_eq_some_getLast nonempty).symm.trans last)
      have back : ReflTransGen g.Link y tail :=
        (valid.chainIds_isChain c).backwards_induction (ReflTransGen g.Link · tail) _
          (fun _ _ link path => path.head link) (fun _ => isLast ▸ ReflTransGen.refl) y
          (valid.chainIds_closed wf inside next)
      exact absurd (TransGen.head' (show g.Link tail y from next) back) (wf.acyclic tail)

end Valid

end MovedChain

/-- In a well-formed graph, how many blocks a block reaches falls along every link. -/
theorem WellFormed.exists_rank {g : Graph} (wf : g.WellFormed) :
    ∃ rank : String → Nat,
      (∀ x y, g.Link x y → rank y < rank x) ∧ ∀ x, rank x ≤ g.ids.length := by
  classical
  -- how many blocks a block reaches: fewer for its child, which reaches less and not itself
  refine ⟨fun x => (g.ids.toFinset.filter (TransGen g.Link x ·)).card, fun x y link => ?_,
    fun x => (Finset.card_filter_le _ _).trans (List.toFinset_card_le _)⟩
  apply Finset.card_lt_card
  refine (Finset.ssubset_iff_of_subset fun z => ?_).mpr ⟨y, ?_, ?_⟩
  · simp only [Finset.mem_filter]
    exact fun ⟨member, path⟩ => ⟨member, TransGen.head link path⟩
  · simp only [Finset.mem_filter, List.mem_toFinset]
    exact ⟨wf.child_mem x y link, TransGen.single link⟩
  · simp only [Finset.mem_filter, not_and]
    exact fun _ => wf.acyclic y

/-- Relinking the chain from `c` under `p`, a block off that chain, closes no loop: the
links afterwards are the link from `p` to `c`, links from the chain to blocks off it that
do not reach `p`, and old links that neither leave `p` nor enter `c`. -/
theorem Valid.acyclic_of_relink {g : Graph} (valid : g.Valid) (wf : g.WellFormed) {c p : String}
    (member : c ∈ g.ids) (off : p ∉ g.chainIds c) {S : String → String → Prop}
    (edges : ∀ x y, S x y → (x = p ∧ y = c) ∨
      (x ∈ g.chainIds c ∧ y ∉ g.chainIds c ∧ ¬ ReflTransGen g.Link y p) ∨
      (g.Link x y ∧ x ≠ p ∧ y ≠ c)) :
    ∀ x, ¬ TransGen S x x := by
  classical
  obtain ⟨rank, lt, le⟩ := wf.exists_rank
  have above : ∀ x ∈ g.chainIds c, ¬ ReflTransGen g.Link x p := fun x inside path =>
    off ((valid.mem_chainIds_iff wf member).mpr
      (((valid.mem_chainIds_iff wf member).mp inside).trans path))
  -- blocks that reach `p` come first, then the moved chain, then the rest
  let level : String → Nat := fun x =>
    if ReflTransGen g.Link x p then 2 else if x ∈ g.chainIds c then 1 else 0
  refine acyclic_of_measure (fun x => level x * (g.ids.length + 1) + rank x) fun x y step => ?_
  show level y * (g.ids.length + 1) + rank y < level x * (g.ids.length + 1) + rank x
  have bound := le y
  rcases edges x y step with ⟨rfl, rfl⟩ | ⟨inside, outside, below⟩ | ⟨link, notP, notC⟩
  · -- the new link from `p` to `c`
    have hx : level x = 2 := if_pos ReflTransGen.refl
    have hy : level y = 1 := by
      simp [level, above y (valid.mem_chainIds_self member), valid.mem_chainIds_self member]
    rw [hx, hy]
    omega
  · -- a new link out of the moved chain
    have hx : level x = 1 := by simp [level, above x inside, inside]
    have hy : level y = 0 := by simp [level, below, outside]
    rw [hx, hy]
    omega
  · -- an old link keeps its level, and the rank falls along it
    have fewer := lt x y link
    by_cases reaches : ReflTransGen g.Link x p
    · have hy : ReflTransGen g.Link y p := by
        rcases reaches.cases_head with same | ⟨z, first, rest⟩
        · exact absurd same notP
        · rwa [Option.some.inj (link.symm.trans first)]
      have hx : level x = 2 := if_pos reaches
      have hy' : level y = 2 := if_pos hy
      rw [hx, hy']
      omega
    · have notY : ¬ ReflTransGen g.Link y p := fun path => reaches (path.head link)
      by_cases inside : x ∈ g.chainIds c
      · have hy : y ∈ g.chainIds c := valid.chainIds_closed wf inside link
        have hx : level x = 1 := by simp [level, reaches, inside]
        have hy' : level y = 1 := by simp [level, notY, hy]
        rw [hx, hy']
        omega
      · have hy : y ∉ g.chainIds c := fun hy =>
          inside (valid.mem_chainIds_of_link wf member hy notC link)
        have hx : level x = 0 := by simp [level, reaches, inside]
        have hy' : level y = 0 := by simp [level, notY, hy]
        rw [hx, hy']
        omega


end Graph

end BlockProgram
