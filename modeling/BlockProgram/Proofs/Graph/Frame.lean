import BlockProgram.Proofs.Graph.Splice

/-! # What the edits change

Each edit of a graph is pinned down by what it leaves alone, on every valid graph and
whatever its links: dangling, unanswered by a parent link, or looping.

* `detach`, `setDelayValue` and `removeChain` change exactly the fields and blocks they
  name (`Graph.Valid.detach_blocks`, `Graph.Valid.setDelayValue_blocks`,
  `Graph.Valid.removeChain_blocks`), and `removeChain` returns the blocks of the chain in
  graph order.
* `attach c p` relinks at most five blocks: `c`, `p`, the block `c` hung from, the last
  block of the chain from `c`, and the block it displaces from under `p`
  (`Graph.Relinked`, `Graph.Valid.apply_attach_relinked`).
* Both facts together: `Graph.Valid.edits_change_only_what_they_name`.
* Attaching twice is attaching once (`Graph.Valid.attach_twice_eq_once`): after a successful
  attach `p` links to `c` and `c` back to `p`, so a second call either meets a loop or
  clears those two links and sets them again (`Graph.Valid.attached_eq_self`).
-/

namespace BlockProgram

namespace Block

/-- The block with both links dropped: what an edit of the links leaves alone. -/
def withoutLinks (b : Block) : Block := { b with parent := none, child := none }

/-- A block's id, type and canvas position. -/
def shape (b : Block) : String × BlockType × Float × Float := (b.id, b.type, b.x, b.y)

@[simp] theorem id_withoutLinks (b : Block) : b.withoutLinks.id = b.id := rfl

@[simp] theorem shape_withoutLinks (b : Block) : b.withoutLinks.shape = b.shape := rfl

end Block

namespace Graph

section Update

/-! Changes of single blocks, composed. -/

variable {g : Graph}

theorem update_blocks (id : String) (f : Block → Block) :
    (g.update id f).blocks = g.blocks.map fun b => if b.id = id then f b else b := rfl

/-- Two changes of one block in a row are one change. -/
theorem update_update {id : String} {f k : Block → Block} (keeps : ∀ b, (f b).id = b.id) :
    (g.update id f).update id k = g.update id (k ∘ f) := by
  simp only [update, List.map_map, Graph.mk.injEq, and_true]
  refine List.map_congr_left fun b _ => ?_
  by_cases same : b.id = id <;> simp [same, keeps]

/-- Changes of two different blocks commute. -/
theorem update_comm {id id' : String} (distinct : id ≠ id') {f k : Block → Block}
    (keeps : ∀ b, (f b).id = b.id) (keeps' : ∀ b, (k b).id = b.id) :
    (g.update id f).update id' k = (g.update id' k).update id f := by
  simp only [update, List.map_map, Graph.mk.injEq, and_true]
  refine List.map_congr_left fun b _ => ?_
  by_cases same : b.id = id
  · simp [same, distinct, keeps]
  · by_cases same' : b.id = id' <;> simp [same, same', Ne.symm distinct, keeps']

/-- A change that keeps the block it changes changes nothing. -/
theorem update_eq_self {id : String} {f : Block → Block}
    (fixes : ∀ b ∈ g.blocks, b.id = id → f b = b) : g.update id f = g := by
  have same : (g.blocks.map fun b => if b.id = id then f b else b) = g.blocks := by
    refine (List.map_congr_left fun b member => ?_).trans (List.map_id _)
    by_cases named : b.id = id
    · rw [if_pos named, fixes b member named, id_eq]
    · rw [if_neg named, id_eq]
  simp only [update, same]

end Update

/-! ### Edits that change what they name -/

section Exact

variable {g : Graph}

theorem parentOf_of_not_mem {id : String} (missing : id ∉ g.ids) : g.parentOf id = none := by
  rw [parentOf, block?_eq_none_iff.mpr missing, Option.bind_none]

theorem Valid.detached_blocks (valid : g.Valid) (c : String) :
    (g.detached c).blocks = g.blocks.map fun b =>
      { b with parent := if b.id = c then none else b.parent,
               child := if g.parentOf c = some b.id ∧ b.child = some c then none else b.child } := by
  unfold Graph.detached
  cases parent : g.parentOf c with
  | none =>
      simp only [Graph.unlinked, update_blocks]
      refine List.map_congr_left fun b _ => ?_
      rcases b with ⟨id, type, value, x, y, up, down⟩
      grind
  | some q =>
      -- the block `c` names as parent is unlinked exactly when it links to `c`
      have named : ∀ b ∈ g.blocks, b.id = q → (b.child = some c ↔ g.childOf q = some c) := by
        intro b member same
        rw [← same, childOf_of_mem valid.nodup member]
      simp only [Graph.unlinked, childOf_setParent]
      split
      · rw [update_blocks, update_blocks, List.map_map]
        refine List.map_congr_left fun b member => ?_
        have child := named b member
        rcases b with ⟨id, type, value, x, y, up, down⟩
        grind
      · rw [update_blocks]
        refine List.map_congr_left fun b member => ?_
        have child := named b member
        rcases b with ⟨id, type, value, x, y, up, down⟩
        grind

/-- Detaching an id without a block changes nothing, so `detach` always leaves what
`detached` describes. -/
theorem Valid.apply_detach_eq (valid : g.Valid) (id : String) :
    (Op.detach id).apply g = g.detached id := by
  rw [valid.apply_detach]
  split
  · rfl
  · rename_i missing
    rw [Graph.detached, parentOf_of_not_mem missing, Graph.unlinked, update_eq_self]
    exact fun b member named => absurd (named ▸ List.mem_map_of_mem member) missing

/-- `detach id` clears the parent link of `id` and the child link of its parent when that
link names `id`, and changes nothing else. -/
theorem Valid.detach_blocks (valid : g.Valid) (id : String) :
    ((Op.detach id).apply g).blocks = g.blocks.map fun b =>
      { b with parent := if b.id = id then none else b.parent,
               child := if g.parentOf id = some b.id ∧ b.child = some id then none else b.child } := by
  rw [valid.apply_detach_eq, valid.detached_blocks]

/-- `setDelayValue id v` stores the clamped value in the block `id` when it is a delay, and
changes nothing else. -/
theorem Valid.setDelayValue_blocks (valid : g.Valid) (id : String) (v : UInt32) :
    ((Op.setDelayValue id v).apply g).blocks = g.blocks.map fun b =>
      if b.id = id ∧ b.type.isDelay then { b with value := some (clampDelay v) } else b := by
  -- the block with id `id`, if any, is the one lookup finds
  have found : ∀ b ∈ g.blocks, b.id = id → g.block? id = some b := fun b member named =>
    (block?_eq_some_iff valid.nodup).mpr ⟨member, named⟩
  rw [valid.apply_setDelayValue]
  split
  · rename_i delay
    rw [update_blocks]
    refine List.map_congr_left fun b member => ?_
    by_cases named : b.id = id
    · have isDelay : b.type.isDelay = true := by simpa [found b member named] using delay
      simp [named, isDelay]
    · simp [named]
  · rename_i notDelay
    refine ((List.map_congr_left fun b member => ?_).trans (List.map_id _)).symm
    by_cases named : b.id = id
    · have notIsDelay : ¬ b.type.isDelay = true := by simpa [found b member named] using notDelay
      simp [named, notIsDelay]
    · simp [named]

theorem Valid.chainIds_eq_nil (valid : g.Valid) {id : String} (missing : id ∉ g.ids) :
    g.chainIds id = [] := by
  rw [chainIds, chainFrom, valid.get?_eq, block?_eq_none_iff.mpr missing, Chain.steps,
    Chain.walk_none, List.map_nil]

/-- `removeChain id` keeps the blocks off the chain from `id` in their order, and clears the
child link of the former parent of `id` when it is kept and still names `id`. -/
theorem Valid.removeChain_blocks (valid : g.Valid) (id : String) :
    ((Op.removeChain id).apply g).blocks =
      (g.blocks.filter fun b => b.id ∉ g.chainIds id).map fun b =>
        if g.parentOf id = some b.id ∧ b.child = some id then { b with child := none } else b := by
  rw [valid.apply_removeChain]
  split
  · have kept : (g.blocks.filter fun b => !(g.chainIds id).contains b.id) =
        g.blocks.filter fun b => b.id ∉ g.chainIds id :=
      List.filter_congr fun b _ => by simp
    unfold Graph.removedChain
    cases parent : g.parentOf id with
    | none =>
        simp only [Graph.unlinked, Graph.ofBlocks, kept]
        simp
    | some q =>
        -- a kept block named `q` links as it did
        have named : ∀ b ∈ g.blocks.filter (fun b => b.id ∉ g.chainIds id), b.id = q →
            (b.child = some id ↔
              (Graph.ofBlocks (g.blocks.filter fun b => !(g.chainIds id).contains b.id)).childOf q =
                some id) := by
          intro b member same
          obtain ⟨inGraph, outside⟩ := List.mem_filter.mp member
          have outside : q ∉ g.chainIds id := by simpa [← same] using outside
          rw [childOf, block?_kept, if_neg outside, ← childOf, ← same,
            childOf_of_mem valid.nodup inGraph]
        simp only [Graph.unlinked]
        split
        · rw [update_blocks, Graph.ofBlocks, kept]
          refine List.map_congr_left fun b member => ?_
          have child := named b member
          rcases b with ⟨id, type, value, x, y, up, down⟩
          grind
        · rw [Graph.ofBlocks, kept]
          refine ((List.map_congr_left fun b member => ?_).trans (List.map_id _)).symm
          have child := named b member
          rcases b with ⟨id, type, value, x, y, up, down⟩
          grind
  · rename_i missing
    simp [valid.chainIds_eq_nil missing, parentOf_of_not_mem missing]

/-- What `removeChain id` returns: the blocks of the chain from `id`, in graph order. -/
theorem Valid.removeChain_removed (valid : g.Valid) {id : String} {removed : List Block}
    {g' : Graph} (ok : (removeChain id).run g = .ok removed g') :
    removed = g.blocks.filter fun b => b.id ∈ g.chainIds id := by
  rw [valid.removeChain_run] at ok
  split at ok
  · injection ok with same
    rw [← same]
    exact List.filter_congr fun b _ => by simp
  · cases ok

end Exact

/-! ### Edits that change links only -/

/-- `g'` is `g` with at most the links of the blocks whose ids satisfy `touched` changed:
the same blocks in the same order but for their links, and every other block as it was. -/
structure Relinked (g g' : Graph) (touched : String → Prop) : Prop where
  contents : g'.blocks.map Block.withoutLinks = g.blocks.map Block.withoutLinks
  frame : ∀ x, ¬ touched x → g'.block? x = g.block? x

namespace Relinked

variable {g g' g'' : Graph} {touched touched' : String → Prop}

theorem refl (g : Graph) : Relinked g g touched := ⟨rfl, fun _ _ => rfl⟩

theorem trans (first : Relinked g g' touched) (second : Relinked g' g'' touched') :
    Relinked g g'' fun x => touched x ∨ touched' x where
  contents := second.contents.trans first.contents
  frame x outside := by
    rw [not_or] at outside
    exact (second.frame x outside.2).trans (first.frame x outside.1)

theorem mono (relinked : Relinked g g' touched) (wider : ∀ x, touched x → touched' x) :
    Relinked g g' touched' :=
  ⟨relinked.contents, fun x outside => relinked.frame x fun inside => outside (wider x inside)⟩

/-- Relinking keeps every id, type and position in place. -/
theorem shape (relinked : Relinked g g' touched) :
    g'.blocks.map Block.shape = g.blocks.map Block.shape := by
  have same := congrArg (List.map Block.shape) relinked.contents
  simpa only [List.map_map, Function.comp_def, Block.shape_withoutLinks] using same

/-- Changing the links of one block relinks that block. -/
theorem update (id : String) (f : Block → Block)
    (links : ∀ b, (f b).withoutLinks = b.withoutLinks) : Relinked g (g.update id f) (· = id) where
  contents := by
    rw [update_blocks, List.map_map]
    refine List.map_congr_left fun b _ => ?_
    by_cases named : b.id = id
    · simp [named, links]
    · simp [named]
  frame x other := by
    have keeps : ∀ b, (f b).id = b.id := fun b => by simpa using congrArg Block.id (links b)
    rw [block?_update_eq keeps, if_neg other]

theorem unlinked (g : Graph) (parent : Option String) (id : String) :
    Relinked g (g.unlinked parent id) fun x => parent = some x := by
  cases parent with
  | none => exact refl g
  | some q =>
      by_cases link : g.childOf q = some id
      · rw [Graph.unlinked, if_pos link]
        exact (update q (fun b => { b with child := none }) fun _ => rfl).mono
          fun x same => by rw [same]
      · rw [Graph.unlinked, if_neg link]
        exact refl g

theorem detached (g : Graph) (c : String) :
    Relinked g (g.detached c) fun x => x = c ∨ g.parentOf c = some x :=
  (update c (fun b => { b with parent := none }) fun _ => rfl).trans (unlinked _ (g.parentOf c) c)

/-- `attach c p` relinks at most `c`, `p`, the block `c` hung from, the last block of the
chain from `c` and the block displaced from under `p`. -/
theorem attached (g : Graph) (c p : String) :
    Relinked g (g.attached c p) fun x => x = c ∨ x = p ∨ g.parentOf c = some x ∨
      (g.chainIds c).getLast? = some x ∨ g.displaced c p = some x := by
  have linked := ((detached g c).trans (update c (fun b => { b with parent := some p })
    fun _ => rfl)).trans (update p (fun b => { b with child := some c }) fun _ => rfl)
  unfold Graph.attached
  dsimp only
  split
  · -- the moved chain's last block and the displaced block are relinked too
    rename_i d tail relinked last
    refine ((linked.trans (update tail (fun b => { b with child := some d }) fun _ => rfl)).trans
      (update d (fun b => { b with parent := some tail }) fun _ => rfl)).mono fun x inside => ?_
    rw [relinked, last, Option.some_inj, Option.some_inj]
    grind
  · exact linked.mono fun x inside => by grind

end Relinked

section Frame

variable {g : Graph}

theorem Valid.apply_attach_relinked (valid : g.Valid) (c p : String) :
    Relinked g ((Op.attach c p).apply g) fun x => x = c ∨ x = p ∨ g.parentOf c = some x ∨
      (g.chainIds c).getLast? = some x ∨ g.displaced c p = some x := by
  rw [valid.apply_attach]
  split
  · exact Relinked.attached g c p
  · exact Relinked.refl g

theorem Valid.setDelayValue_shape (valid : g.Valid) (id : String) (v : UInt32) :
    ((Op.setDelayValue id v).apply g).blocks.map Block.shape = g.blocks.map Block.shape := by
  rw [valid.setDelayValue_blocks, List.map_map]
  refine List.map_congr_left fun b _ => ?_
  by_cases stored : b.id = id ∧ b.type.isDelay <;> simp [stored, Block.shape]

theorem normalizeLinks_shape (g : Graph) :
    (Op.normalizeLinks.apply g).blocks.map Block.shape = g.blocks.map Block.shape := by
  simp only [Op.apply, Op.run, normalizeLinks, List.map_map]
  rfl

/-- On a valid graph, whatever its links: `attach`, `detach`, `setDelayValue` and
`normalizeLinks` keep every block's id, type and position in place; `attach c p` changes
links only, of `c`, `p`, the block `c` hung from, the last block of the chain from `c` and
the displaced block; `detach` and `setDelayValue` change exactly the fields they name; and
`removeChain id` returns the blocks of the chain in graph order and keeps the others in
order, clearing only the former parent's child link when it still names `id`. -/
theorem Valid.edits_change_only_what_they_name (valid : g.Valid) :
    (∀ c p, ((Op.attach c p).apply g).blocks.map Block.shape = g.blocks.map Block.shape) ∧
    (∀ id, ((Op.detach id).apply g).blocks.map Block.shape = g.blocks.map Block.shape) ∧
    (∀ id v, ((Op.setDelayValue id v).apply g).blocks.map Block.shape =
      g.blocks.map Block.shape) ∧
    (Op.normalizeLinks.apply g).blocks.map Block.shape = g.blocks.map Block.shape ∧
    (∀ c p, Relinked g ((Op.attach c p).apply g) fun x => x = c ∨ x = p ∨
      g.parentOf c = some x ∨ (g.chainIds c).getLast? = some x ∨ g.displaced c p = some x) ∧
    (∀ id, ((Op.detach id).apply g).blocks = g.blocks.map fun b =>
      { b with parent := if b.id = id then none else b.parent,
               child := if g.parentOf id = some b.id ∧ b.child = some id then none else b.child }) ∧
    (∀ id v, ((Op.setDelayValue id v).apply g).blocks = g.blocks.map fun b =>
      if b.id = id ∧ b.type.isDelay then { b with value := some (clampDelay v) } else b) ∧
    ∀ id, ((Op.removeChain id).apply g).blocks =
        (g.blocks.filter fun b => b.id ∉ g.chainIds id).map (fun b =>
          if g.parentOf id = some b.id ∧ b.child = some id then { b with child := none } else b) ∧
      ∀ removed g', (removeChain id).run g = .ok removed g' →
        removed = g.blocks.filter fun b => b.id ∈ g.chainIds id := by
  refine ⟨fun c p => (valid.apply_attach_relinked c p).shape, fun id => ?_,
    valid.setDelayValue_shape, normalizeLinks_shape g, valid.apply_attach_relinked,
    valid.detach_blocks, valid.setDelayValue_blocks,
    fun id => ⟨valid.removeChain_blocks id, fun _ _ ok => valid.removeChain_removed ok⟩⟩
  rw [valid.apply_detach_eq]
  exact (Relinked.detached g id).shape

/-- A flag whose child link names no block, and a block that names the flag as parent and
itself as child: every edit still changes only what it names. -/
theorem edits_on_loose_links :
    let g := ofBlocks [(Block.make "a" .greenFlag).withChild "ghost",
      ((Block.make "b" .up).withParent "a").withChild "b"]
    g.Valid ∧
    (∀ c p, ((Op.attach c p).apply g).blocks.map Block.shape = g.blocks.map Block.shape) ∧
    (∀ id, ((Op.detach id).apply g).blocks.map Block.shape = g.blocks.map Block.shape) ∧
    (∀ id v, ((Op.setDelayValue id v).apply g).blocks.map Block.shape =
      g.blocks.map Block.shape) ∧
    (Op.normalizeLinks.apply g).blocks.map Block.shape = g.blocks.map Block.shape ∧
    (∀ c p, Relinked g ((Op.attach c p).apply g) fun x => x = c ∨ x = p ∨
      g.parentOf c = some x ∨ (g.chainIds c).getLast? = some x ∨ g.displaced c p = some x) ∧
    (∀ id, ((Op.detach id).apply g).blocks = g.blocks.map fun b =>
      { b with parent := if b.id = id then none else b.parent,
               child := if g.parentOf id = some b.id ∧ b.child = some id then none else b.child }) ∧
    (∀ id v, ((Op.setDelayValue id v).apply g).blocks = g.blocks.map fun b =>
      if b.id = id ∧ b.type.isDelay then { b with value := some (clampDelay v) } else b) ∧
    ∀ id, ((Op.removeChain id).apply g).blocks =
        (g.blocks.filter fun b => b.id ∉ g.chainIds id).map (fun b =>
          if g.parentOf id = some b.id ∧ b.child = some id then { b with child := none } else b) ∧
      ∀ removed g', (removeChain id).run g = .ok removed g' →
        removed = g.blocks.filter fun b => b.id ∈ g.chainIds id := by
  intro g
  have valid : g.Valid := Valid.ofBlocks (by decide)
  exact ⟨valid, valid.edits_change_only_what_they_name⟩

end Frame

/-! ### Attaching twice -/

section Twice

variable {g : Graph}

/-- Nothing is displaced from under `p` by the block `p` already links to. -/
theorem Valid.displaced_eq_none (valid : g.Valid) {c p : String} (down : g.childOf p = some c) :
    g.displaced c p = none := by
  rw [displaced, down, Option.filter_eq_none_iff]
  intro d same
  cases Option.some.inj same
  -- a block is the first of its own chain
  by_cases member : c ∈ g.ids
  · simp [valid.mem_chainIds_self member]
  · simp [member]

/-- Where `p` links to `c` and `c` back to `p`, attaching `c` under `p` clears the two links
and sets them again, and nothing is displaced: the graph is as it was. -/
theorem Valid.attached_eq_self (valid : g.Valid) {c p : String} (distinct : c ≠ p)
    (down : g.childOf p = some c) (up : g.parentOf c = some p) : g.attached c p = g := by
  have cleared : g.detached c = (g.update c fun b => { b with parent := none }).update p
      fun b => { b with child := none } := by
    rw [Graph.detached, up, Graph.unlinked, if_pos (by rw [childOf_setParent]; exact down)]
  have parentKept : ∀ b ∈ g.blocks, b.id = c → { b with parent := some p } = b :=
    fun b member named => by rw [← up, ← named, parentOf_of_mem valid.nodup member]
  have childKept : ∀ b ∈ g.blocks, b.id = p → { b with child := some c } = b :=
    fun b member named => by rw [← down, ← named, childOf_of_mem valid.nodup member]
  calc g.attached c p
      = (((g.update c fun b => { b with parent := none }).update p
          fun b => { b with child := none }).update c fun b => { b with parent := some p }).update
          p fun b => { b with child := some c } := by
        simp only [Graph.attached, valid.displaced_eq_none down, cleared]
    _ = (((g.update c fun b => { b with parent := none }).update c
          fun b => { b with parent := some p }).update p fun b => { b with child := none }).update
          p fun b => { b with child := some c } := by
        rw [update_comm (f := fun b => { b with child := none })
          (k := fun b => { b with parent := some p }) (Ne.symm distinct) (fun _ => rfl) (fun _ => rfl)]
    _ = (g.update c fun b => { b with parent := some p }).update p
          fun b => { b with child := some c } := by
        rw [update_update (f := fun b => { b with parent := none }) (fun _ => rfl),
          update_update (f := fun b => { b with child := none }) (fun _ => rfl)]
        rfl
    _ = g := by
        rw [@update_eq_self g c _ parentKept, @update_eq_self g p _ childKept]

/-- After a successful `attach c p`, `p` links to `c` and `c` back to `p`, whatever else the
graph's links do. -/
theorem Valid.attached_links (valid : g.Valid) {c p : String} (hc : c ∈ g.ids) (hp : p ∈ g.ids)
    (off : p ∉ g.chainIds c) :
    (g.attached c p).childOf p = some c ∧ (g.attached c p).parentOf c = some p := by
  have start := valid.mem_chainIds_self hc
  cases relinked : g.displaced c p with
  | none =>
      refine ⟨?_, by simp [parentOf_attached_of_none hc relinked]⟩
      simp [Graph.attached, relinked, hp]
  | some d =>
      obtain ⟨tail, last⟩ := valid.exists_getLast?_chainIds hc
      have ht : tail ∈ g.ids := valid.mem_ids_of_chainIds (List.mem_of_getLast? last)
      have pt : p ≠ tail := fun same => off (same ▸ List.mem_of_getLast? last)
      have cd : c ≠ d := fun same => (displaced_eq_some_iff.mp relinked).2.2 (same ▸ start)
      refine ⟨?_, by simp [parentOf_attached_of_some hc relinked last, cd]⟩
      simp [Graph.attached, relinked, last, hp, ht, pt]

/-- A second `attach c p` right after a successful one fails on a loop or changes nothing. -/
theorem Valid.attach_run_attached (valid : g.Valid) {c p : String} (hc : c ∈ g.ids)
    (hp : p ∈ g.ids) (off : p ∉ g.chainIds c) :
    (attach c p).run (g.attached c p) =
      if p ∈ (g.attached c p).chainIds c then .error (.wouldCycle p c) (g.attached c p)
      else .ok () (g.attached c p) := by
  have valid' := valid.attached c p
  have distinct : c ≠ p := fun same => off (same ▸ valid.mem_chainIds_self hc)
  obtain ⟨down, up⟩ := valid.attached_links hc hp off
  rw [valid'.attach_run, ids_attached, if_neg (not_not_intro hc), if_neg (not_not_intro hp)]
  split
  · rfl
  · rw [valid'.attached_eq_self distinct down up]

/-- On a valid graph, whatever its links, attaching twice leaves what attaching once
leaves. After a successful `attach c p`, `p` links to `c` and `c` back to `p`, and a second
call either fails and changes nothing, or displaces nothing and leaves the graph as it was. -/
theorem Valid.attach_twice_eq_once (valid : g.Valid) (c p : String) :
    (Op.attach c p).apply ((Op.attach c p).apply g) = (Op.attach c p).apply g ∧
    ∀ g', (attach c p).run g = .ok () g' →
      g'.childOf p = some c ∧ g'.parentOf c = some p ∧
      ((∃ e, (attach c p).run g' = .error e g') ∨
        (g'.displaced c p = none ∧ (attach c p).run g' = .ok () g')) := by
  refine ⟨?_, fun g' ok => ?_⟩
  · rw [valid.apply_attach c p]
    split
    · rename_i ok
      obtain ⟨hc, hp, off⟩ := ok
      have distinct : c ≠ p := fun same => off (same ▸ valid.mem_chainIds_self hc)
      obtain ⟨down, up⟩ := valid.attached_links hc hp off
      -- the second call fails and changes nothing, or relinks what is already linked
      rw [(valid.attached c p).apply_attach, ids_attached]
      split
      · exact (valid.attached c p).attached_eq_self distinct down up
      · rfl
    · -- the first call failed, so the second fails the same way
      rw [valid.apply_attach c p, if_neg ‹_›]
  · obtain ⟨hc, hp, off, rfl⟩ := valid.attach_ok ok
    obtain ⟨down, up⟩ := valid.attached_links hc hp off
    refine ⟨down, up, ?_⟩
    rw [valid.attach_run_attached hc hp off]
    split
    · exact .inl ⟨_, rfl⟩
    · exact .inr ⟨(valid.attached c p).displaced_eq_none down, rfl⟩

/-- `p` links to `d` and `d` to `c`, but `c` names no parent: the first `attach c p` leaves
`c` and `d` linking to each other, and a second one changes nothing. -/
theorem attach_twice_through_unanswered_link :
    let g := ofBlocks [(Block.make "p" .up).withChild "d", (Block.make "d" .down).withChild "c",
      Block.make "c" .forward]
    g.Valid ∧
      (Op.attach "c" "p").apply ((Op.attach "c" "p").apply g) = (Op.attach "c" "p").apply g ∧
      ∀ g', (attach "c" "p").run g = .ok () g' →
        g'.childOf "p" = some "c" ∧ g'.parentOf "c" = some "p" ∧
        ((∃ e, (attach "c" "p").run g' = .error e g') ∨
          (g'.displaced "c" "p" = none ∧ (attach "c" "p").run g' = .ok () g')) := by
  intro g
  have valid : g.Valid := Valid.ofBlocks (by decide)
  exact ⟨valid, valid.attach_twice_eq_once "c" "p"⟩

end Twice

end Graph

end BlockProgram
