import BlockProgram.Proofs.Chain.Walk
import BlockProgram.Proofs.Graph.Valid

/-! # What each edit does

For each edit of `Graph.Edit`, its run on a valid graph: which calls fail and with what,
and for the others the graph they leave, described through `Graph.update` on the blocks
with given ids (`Graph.detached`, `Graph.attached`, `Graph.removedChain`). Every edit
keeps a graph valid, and `Graph.Op` names the calls so that a sequence of them can be
run (`Graph.applyAll`).
-/

namespace BlockProgram

namespace Graph

section Primitives

variable (g : Graph)

theorem position_run_of_some {id : String} {pos : Nat} (found : g.index[id]? = some pos) :
    (position id).run g = .ok pos g := by
  simp only [position, EStateM.run_bind, EStateM.run_get, found]
  rfl

theorem position_run_of_none {id : String} (missing : g.index[id]? = none) :
    (position id).run g = .error (.unknownBlock id) g := by
  simp only [position, EStateM.run_bind, EStateM.run_get, missing]
  rfl

theorem modifyBlock_run (pos : Nat) (f : Block → Block) :
    (modifyBlock pos f).run g = .ok () { g with blocks := g.blocks.modify pos f } := rfl

@[simp] theorem update_index (id : String) (f : Block → Block) : (g.update id f).index = g.index :=
  rfl

theorem insert_run (b : Block) :
    (insert b).run g =
      if g.contains b.id then .error (.duplicateBlockId b.id) g
      else .ok () ⟨g.blocks ++ [b], g.index.insert b.id g.blocks.length⟩ := by
  simp only [insert, EStateM.run_bind, EStateM.run_get]
  split <;> rfl

end Primitives

/-- What `unlinkFrom parent id` leaves on a valid graph: the block `parent` names loses
its child link when that link names `id`. -/
def unlinked (g : Graph) (parent : Option String) (id : String) : Graph :=
  match parent with
  | some p => if g.childOf p = some id then g.update p fun b => { b with child := none } else g
  | none => g

/-- What `detach id` leaves on a valid graph that has a block `id`. -/
def detached (g : Graph) (id : String) : Graph :=
  (g.update id fun b => { b with parent := none }).unlinked (g.parentOf id) id

/-- The ids of the chain from a block, the block's own first. -/
def chainIds (g : Graph) (id : String) : List String := (g.chainFrom id).map (·.id)

/-- The block `parent` links to before `attach child parent`, when it is relinked after
the moved chain: it exists and is not itself moved. -/
def displaced (g : Graph) (child parent : String) : Option String :=
  (g.childOf parent).filter fun d => g.ids.contains d && !(g.chainIds child).contains d

/-- What `attach child parent` leaves on a valid graph when it succeeds. -/
def attached (g : Graph) (child parent : String) : Graph :=
  let linked := ((g.detached child).update child fun b => { b with parent := some parent }).update
    parent fun b => { b with child := some child }
  match g.displaced child parent, (g.chainIds child).getLast? with
  | some d, some tail =>
      (linked.update tail fun b => { b with child := some d }).update d
        fun b => { b with parent := some tail }
  | _, _ => linked

/-- What `removeChain id` leaves on a valid graph that has a block `id`: the blocks off the
chain from `id`, in order and freshly indexed, the former parent unlinked. -/
def removedChain (g : Graph) (id : String) : Graph :=
  (ofBlocks (g.blocks.filter fun b => !(g.chainIds id).contains b.id)).unlinked (g.parentOf id) id

theorem displaced_eq_some_iff {g : Graph} {child parent d : String} :
    g.displaced child parent = some d ↔
      g.childOf parent = some d ∧ d ∈ g.ids ∧ d ∉ g.chainIds child := by
  simp [displaced]

@[simp] theorem unlinked_index (g : Graph) (parent : Option String) (id : String) :
    (g.unlinked parent id).index = g.index := by
  unfold unlinked
  split
  · split <;> rfl
  · rfl

@[simp] theorem detached_index (g : Graph) (id : String) : (g.detached id).index = g.index := by
  simp [detached]

namespace Valid

variable {g : Graph} (valid : g.Valid)
include valid

theorem index_of_mem {id : String} (member : id ∈ g.ids) : ∃ pos, g.index[id]? = some pos :=
  Option.ne_none_iff_exists'.mp fun missing => (valid.index_eq_none_iff.mp missing) member

theorem modifyBlock_run {id : String} {pos : Nat} (found : g.index[id]? = some pos)
    (f : Block → Block) : (modifyBlock pos f).run g = .ok () (g.update id f) := by
  rw [Graph.modifyBlock_run, valid.modify_eq_update found]

theorem mem_chainFrom {id : String} {b : Block} (member : b ∈ g.chainFrom id) : b ∈ g.blocks := by
  rcases Chain.mem_walk g.get? member with found | ⟨_, found⟩
  · exact (valid.get?_eq_some_iff.mp found).1
  · exact (valid.get?_eq_some_iff.mp found).1

theorem mem_ids_of_chainIds {id other : String} (member : other ∈ g.chainIds id) :
    other ∈ g.ids := by
  obtain ⟨b, inChain, rfl⟩ := List.mem_map.mp member
  exact List.mem_map_of_mem (valid.mem_chainFrom inChain)

theorem unlinked (parent : Option String) (id : String) : (g.unlinked parent id).Valid := by
  unfold Graph.unlinked
  split
  · split
    · exact valid.update fun _ => rfl
    · exact valid
  · exact valid

theorem detached (id : String) : (g.detached id).Valid :=
  (valid.update (by intro _; rfl)).unlinked _ _

theorem unlinkFrom_run (parent : Option String) (id : String) :
    (unlinkFrom parent id).run g = .ok () (g.unlinked parent id) := by
  cases parent with
  | none => rfl
  | some p =>
      simp only [unlinkFrom, EStateM.run_bind, EStateM.run_get, Graph.unlinked]
      cases found : g.index[p]? with
      | none =>
          -- an id the index lacks has no block, so no child link to clear
          have missing : g.childOf p = none := by
            simp [childOf, block?_eq_none_iff.mpr (valid.index_eq_none_iff.mp found)]
          simp [missing]
      | some pos =>
          simp only [valid.getElem?_of_index found]
          split
          · rename_i named
            rw [if_pos (by simpa [childOf] using named), valid.modifyBlock_run found]
          · rename_i other
            rw [if_neg (by simpa [childOf] using other)]
            rfl

theorem detach_run (id : String) :
    (detach id).run g =
      if id ∈ g.ids then .ok () (g.detached id) else .error (.unknownBlock id) g := by
  split
  · rename_i member
    obtain ⟨pos, found⟩ := valid.index_of_mem member
    simp only [detach, EStateM.run_bind, position_run_of_some g found, EStateM.run_get,
      valid.modifyBlock_run found, valid.getElem?_of_index found]
    exact (valid.update (by intro _; rfl)).unlinkFrom_run _ _
  · rename_i missing
    simp only [detach, EStateM.run_bind,
      position_run_of_none g (valid.index_eq_none_iff.mpr missing)]

theorem displaced_eq (child parent : String) {parentPos : Nat}
    (parentAt : g.index[parent]? = some parentPos) :
    (g.blocks[parentPos]?.bind (·.child)).filter
        (fun d => g.contains d && !((g.chainFrom child).map (·.id)).contains d) =
      g.displaced child parent := by
  rw [valid.getElem?_of_index parentAt, displaced, childOf]
  congr
  funext d
  rw [show g.contains d = g.ids.contains d from by
    rw [Bool.eq_iff_iff, valid.contains_iff, List.contains_iff_mem]]
  rfl

theorem attach_run (child parent : String) :
    (attach child parent).run g =
      if child ∉ g.ids then .error (.unknownBlock child) g
      else if parent ∉ g.ids then .error (.unknownBlock parent) g
      else if parent ∈ g.chainIds child then .error (.wouldCycle parent child) g
      else .ok () (g.attached child parent) := by
  by_cases hasChild : child ∈ g.ids
  swap
  · simp only [attach, EStateM.run_bind, if_pos hasChild,
      position_run_of_none g (valid.index_eq_none_iff.mpr hasChild)]
  obtain ⟨childPos, childAt⟩ := valid.index_of_mem hasChild
  by_cases hasParent : parent ∈ g.ids
  swap
  · simp only [attach, EStateM.run_bind, if_neg (not_not_intro hasChild), if_pos hasParent,
      position_run_of_some g childAt, position_run_of_none g (valid.index_eq_none_iff.mpr hasParent)]
  obtain ⟨parentPos, parentAt⟩ := valid.index_of_mem hasParent
  simp only [attach, EStateM.run_bind, position_run_of_some g childAt,
    position_run_of_some g parentAt, EStateM.run_get, if_neg (not_not_intro hasChild),
    if_neg (not_not_intro hasParent)]
  split
  · rename_i cycle
    rw [if_pos (by simpa [chainIds] using cycle)]
    rfl
  rename_i acyclic
  rw [if_neg (by simpa [chainIds] using acyclic)]
  -- the relinking steps, one graph at a time; none of them moves a block or the index
  have valid₁ := valid.detached child
  have valid₂ : ((g.detached child).update child fun b => { b with parent := some parent }).Valid :=
    valid₁.update fun _ => rfl
  have valid₃ : (((g.detached child).update child fun b => { b with parent := some parent }).update
      parent fun b => { b with child := some child }).Valid :=
    valid₂.update fun _ => rfl
  have childAt₁ : (g.detached child).index[child]? = some childPos := by simpa using childAt
  have parentAt₂ : ((g.detached child).update child fun b =>
      { b with parent := some parent }).index[parent]? = some parentPos := by simpa using parentAt
  simp only [EStateM.run_bind, valid.detach_run, if_pos hasChild, valid₁.modifyBlock_run childAt₁,
    valid₂.modifyBlock_run parentAt₂, valid.displaced_eq child parent parentAt]
  unfold attached
  set linked := ((g.detached child).update child fun b => { b with parent := some parent }).update
    parent fun b => { b with child := some child } with linked_def
  rw [show (g.chainFrom child).map (·.id) = g.chainIds child from rfl]
  cases hd : g.displaced child parent with
  | none => rfl
  | some d =>
      cases ht : (g.chainIds child).getLast? with
      | none => rfl
      | some tail =>
          -- the moved chain's last block and the displaced block both exist, so the
          -- two lookups after the first change succeed
          obtain ⟨tailPos, tailAt⟩ := valid.index_of_mem
            (valid.mem_ids_of_chainIds (List.mem_of_getLast? ht))
          have hasD : d ∈ g.ids := (displaced_eq_some_iff.mp hd).2.1
          obtain ⟨dPos, dAt⟩ := valid.index_of_mem hasD
          have valid₄ : (linked.update tail fun b => { b with child := some d }).Valid :=
            valid₃.update fun _ => rfl
          have tailAt₃ : linked.index[tail]? = some tailPos := by simpa [linked] using tailAt
          have dAt₃ : linked.index[d]? = some dPos := by simpa [linked] using dAt
          have dAt₄ : (linked.update tail fun b => { b with child := some d }).index[d]? =
              some dPos := by
            simpa [linked] using dAt
          simp only [EStateM.run_bind, position_run_of_some _ tailAt₃, position_run_of_some _ dAt₃,
            valid₃.modifyBlock_run tailAt₃, valid₄.modifyBlock_run dAt₄]

theorem attached (child parent : String) : (g.attached child parent).Valid := by
  have linked : (((g.detached child).update child fun b => { b with parent := some parent }).update
      parent fun b => { b with child := some child }).Valid :=
    ((valid.detached child).update (by intro _; rfl)).update fun _ => rfl
  unfold Graph.attached
  split
  · exact (linked.update (by intro _; rfl)).update fun _ => rfl
  · exact linked

theorem normalizeLinks : g.normalizeLinks.Valid :=
  valid.of_ids (by simp [ids, Graph.normalizeLinks]) rfl

theorem removedChain (id : String) : (g.removedChain id).Valid :=
  (Valid.ofBlocks ((List.filter_sublist.map _).nodup valid.nodup)).unlinked _ _

theorem removeChain_run (id : String) :
    (removeChain id).run g =
      if id ∈ g.ids then
        .ok (g.blocks.filter fun b => (g.chainIds id).contains b.id) (g.removedChain id)
      else .error (.unknownBlock id) g := by
  split
  · rename_i member
    obtain ⟨pos, found⟩ := valid.index_of_mem member
    have kept : (Graph.ofBlocks (g.blocks.filter fun b => !(g.chainIds id).contains b.id)).Valid :=
      Valid.ofBlocks ((List.filter_sublist.map _).nodup valid.nodup)
    simp only [removeChain, EStateM.run_bind, position_run_of_some g found, EStateM.run_get,
      valid.getElem?_of_index found, List.partition_eq_filter_filter, Function.comp_def,
      EStateM.run_set]
    rw [show (g.chainFrom id).map (·.id) = g.chainIds id from rfl, kept.unlinkFrom_run]
    rfl
  · rename_i missing
    simp only [removeChain, EStateM.run_bind,
      position_run_of_none g (valid.index_eq_none_iff.mpr missing)]

theorem setDelayValue_run (id : String) (v : UInt32) :
    (setDelayValue id v).run g =
      match g.block? id with
      | none => .error (.unknownBlock id) g
      | some b =>
          if b.type.isDelay then
            .ok (clampDelay v) (g.update id fun b => { b with value := some (clampDelay v) })
          else .error (.notADelay id) g := by
  cases found : g.block? id with
  | none =>
      simp only [setDelayValue, EStateM.run_bind,
        position_run_of_none g (valid.index_eq_none_iff.mpr (block?_eq_none_iff.mp found))]
  | some b =>
      have member : id ∈ g.ids := by
        by_contra missing
        simp [block?_eq_none_iff.mpr missing] at found
      obtain ⟨pos, located⟩ := valid.index_of_mem member
      simp only [setDelayValue, EStateM.run_bind, position_run_of_some g located, EStateM.run_get,
        valid.getElem?_of_index located, found]
      split
      · rename_i notDelay
        rw [if_neg (by simpa using notDelay)]
        rfl
      · rename_i delay
        rw [if_pos (by simpa using delay)]
        simp only [EStateM.run_bind, valid.modifyBlock_run located]
        rfl

end Valid

/-- One call of a graph's editing interface. -/
inductive Op
  | insert (b : Block)
  | attach (child parent : String)
  | detach (id : String)
  | removeChain (id : String)
  | setDelayValue (id : String) (v : UInt32)
  | normalizeLinks

/-- How a run ends: its error, none when it succeeds, and the graph it leaves. -/
def outcome {α : Type} : EStateM.Result Error Graph α → Option Error × Graph
  | .ok _ g => (none, g)
  | .error e g => (some e, g)

/-- How a call ends on a graph, its result dropped. -/
def Op.run : Op → Graph → Option Error × Graph
  | .insert b, g => outcome ((Graph.insert b).run g)
  | .attach child parent, g => outcome ((Graph.attach child parent).run g)
  | .detach id, g => outcome ((Graph.detach id).run g)
  | .removeChain id, g => outcome ((Graph.removeChain id).run g)
  | .setDelayValue id v, g => outcome ((Graph.setDelayValue id v).run g)
  | .normalizeLinks, g => (none, g.normalizeLinks)

/-- The graph a call leaves, whether it succeeds or fails. -/
def Op.apply (op : Op) (g : Graph) : Graph := (op.run g).2

/-- The graph a sequence of calls leaves. -/
def applyAll (g : Graph) (ops : List Op) : Graph := ops.foldl (fun g op => op.apply g) g

namespace Valid

/-! The graph each call leaves on a valid graph, whether it succeeds or fails. -/

variable {g : Graph} (valid : g.Valid)
include valid

theorem apply_insert (b : Block) :
    (Op.insert b).apply g =
      if b.id ∈ g.ids then g else ⟨g.blocks ++ [b], g.index.insert b.id g.blocks.length⟩ := by
  simp only [Op.apply, Op.run, insert_run]
  by_cases present : b.id ∈ g.ids
  · rw [if_pos (valid.contains_iff.mpr present), if_pos present]
    rfl
  · rw [if_neg (mt valid.contains_iff.mp present), if_neg present]
    rfl

theorem apply_attach (child parent : String) :
    (Op.attach child parent).apply g =
      if child ∈ g.ids ∧ parent ∈ g.ids ∧ parent ∉ g.chainIds child then
        g.attached child parent
      else g := by
  simp only [Op.apply, Op.run, valid.attach_run]
  by_cases hc : child ∈ g.ids <;> by_cases hp : parent ∈ g.ids <;>
    by_cases cycle : parent ∈ g.chainIds child <;> simp [hc, hp, cycle, outcome]

theorem apply_detach (id : String) :
    (Op.detach id).apply g = if id ∈ g.ids then g.detached id else g := by
  simp only [Op.apply, Op.run, valid.detach_run]
  split <;> rfl

theorem apply_removeChain (id : String) :
    (Op.removeChain id).apply g = if id ∈ g.ids then g.removedChain id else g := by
  simp only [Op.apply, Op.run, valid.removeChain_run]
  split <;> rfl

theorem apply_setDelayValue (id : String) (v : UInt32) :
    (Op.setDelayValue id v).apply g =
      if (g.block? id).any (·.type.isDelay) then
        g.update id fun b => { b with value := some (clampDelay v) }
      else g := by
  simp only [Op.apply, Op.run, valid.setDelayValue_run]
  cases g.block? id with
  | none => rfl
  | some b => by_cases delay : b.type.isDelay <;> simp [delay, outcome]

end Valid

/-- Every call keeps a graph valid, whether it succeeds or fails. -/
theorem Valid.apply {g : Graph} (valid : g.Valid) (op : Op) : (op.apply g).Valid := by
  cases op with
  | insert b =>
      rw [valid.apply_insert]
      split_ifs with present
      · exact valid
      · exact valid.insert present
  | attach child parent =>
      rw [valid.apply_attach]
      split_ifs
      · exact valid.attached child parent
      · exact valid
  | detach id =>
      rw [valid.apply_detach]
      split_ifs
      · exact valid.detached id
      · exact valid
  | removeChain id =>
      rw [valid.apply_removeChain]
      split_ifs
      · exact valid.removedChain id
      · exact valid
  | setDelayValue id v =>
      rw [valid.apply_setDelayValue]
      split_ifs
      · exact valid.update fun _ => rfl
      · exact valid
  | normalizeLinks => exact valid.normalizeLinks

theorem Valid.applyAll {g : Graph} (valid : g.Valid) (ops : List Op) : (g.applyAll ops).Valid := by
  induction ops generalizing g with
  | nil => exact valid
  | cons op ops ih => exact ih (valid.apply op)

end Graph

end BlockProgram
