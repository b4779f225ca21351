import BlockProgram.Proofs.Graph.WellFormed
import BlockProgram.Proofs.Graph.Build

/-! # When the edits fail

On a valid graph each call fails exactly when its checks say, with the error they name,
and a failed call leaves the blocks and the index as they were
(`Graph.Valid.failures_exact_and_atomic`). Most edits make every check before their first
change. `attach` looks up two more ids after changing the graph, the last block of the
moved chain and the displaced child; both lookups succeed, because the chain holds only
blocks of the graph and the displaced child passed the index check.
-/

namespace BlockProgram

namespace Graph

theorem clampDelay_toNat (v : UInt32) : (clampDelay v).toNat = max 1 (min v.toNat 10) := by
  unfold clampDelay delayMin delayMax
  split
  · rename_i small
    have : v.toNat < 1 := by simpa [UInt32.lt_iff_toNat_lt] using small
    simp
    omega
  · rename_i large
    have : v.toNat ≠ 0 := by simpa [UInt32.lt_iff_toNat_lt] using large
    simp [UInt32.toNat_min]
    omega

namespace Valid

variable {g : Graph} (valid : g.Valid)
include valid

theorem insert_failure (b : Block) :
    ((Op.insert b).run g).1 = if b.id ∈ g.ids then some (.duplicateBlockId b.id) else none := by
  simp only [Op.run, insert_run]
  by_cases present : b.id ∈ g.ids <;> simp [present, valid.contains_iff, outcome]

theorem attach_failure (child parent : String) :
    ((Op.attach child parent).run g).1 =
      if child ∉ g.ids then some (.unknownBlock child)
      else if parent ∉ g.ids then some (.unknownBlock parent)
      else if parent ∈ g.chainIds child then some (.wouldCycle parent child) else none := by
  simp only [Op.run, valid.attach_run]
  split_ifs <;> rfl

/-- A block's chain starts with the block, so attaching it under itself would close a loop. -/
theorem attach_self_failure {c : String} (member : c ∈ g.ids) :
    ((Op.attach c c).run g).1 = some (.wouldCycle c c) := by
  rw [valid.attach_failure, if_neg (not_not_intro member), if_neg (not_not_intro member),
    if_pos (valid.mem_chainIds_self member)]

theorem detach_failure (id : String) :
    ((Op.detach id).run g).1 = if id ∈ g.ids then none else some (.unknownBlock id) := by
  simp only [Op.run, valid.detach_run]
  split <;> rfl

theorem removeChain_failure (id : String) :
    ((Op.removeChain id).run g).1 = if id ∈ g.ids then none else some (.unknownBlock id) := by
  simp only [Op.run, valid.removeChain_run]
  split <;> rfl

theorem setDelayValue_failure (id : String) (v : UInt32) :
    ((Op.setDelayValue id v).run g).1 =
      match g.block? id with
      | none => some (.unknownBlock id)
      | some b => if b.type.isDelay then none else some (.notADelay id) := by
  simp only [Op.run, valid.setDelayValue_run]
  cases g.block? id with
  | none => rfl
  | some b => by_cases delay : b.type.isDelay <;> simp [delay, outcome]

/-- A successful `setDelayValue` returns the clamped value and stores it in that block only. -/
theorem setDelayValue_ok {id : String} {v c : UInt32} {g' : Graph}
    (ok : (setDelayValue id v).run g = .ok c g') :
    c.toNat = max 1 (min v.toNat 10) ∧ g' = g.update id fun b => { b with value := some c } := by
  rw [valid.setDelayValue_run] at ok
  cases found : g.block? id with
  | none => simp [found] at ok
  | some b =>
      simp only [found] at ok
      split at ok
      · injection ok with value state
        subst value state
        exact ⟨clampDelay_toNat v, rfl⟩
      · simp at ok

/-- A failed call leaves the graph as it was. -/
theorem run_unchanged (op : Op) {e : Error} (failed : (op.run g).1 = some e) : (op.run g).2 = g := by
  cases op with
  | insert b =>
      simp only [Op.run, insert_run] at failed ⊢
      split <;> simp_all [outcome]
  | attach child parent =>
      simp only [Op.run, valid.attach_run] at failed ⊢
      split_ifs <;> simp_all [outcome]
  | detach id =>
      simp only [Op.run, valid.detach_run] at failed ⊢
      split <;> simp_all [outcome]
  | removeChain id =>
      simp only [Op.run, valid.removeChain_run] at failed ⊢
      split <;> simp_all [outcome]
  | setDelayValue id v =>
      simp only [Op.run, valid.setDelayValue_run] at failed ⊢
      cases found : g.block? id with
      | none => rfl
      | some b =>
          simp only [found] at failed ⊢
          by_cases delay : b.type.isDelay <;> simp_all [outcome]
  | normalizeLinks => simp [Op.run] at failed

/-- On a valid graph: the error of each call, or none, as its checks decide it; what a
successful `setDelayValue` returns and stores; and a failed call leaves the graph as it
was. -/
theorem failures_exact_and_atomic :
    (∀ b, ((Op.insert b).run g).1 =
      if b.id ∈ g.ids then some (.duplicateBlockId b.id) else none) ∧
    (∀ c p, ((Op.attach c p).run g).1 =
      if c ∉ g.ids then some (.unknownBlock c)
      else if p ∉ g.ids then some (.unknownBlock p)
      else if p ∈ g.chainIds c then some (.wouldCycle p c) else none) ∧
    (∀ c ∈ g.ids, ((Op.attach c c).run g).1 = some (.wouldCycle c c)) ∧
    (∀ id, ((Op.detach id).run g).1 = if id ∈ g.ids then none else some (.unknownBlock id)) ∧
    (∀ id, ((Op.removeChain id).run g).1 =
      if id ∈ g.ids then none else some (.unknownBlock id)) ∧
    (∀ id v, ((Op.setDelayValue id v).run g).1 =
      match g.block? id with
      | none => some (.unknownBlock id)
      | some b => if b.type.isDelay then none else some (.notADelay id)) ∧
    (∀ id v c g', (setDelayValue id v).run g = .ok c g' →
      c.toNat = max 1 (min v.toNat 10) ∧ g' = g.update id fun b => { b with value := some c }) ∧
    (∀ (op : Op) e, (op.run g).1 = some e → (op.run g).2 = g) :=
  ⟨valid.insert_failure, valid.attach_failure, fun _ => valid.attach_self_failure,
    valid.detach_failure, valid.removeChain_failure, valid.setDelayValue_failure,
    fun _ _ _ _ => valid.setDelayValue_ok, fun op _ => valid.run_unchanged op⟩

end Valid

/-- A graph with a link and a dangling one: `p` links to `c`, and `x` names a child `ghost`
that is no block. Attaching `p` under `c` would close a loop, so it fails and changes
nothing; attaching `x` under `p` displaces `c` and succeeds. -/
theorem attach_on_linked_graph :
    let g := (ofBlocks [Block.make "p" .up, Block.make "c" .down,
      (Block.make "x" .forward).withChild "ghost"]).attached "c" "p"
    g.Valid ∧ ((Op.attach "p" "c").run g).1 = some (.wouldCycle "c" "p") ∧
      ((Op.attach "p" "c").run g).2 = g ∧ g.displaced "x" "p" = some "c" ∧
      ((Op.attach "x" "p").run g).1 = none := by
  intro g
  have valid₀ : (ofBlocks [Block.make "p" .up, Block.make "c" .down,
      (Block.make "x" .forward).withChild "ghost"]).Valid := Valid.ofBlocks (by decide)
  have valid : g.Valid := valid₀.attached _ _
  obtain ⟨-, attaching, -, -, -, -, -, unchanged⟩ := valid.failures_exact_and_atomic
  -- the attached graph's blocks, computed once; every fact below is read off them
  have built : g.blocks = [(Block.make "p" .up).withChild "c",
      (Block.make "c" .down).withParent "p", (Block.make "x" .forward).withChild "ghost"] := by
    simp only [g, attached, displaced, chainIds, valid₀.chainFrom_eq]
    rfl
  have chains : ∀ id, g.chainIds id = (Chain.chainFrom g.blocks id).map (·.id) := fun id => by
    rw [chainIds, valid.chainFrom_eq]
  have blocks : "p" ∈ g.ids ∧ "c" ∈ g.ids ∧ "x" ∈ g.ids := by
    rw [ids, built]
    decide
  have loop : "c" ∈ g.chainIds "p" := by
    rw [chains, built]
    decide
  have off : "p" ∉ g.chainIds "x" := by
    rw [chains, built]
    decide
  have moved : g.displaced "x" "p" = some "c" := by
    rw [displaced, chains, childOf, block?, ids, built]
    decide
  have cycle : ((Op.attach "p" "c").run g).1 = some (.wouldCycle "c" "p") := by
    rw [attaching, if_neg (not_not.mpr blocks.1), if_neg (not_not.mpr blocks.2.1), if_pos loop]
  have spliced : ((Op.attach "x" "p").run g).1 = none := by
    rw [attaching, if_neg (not_not.mpr blocks.2.2), if_neg (not_not.mpr blocks.1), if_neg off]
  exact ⟨valid, cycle, unchanged _ _ cycle, moved, spliced⟩

end Graph

end BlockProgram
