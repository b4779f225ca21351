import BlockProgram.Proofs.Graph.Invariant
import BlockProgram.Proofs.Graph.Build

/-! # Attaching where links may dangle

A snapshot is read without checking its links, so a graph may hold child links that name
no block, and parent links that name no block or a block that links elsewhere. `attach`
keeps the child links of such a graph free of loops as long as every child link that names
a block is answered by that block's parent link (`Graph.SoundLinks`): the edit clears the
one link into the moved block that its parent link names, so only an unanswered link into
the moved chain could lead back into it. One call either fails, changing nothing, or leaves
no loop (`Graph.attach_fails_or_keeps_links_acyclic`); without the answering link it can
succeed and close one (`Graph.attach_closes_loop_through_unanswered_link`).

The proof carries the well-formed case over. `Graph.repaired` drops the links that name no
block or that no link answers; on a graph with sound links it leaves a well-formed graph
with the same chains, and every link of the attached graph that names a block is a link of
the attached repaired graph.
-/

namespace BlockProgram

namespace Chain

/-- A walk through a lookup that finds each block changed by `f` is the walk changed by
`f`, when `f` keeps ids and the block each child link leads to. -/
theorem walk_map {find find' : String → Option Block} {f : Block → Block}
    (keeps : ∀ b, (f b).id = b.id)
    (next : ∀ b, (f b).child.bind find' = (b.child.bind find).map f) (n : Nat)
    (start : Option Block) (visited : List String) :
    walk find' n (start.map f) visited =
      ((walk find n start visited).1.map f, (walk find n start visited).2) := by
  induction n generalizing start visited with
  | zero => rfl
  | succ n ih =>
      cases start with
      | none => rfl
      | some b =>
          by_cases seen : b.id ∈ visited
          · simp [walk, keeps, seen]
          · simp only [Option.map_some, walk, keeps, seen, if_false, next, ih, List.map_cons]

end Chain

namespace Graph

open Relation

/-- Child links form no loop, and every child link that names a block is answered by that
block's parent link. -/
structure SoundLinks (g : Graph) : Prop where
  backs : ∀ y ∈ g.ids, g.Backs y
  acyclic : ∀ x, ¬ TransGen g.Link x x

theorem WellFormed.soundLinks {g : Graph} (wf : g.WellFormed) : g.SoundLinks :=
  ⟨fun y _ => wf.backs y, wf.acyclic⟩

section Repaired

/-- A block with its child link dropped when it names no block, and its parent link
dropped when the block it names does not link back. -/
def repairedBlock (g : Graph) (b : Block) : Block :=
  { b with child := b.child.filter g.ids.contains,
           parent := b.parent.filter fun q => g.childOf q == some b.id }

/-- The graph with every link that names no block, or that no link answers, dropped. -/
def repaired (g : Graph) : Graph := { g with blocks := g.blocks.map g.repairedBlock }

variable {g : Graph}

@[simp] theorem ids_repaired : g.repaired.ids = g.ids := by
  simp only [repaired, ids, List.map_map]
  rfl

theorem block?_repaired (x : String) : g.repaired.block? x = (g.block? x).map g.repairedBlock := by
  simp only [block?, repaired, List.find?_map]
  rfl

theorem get?_repaired (x : String) : g.repaired.get? x = (g.get? x).map g.repairedBlock := by
  simp only [get?, repaired, List.getElem?_map, Option.map_bind]
  rfl

theorem childOf_repaired (x : String) :
    g.repaired.childOf x = (g.childOf x).filter g.ids.contains := by
  rw [childOf, block?_repaired, childOf]
  cases g.block? x <;> rfl

theorem parentOf_repaired (y : String) :
    g.repaired.parentOf y = (g.parentOf y).filter fun q => g.childOf q == some y := by
  rw [parentOf, block?_repaired, parentOf]
  cases found : g.block? y with
  | none => rfl
  | some b =>
      show (b.parent.filter fun q => g.childOf q == some b.id) = _
      rw [id_of_block? found]
      rfl

/-- The repaired graph keeps exactly the links that name a block. -/
theorem link_repaired_iff {x y : String} : g.repaired.Link x y ↔ g.Link x y ∧ y ∈ g.ids := by
  simp [Link, childOf_repaired, Option.filter_eq_some_iff]

theorem Valid.repaired (valid : g.Valid) : g.repaired.Valid := valid.of_ids ids_repaired rfl

theorem Valid.chainIds_repaired (valid : g.Valid) (x : String) :
    g.repaired.chainIds x = g.chainIds x := by
  -- a child link the repair drops names no block, so the walk stops there either way
  have next : ∀ b, (g.repairedBlock b).child.bind g.repaired.get? =
      (b.child.bind g.get?).map g.repairedBlock := by
    intro b
    show (b.child.filter g.ids.contains).bind g.repaired.get? = (b.child.bind g.get?).map _
    cases b.child with
    | none => rfl
    | some y =>
        by_cases member : y ∈ g.ids
        · rw [Option.filter_some, if_pos (List.contains_iff_mem.mpr member)]
          simp [get?_repaired]
        · simp [member, valid.get?_eq, block?_eq_none_iff.mpr member]
  have walked := Chain.walk_map (f := g.repairedBlock) (fun _ => rfl) next (Chain.steps g.blocks)
    (g.get? x) []
  rw [chainIds, chainFrom, get?_repaired, show Chain.steps g.repaired.blocks = Chain.steps g.blocks
    by simp [Chain.steps, Graph.repaired], walked, chainIds, chainFrom, List.map_map]
  rfl

theorem Valid.displaced_repaired (valid : g.Valid) (c p : String) :
    g.repaired.displaced c p = g.displaced c p := by
  rw [displaced, displaced, valid.chainIds_repaired, childOf_repaired, ids_repaired]
  cases g.childOf p with
  | none => rfl
  | some d => simp

/-- Repairing a graph with sound links leaves a well-formed graph. -/
theorem SoundLinks.wellFormed_repaired (sound : g.SoundLinks) : g.repaired.WellFormed where
  parent_mem y q link := by
    rw [parentOf_repaired, Option.filter_eq_some_iff] at link
    rw [ids_repaired]
    exact mem_ids_of_childOf (beq_iff_eq.mp link.2)
  child_mem x y link := by
    rw [ids_repaired]
    exact (link_repaired_iff.mp link).2
  linked x y := by
    rw [parentOf_repaired, Option.filter_eq_some_iff, beq_iff_eq]
    constructor
    · intro link
      obtain ⟨link, member⟩ := link_repaired_iff.mp link
      exact ⟨sound.backs y member x link, link⟩
    · rintro ⟨parent, link⟩
      exact link_repaired_iff.mpr ⟨link, mem_ids_of_parentOf parent⟩
  acyclic x loop :=
    sound.acyclic x (TransGen.mono (fun _ _ link => (link_repaired_iff.mp link).1) x x loop)

end Repaired

section Attach

variable {g : Graph} (valid : g.Valid) (sound : g.SoundLinks) {c p : String} (hc : c ∈ g.ids)
  (hp : p ∈ g.ids)
include valid sound hc hp

/-- Every link of the attached graph that names a block is a link of the attached repaired
graph: both clear the link into `c` and add the same two. -/
theorem link_attached_repaired {x y : String} (link : (g.attached c p).Link x y)
    (member : y ∈ g.ids) : (g.repaired.attached c p).Link x y := by
  have wf := sound.wellFormed_repaired
  have hp' : p ∈ g.repaired.ids := by rwa [ids_repaired]
  have backs := sound.backs c hc
  -- the old link, if it survives, names a block, so the repair keeps it
  have kept : (if g.childOf x = some c then none else g.childOf x) = some y →
      (if g.repaired.childOf x = some c then none else g.repaired.childOf x) = some y := by
    intro old
    have found : g.repaired.childOf x = some y := by
      split at old
      · simp at old
      · exact link_repaired_iff.mpr ⟨old, member⟩
    have notC : g.childOf x ≠ some c := fun toC => by simp [toC] at old
    rw [if_neg (show g.repaired.childOf x ≠ some c from fun toC => notC (link_repaired_iff.mp toC).1),
      found]
  unfold Link at link ⊢
  cases relinked : g.displaced c p with
  | none =>
      have relinked' : g.repaired.displaced c p = none := by
        rwa [valid.displaced_repaired]
      rw [backs.childOf_attached_of_none hp relinked] at link
      rw [childOf_attached_of_none wf hp' relinked']
      split
      · rwa [if_pos (by assumption)] at link
      · rw [if_neg (by assumption)] at link
        exact kept link
  | some d =>
      obtain ⟨tail, last⟩ := valid.exists_getLast?_chainIds hc
      have relinked' : g.repaired.displaced c p = some d := by
        rwa [valid.displaced_repaired]
      have last' : (g.repaired.chainIds c).getLast? = some tail := by
        rwa [valid.chainIds_repaired]
      rw [backs.childOf_attached_of_some valid hp relinked last] at link
      rw [childOf_attached_of_some valid.repaired wf hp' relinked' last']
      split
      · rwa [if_pos (by assumption)] at link
      · rw [if_neg (by assumption)] at link
        split
        · rwa [if_pos (by assumption)] at link
        · rw [if_neg (by assumption)] at link
          exact kept link

theorem SoundLinks.backs_attached : ∀ y ∈ (g.attached c p).ids, (g.attached c p).Backs y := by
  intro y member x link
  rw [ids_attached] at member
  have backs := sound.backs c hc
  have old : ∀ {w z}, g.childOf w = some z → z ∈ g.ids → g.parentOf z = some w :=
    fun link member => sound.backs _ member _ link
  unfold Link at link
  cases relinked : g.displaced c p with
  | none =>
      rw [backs.childOf_attached_of_none hp relinked] at link
      rw [parentOf_attached_of_none hc relinked]
      split at link
      · -- the new link from `p` to `c`
        rename_i xp
        obtain rfl := Option.some.inj link
        rw [if_pos rfl, xp]
      · split at link
        · simp at link
        · rename_i notC
          have yc : y ≠ c := fun same => notC (same ▸ link)
          rw [if_neg yc]
          exact old link member
  | some d =>
      obtain ⟨tail, last⟩ := valid.exists_getLast?_chainIds hc
      obtain ⟨toD, -, outside⟩ := displaced_eq_some_iff.mp relinked
      have cd : c ≠ d := fun same => outside (same ▸ valid.mem_chainIds_self hc)
      rw [backs.childOf_attached_of_some valid hp relinked last] at link
      rw [parentOf_attached_of_some hc relinked last]
      split at link
      · -- the moved chain's last block now links to the displaced block
        rename_i xt
        obtain rfl := Option.some.inj link
        rw [if_pos rfl, xt]
      · split at link
        · -- the new link from `p` to `c`
          rename_i xp
          obtain rfl := Option.some.inj link
          rw [if_neg cd, if_pos rfl, xp]
        · split at link
          · simp at link
          · rename_i xp notC
            have yc : y ≠ c := fun same => notC (same ▸ link)
            -- only `p` linked to `d`, and `p` links to `c` now
            have yd : y ≠ d := by
              rintro rfl
              exact xp (Option.some.inj ((old toD member).symm.trans (old link member))).symm
            rw [if_neg yd, if_neg yc]
            exact old link member

variable (off : p ∉ g.chainIds c)
include off

theorem SoundLinks.acyclic_attached : ∀ x, ¬ TransGen (g.attached c p).Link x x := by
  classical
  have off' : p ∉ g.repaired.chainIds c := by rwa [valid.chainIds_repaired]
  have wf := sound.wellFormed_repaired.attached valid.repaired (by rwa [ids_repaired])
    (by rwa [ids_repaired]) off'
  obtain ⟨rank, lt, -⟩ := wf.exists_rank
  -- a link to no block ends every path, so it drops to the bottom of the measure
  refine acyclic_of_measure (fun x => if x ∈ g.ids then rank x + 1 else 0) fun x y link => ?_
  have hx : x ∈ g.ids := by simpa using mem_ids_of_childOf link
  by_cases hy : y ∈ g.ids
  · have fewer := lt x y (link_attached_repaired valid sound hc hp link hy)
    simp [hx, hy, fewer]
  · simp [hx, hy]

/-- A successful `attach` keeps the links of a graph sound. -/
theorem SoundLinks.attached : (g.attached c p).SoundLinks :=
  ⟨sound.backs_attached valid hc hp, sound.acyclic_attached valid hc hp off⟩

end Attach

section Run

variable {g : Graph}

theorem SoundLinks.detached (sound : g.SoundLinks) {c : String} (hc : c ∈ g.ids) :
    (g.detached c).SoundLinks := by
  -- detaching only drops the link into `c`
  have kept : ∀ x y, (g.detached c).Link x y → g.Link x y ∧ y ≠ c := by
    intro x y link
    unfold Link at link ⊢
    rw [(sound.backs c hc).childOf_detached] at link
    split at link
    · simp at link
    · rename_i notC
      exact ⟨link, fun same => notC (same ▸ link)⟩
  refine ⟨fun y member x link => ?_, fun x loop => ?_⟩
  · obtain ⟨old, yc⟩ := kept x y link
    rw [parentOf_detached hc, if_neg yc]
    exact sound.backs y (by simpa using member) x old
  · exact sound.acyclic x (TransGen.mono (fun a b link => (kept a b link).1) x x loop)

theorem SoundLinks.setValue (sound : g.SoundLinks) (id : String) (v : Option UInt32) :
    (g.update id fun b => { b with value := v }).SoundLinks := by
  have same : (g.update id fun b => { b with value := v }).Link = g.Link := by
    funext x y
    simp only [Link, childOf_setValue]
  refine ⟨fun y member x link => ?_, ?_⟩
  · rw [same] at link
    rw [parentOf_setValue]
    exact sound.backs y (by simpa using member) x link
  · rw [same]
    exact sound.acyclic

/-- The calls that keep the blocks and change no link but through `attach` and `detach`. -/
def Op.relinks : Op → Bool
  | .attach .. | .detach _ | .setDelayValue .. => true
  | .insert _ | .removeChain _ | .normalizeLinks => false

theorem SoundLinks.apply (valid : g.Valid) (sound : g.SoundLinks) {op : Op}
    (relinks : op.relinks) : (op.apply g).SoundLinks := by
  cases op with
  | attach child parent =>
      rw [valid.apply_attach]
      split_ifs with ok
      · exact sound.attached valid ok.1 ok.2.1 ok.2.2
      · exact sound
  | detach id =>
      rw [valid.apply_detach]
      split_ifs with member
      · exact sound.detached member
      · exact sound
  | setDelayValue id v =>
      rw [valid.apply_setDelayValue]
      split_ifs
      · exact sound.setValue id _
      · exact sound
  | insert _ | removeChain _ | normalizeLinks => simp [Op.relinks] at relinks

/-- On a valid graph whose child links form no loop and are answered by the parent links of
the blocks they name, any sequence of `attach`, `detach` and `set_delay_value` calls,
successful or failed, keeps both: `attach` fails or leaves no loop, whatever dangles. -/
theorem relinking_keeps_links_sound (valid : g.Valid) (sound : g.SoundLinks) (ops : List Op)
    (relinks : ∀ op ∈ ops, op.relinks) : (g.applyAll ops).SoundLinks := by
  induction ops generalizing g with
  | nil => exact sound
  | cons op ops ih =>
      exact ih (valid.apply op) (sound.apply valid (relinks op List.mem_cons_self))
        fun o member => relinks o (List.mem_cons_of_mem _ member)

end Run

section Concrete

/-! Sound links checked block by block, for graphs given by their blocks. -/

variable {g : Graph}

theorem exists_of_childOf {x y : String} (link : g.childOf x = some y) :
    ∃ b ∈ g.blocks, b.id = x ∧ b.child = some y := by
  obtain ⟨b, found⟩ := Option.bind_eq_some_iff.mp link
  exact ⟨b, mem_of_block? found.1, id_of_block? found.1, found.2⟩

/-- Child links along which a measure falls form no loop. -/
theorem acyclic_of_falls (μ : String → Nat) (falls : ∀ b ∈ g.blocks, ∀ y ∈ b.child, μ y < μ b.id) :
    ∀ x, ¬ TransGen g.Link x x :=
  acyclic_of_measure μ fun x y link => by
    obtain ⟨b, member, rfl, child⟩ := exists_of_childOf link
    exact falls b member y child

theorem SoundLinks.of_blocks (μ : String → Nat)
    (answered : ∀ b ∈ g.blocks, ∀ y ∈ b.child, y ∈ g.ids → g.parentOf y = some b.id)
    (falls : ∀ b ∈ g.blocks, ∀ y ∈ b.child, μ y < μ b.id) : g.SoundLinks where
  backs y member x link := by
    obtain ⟨b, inside, rfl, child⟩ := exists_of_childOf link
    exact answered b inside y child member
  acyclic := acyclic_of_falls μ falls

end Concrete

/-- A flag whose child link names no block and a block whose parent link names no block: a
block moved under the flag, detached and given a value keeps the links sound. -/
theorem relinking_dangling_links_sound :
    let g := ofBlocks [(Block.make "flag" .greenFlag).withChild "ghost",
      (Block.make "wait" .delay).withParent "nobody"]
    let ops := [Op.attach "wait" "flag", .detach "wait", .setDelayValue "wait" 3]
    g.Valid ∧ g.SoundLinks ∧ (∀ op ∈ ops, op.relinks) ∧ (g.applyAll ops).SoundLinks := by
  intro g ops
  have valid : g.Valid := Valid.ofBlocks (by decide)
  have sound : g.SoundLinks :=
    SoundLinks.of_blocks (fun x => if x = "flag" then 1 else 0) (by decide) (by decide)
  have relinks : ∀ op ∈ ops, op.relinks := by decide
  exact ⟨valid, sound, relinks, relinking_keeps_links_sound valid sound ops relinks⟩

/-- On a valid graph whose child links form no loop and are answered by the parent links of
the blocks they name, a call to `attach` either fails and leaves the graph as it was, or
succeeds with a graph whose child links still form no loop. -/
theorem attach_fails_or_keeps_links_acyclic {g : Graph} (valid : g.Valid) (sound : g.SoundLinks)
    (c p : String) :
    (∃ e, (attach c p).run g = .error e g) ∨
      ((attach c p).run g = .ok () (g.attached c p) ∧
        ∀ x, ¬ TransGen (g.attached c p).Link x x) := by
  rw [valid.attach_run]
  -- each failed check answers with the graph untouched; past all three the splice is made
  split_ifs with hc hp loop
  · exact .inl ⟨_, rfl⟩
  · exact .inr ⟨rfl, sound.acyclic_attached valid hc hp loop⟩
  · exact .inl ⟨_, rfl⟩
  · exact .inl ⟨_, rfl⟩

/-- `c` names a child that is no block, and `p` links to `d`, which answers: moving `c` under
`p` relinks `d` after `c` and leaves no loop. -/
theorem attach_past_dangling_link_keeps_links_acyclic :
    let g : Graph := ofBlocks [(Block.make "p" .up).withChild "d",
      (Block.make "d" .down).withParent "p", (Block.make "c" .forward).withChild "ghost"]
    g.Valid ∧ g.SoundLinks ∧ ((∃ e, (attach "c" "p").run g = .error e g) ∨
      ((attach "c" "p").run g = .ok () (g.attached "c" "p") ∧
        ∀ x, ¬ TransGen (g.attached "c" "p").Link x x)) := by
  intro g
  have valid : g.Valid := Valid.ofBlocks (by decide)
  have sound : g.SoundLinks :=
    SoundLinks.of_blocks (fun x => if x = "p" then 2 else if x = "ghost" then 0 else 1)
      (by decide) (by decide)
  exact ⟨valid, sound, attach_fails_or_keeps_links_acyclic valid sound "c" "p"⟩

/-- Without the answering parent link `attach` closes a loop: `p` links to `d`, `d` to `c`,
but `c` names no parent, so moving `c` under `p` relinks the displaced `d` after `c` and
leaves `d`'s link to `c` in place. -/
theorem attach_closes_loop_through_unanswered_link :
    let g : Graph := ofBlocks [(Block.make "p" .up).withChild "d", (Block.make "d" .down).withChild "c",
      Block.make "c" .forward]
    g.Valid ∧ (∀ x, ¬ TransGen g.Link x x) ∧
      (attach "c" "p").run g = .ok () (g.attached "c" "p") ∧
      TransGen (g.attached "c" "p").Link "c" "c" := by
  intro g
  have valid : g.Valid := Valid.ofBlocks (by decide)
  have acyclic : ∀ x, ¬ TransGen g.Link x x :=
    acyclic_of_falls (fun x => if x = "p" then 2 else if x = "d" then 1 else 0) (by decide)
  have off : "p" ∉ g.chainIds "c" := by
    rw [chainIds, valid.chainFrom_eq]
    decide
  have ok : (attach "c" "p").run g = .ok () (g.attached "c" "p") := by
    rw [valid.attach_run, if_neg (by simp [g]; decide), if_neg (by simp [g]; decide), if_neg off]
  -- after the move `c` links to `d`, and `d` still links to `c`
  have moved : (g.attached "c" "p").childOf "c" = some "d" ∧
      (g.attached "c" "p").childOf "d" = some "c" := by
    simp only [attached, displaced, chainIds, valid.chainFrom_eq]
    decide
  exact ⟨valid, acyclic, ok, TransGen.head moved.1 (TransGen.single moved.2)⟩

end Graph

end BlockProgram
