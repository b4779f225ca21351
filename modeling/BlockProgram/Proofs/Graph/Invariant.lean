import BlockProgram.Proofs.Graph.WellFormed

/-! # The edits keep graphs well formed

What each edit does to the links by id on a valid well-formed graph, and that the graph
it leaves is well formed again. `detach` and `removeChain` only drop links, so loops cannot
appear; `attach` adds links, and `Graph.Valid.acyclic_of_relink` rules out a loop through
them. The main result is `Graph.wellFormed_applyAll`: every sequence of calls, successful
or not, keeps a valid graph well formed when the blocks it inserts come unlinked.
-/

namespace BlockProgram

namespace Graph

open Relation

@[simp] theorem ids_unlinked (g : Graph) (parent : Option String) (id : String) :
    (g.unlinked parent id).ids = g.ids := by
  unfold unlinked
  split
  · split
    · exact ids_setChild _
    · rfl
  · rfl

@[simp] theorem ids_detached (g : Graph) (id : String) : (g.detached id).ids = g.ids := by
  simp [detached]

/-- Every block that links to `c` is the block `c` names as its parent. This is all that
`detach c` and `attach c p` need of the links: clearing the one link that the parent link
names then clears every link to `c`. -/
def Backs (g : Graph) (c : String) : Prop := ∀ x, g.Link x c → g.parentOf c = some x

theorem WellFormed.backs {g : Graph} (wf : g.WellFormed) (c : String) : g.Backs c :=
  fun x link => (wf.linked x c).mp link

section Detach

variable {g : Graph} {c : String}

theorem Backs.childOf_detached (backs : g.Backs c) (x : String) :
    (g.detached c).childOf x = if g.childOf x = some c then none else g.childOf x := by
  unfold detached
  cases parent : g.parentOf c with
  | none =>
      -- no block links to `c`, so nothing is unlinked
      have free : g.childOf x ≠ some c := fun link => by simpa [parent] using backs x link
      simp [free, Graph.unlinked]
  | some q =>
      have only : g.childOf x = some c → x = q := fun link =>
        (Option.some.inj ((backs x link).symm.trans parent))
      by_cases link : g.childOf q = some c
      · have toC : g.childOf x = some c ↔ x = q := ⟨only, fun same => same ▸ link⟩
        simp [Graph.unlinked, link, mem_ids_of_childOf link, toC]
      · -- `c` names a parent that does not link to it, so no block links to it
        have free : g.childOf x ≠ some c := fun toC => link (only toC ▸ toC)
        simp [Graph.unlinked, link, free]

theorem childOf_detached (wf : g.WellFormed) (x : String) :
    (g.detached c).childOf x = if g.childOf x = some c then none else g.childOf x :=
  (wf.backs c).childOf_detached x

theorem parentOf_detached (member : c ∈ g.ids) (x : String) :
    (g.detached c).parentOf x = if x = c then none else g.parentOf x := by
  unfold detached Graph.unlinked
  split
  · split <;> simp [member]
  · simp [member]

theorem WellFormed.detached (wf : g.WellFormed) (member : c ∈ g.ids) :
    (g.detached c).WellFormed where
  parent_mem x p link := by
    rw [parentOf_detached member] at link
    split at link
    · simp at link
    · simpa using wf.parent_mem x p link
  child_mem x y link := by
    rw [childOf_detached wf] at link
    split at link
    · simp at link
    · simpa using wf.child_mem x y link
  linked x y := by
    rw [childOf_detached wf, parentOf_detached member]
    by_cases same : y = c
    · subst same
      split_ifs <;> simp_all
    · by_cases toC : g.childOf x = some c
      · simp only [toC, if_true, same, if_false, reduceCtorEq, false_iff]
        rw [← wf.linked, toC]
        exact fun equal => same (Option.some.inj equal).symm
      · simp [toC, same, wf.linked]
  acyclic := wf.acyclic_of_sub fun x y link => by
    simp only [Link, childOf_detached wf] at link
    split at link
    · simp at link
    · exact link

end Detach

theorem find?_filter_id (l : List Block) (keep : String → Bool) (x : String) :
    (l.filter fun b => keep b.id).find? (·.id == x) =
      if keep x then l.find? (·.id == x) else none := by
  induction l with
  | nil => simp
  | cons b l ih =>
      by_cases named : b.id = x
      · subst named
        cases kept : keep b.id <;> simp [kept, ih]
      · by_cases kept : keep b.id <;> simp [kept, named, ih]

section RemoveChain

variable {g : Graph} {c : String}

theorem block?_kept (x : String) :
    (ofBlocks (g.blocks.filter fun b => !(g.chainIds c).contains b.id)).block? x =
      if x ∈ g.chainIds c then none else g.block? x := by
  rw [block?, ofBlocks, find?_filter_id g.blocks (fun i => !(g.chainIds c).contains i)]
  simp [block?]

theorem mem_ids_kept {x : String} :
    x ∈ (ofBlocks (g.blocks.filter fun b => !(g.chainIds c).contains b.id)).ids ↔
      x ∈ g.ids ∧ x ∉ g.chainIds c := by
  simp only [ids, ofBlocks, List.mem_map, List.mem_filter, Bool.not_eq_true', Bool.eq_false_iff,
    ne_eq, List.contains_iff_mem]
  constructor
  · rintro ⟨b, ⟨member, outside⟩, rfl⟩
    exact ⟨⟨b, member, rfl⟩, outside⟩
  · rintro ⟨⟨b, member, rfl⟩, outside⟩
    exact ⟨b, ⟨member, outside⟩, rfl⟩

theorem mem_ids_removedChain {x : String} :
    x ∈ (g.removedChain c).ids ↔ x ∈ g.ids ∧ x ∉ g.chainIds c := by
  rw [removedChain, ids_unlinked, mem_ids_kept]

theorem parentOf_removedChain (x : String) :
    (g.removedChain c).parentOf x = if x ∈ g.chainIds c then none else g.parentOf x := by
  unfold removedChain Graph.unlinked
  have kept : (ofBlocks (g.blocks.filter fun b => !(g.chainIds c).contains b.id)).parentOf x =
      if x ∈ g.chainIds c then none else g.parentOf x := by
    rw [parentOf, block?_kept]
    split <;> rfl
  split
  · split
    · rw [parentOf_setChild, kept]
    · exact kept
  · exact kept

theorem childOf_removedChain (valid : g.Valid) (wf : g.WellFormed) (member : c ∈ g.ids)
    (x : String) :
    (g.removedChain c).childOf x =
      if x ∈ g.chainIds c ∨ g.childOf x = some c then none else g.childOf x := by
  have kept : ∀ x, (ofBlocks (g.blocks.filter fun b => !(g.chainIds c).contains b.id)).childOf x =
      if x ∈ g.chainIds c then none else g.childOf x := by
    intro x
    rw [childOf, block?_kept]
    split <;> rfl
  unfold removedChain Graph.unlinked
  cases parent : g.parentOf c with
  | none =>
      -- no block links to `c`
      simp only [kept, wf.childOf_ne_of_orphan parent, or_false]
  | some q =>
      have link : g.childOf q = some c := (wf.linked q c).mpr parent
      -- the parent of `c` lies off the chain from `c`: otherwise `c` would reach itself
      have outside : q ∉ g.chainIds c := fun inside =>
        wf.acyclic c (TransGen.tail' ((valid.mem_chainIds_iff wf member).mp inside) link)
      have hq : q ∈ (ofBlocks (g.blocks.filter fun b => !(g.chainIds c).contains b.id)).ids :=
        mem_ids_kept.mpr ⟨wf.parent_mem c q parent, outside⟩
      dsimp only
      rw [kept, if_neg outside, if_pos link, childOf_setChild hq, kept]
      by_cases hx : x = q
      · simp [hx, link]
      · simp [hx, wf.childOf_eq_iff parent]

theorem WellFormed.removedChain (valid : g.Valid) (wf : g.WellFormed) (member : c ∈ g.ids) :
    (g.removedChain c).WellFormed where
  parent_mem x p link := by
    rw [parentOf_removedChain] at link
    split at link
    · simp at link
    · rename_i outside
      refine mem_ids_removedChain.mpr ⟨wf.parent_mem x p link, fun inside => outside ?_⟩
      exact valid.chainIds_closed wf inside ((wf.linked p x).mpr link)
  child_mem x y link := by
    rw [childOf_removedChain valid wf member] at link
    split at link
    · simp at link
    · rename_i outside
      simp only [not_or] at outside
      refine mem_ids_removedChain.mpr ⟨wf.child_mem x y link, fun inside => outside.1 ?_⟩
      refine valid.mem_chainIds_of_link wf member inside (fun same => ?_) link
      exact outside.2 (same ▸ link)
  linked x y := by
    rw [childOf_removedChain valid wf member, parentOf_removedChain]
    by_cases hy : y ∈ g.chainIds c
    · -- no link into the chain survives
      simp only [hy, if_true, reduceCtorEq, iff_false]
      split
      · simp
      · rename_i outside
        simp only [not_or] at outside
        intro link
        refine outside.1 (valid.mem_chainIds_of_link wf member hy (fun same => ?_) link)
        exact outside.2 (same ▸ link)
    · rw [if_neg hy, ← wf.linked]
      split
      · rename_i cut
        simp only [reduceCtorEq, false_iff]
        intro link
        rcases cut with inside | toC
        · exact hy (valid.chainIds_closed wf inside link)
        · exact hy (Option.some.inj (toC.symm.trans link) ▸ valid.mem_chainIds_self member)
      · rfl
  acyclic := wf.acyclic_of_sub fun x y link => by
    simp only [Link, childOf_removedChain valid wf member] at link
    split at link
    · simp at link
    · exact link

end RemoveChain

@[simp] theorem ids_attached (g : Graph) (child parent : String) :
    (g.attached child parent).ids = g.ids := by
  unfold attached
  split <;> simp

section Attach

variable {g : Graph} {c p : String}

theorem Backs.childOf_attached_of_none (backs : g.Backs c) (hp : p ∈ g.ids)
    (stays : g.displaced c p = none) (x : String) :
    (g.attached c p).childOf x =
      if x = p then some c else if g.childOf x = some c then none else g.childOf x := by
  unfold attached
  rw [stays]
  simp [backs.childOf_detached, hp]

theorem childOf_attached_of_none (wf : g.WellFormed) (hp : p ∈ g.ids)
    (stays : g.displaced c p = none) (x : String) :
    (g.attached c p).childOf x =
      if x = p then some c else if g.childOf x = some c then none else g.childOf x :=
  (wf.backs c).childOf_attached_of_none hp stays x

theorem parentOf_attached_of_none (member : c ∈ g.ids) (stays : g.displaced c p = none)
    (x : String) : (g.attached c p).parentOf x = if x = c then some p else g.parentOf x := by
  unfold attached
  rw [stays]
  by_cases same : x = c <;> simp [parentOf_detached member, member, same]

theorem Backs.childOf_attached_of_some (valid : g.Valid) (backs : g.Backs c) (hp : p ∈ g.ids)
    {d tail : String} (relinked : g.displaced c p = some d)
    (last : (g.chainIds c).getLast? = some tail) (x : String) :
    (g.attached c p).childOf x =
      if x = tail then some d
      else if x = p then some c else if g.childOf x = some c then none else g.childOf x := by
  have ht : tail ∈ g.ids := valid.mem_ids_of_chainIds (List.mem_of_getLast? last)
  unfold attached
  rw [relinked, last]
  simp [backs.childOf_detached, hp, ht]

theorem childOf_attached_of_some (valid : g.Valid) (wf : g.WellFormed) (hp : p ∈ g.ids)
    {d tail : String} (relinked : g.displaced c p = some d)
    (last : (g.chainIds c).getLast? = some tail) (x : String) :
    (g.attached c p).childOf x =
      if x = tail then some d
      else if x = p then some c else if g.childOf x = some c then none else g.childOf x :=
  (wf.backs c).childOf_attached_of_some valid hp relinked last x

theorem parentOf_attached_of_some (member : c ∈ g.ids) {d tail : String}
    (relinked : g.displaced c p = some d) (last : (g.chainIds c).getLast? = some tail)
    (x : String) :
    (g.attached c p).parentOf x =
      if x = d then some tail else if x = c then some p else g.parentOf x := by
  have hd : d ∈ g.ids := (displaced_eq_some_iff.mp relinked).2.1
  unfold attached
  rw [relinked, last]
  by_cases same : x = c <;> simp [parentOf_detached member, member, hd, same]

/-- With nothing displaced, `p` had no child or had `c` itself. -/
theorem Valid.childOf_of_displaced_none (valid : g.Valid) (wf : g.WellFormed) (member : c ∈ g.ids)
    (off : p ∉ g.chainIds c) (stays : g.displaced c p = none) :
    g.childOf p = none ∨ g.childOf p = some c := by
  cases hcp : g.childOf p with
  | none => exact .inl rfl
  | some d =>
      right
      -- `d` exists, so it stayed for lying on the moved chain, where only `c` has its
      -- parent off the chain
      have inside : d ∈ g.chainIds c := by
        simpa [displaced, hcp, wf.child_mem p d hcp] using stays
      by_contra other
      refine off (valid.mem_chainIds_of_link wf member inside (fun same => ?_) hcp)
      exact other (by rw [same])

theorem WellFormed.attached (valid : g.Valid) (wf : g.WellFormed) (member : c ∈ g.ids)
    (hp : p ∈ g.ids) (off : p ∉ g.chainIds c) : (g.attached c p).WellFormed := by
  have start := valid.mem_chainIds_self member
  obtain ⟨tail, last⟩ := valid.exists_getLast?_chainIds member
  have hTail : tail ∈ g.chainIds c := List.mem_of_getLast? last
  have tailNone := valid.childOf_last wf last
  have tp : tail ≠ p := fun same => off (same ▸ hTail)
  cases relinked : g.displaced c p with
  | none =>
      have pchild := valid.childOf_of_displaced_none wf member off relinked
      refine ⟨fun x y link => ?_, fun x y link => ?_, fun x y => ?_, ?_⟩
      · rw [parentOf_attached_of_none member relinked] at link
        rw [ids_attached]
        split at link
        · exact Option.some.inj link ▸ hp
        · exact wf.parent_mem x y link
      · rw [childOf_attached_of_none wf hp relinked] at link
        rw [ids_attached]
        split at link
        · exact Option.some.inj link ▸ member
        · split at link
          · simp at link
          · exact wf.child_mem x y link
      · rw [childOf_attached_of_none wf hp relinked, parentOf_attached_of_none member relinked]
        have old := wf.linked x y
        have oldP := wf.linked p y
        grind
      · refine valid.acyclic_of_relink wf member off fun x y link => ?_
        simp only [Link, childOf_attached_of_none wf hp relinked] at link
        split at link
        · rename_i hx
          exact .inl ⟨hx, (Option.some.inj link).symm⟩
        · rename_i hx
          split at link
          · simp at link
          · rename_i toC
            exact .inr (.inr ⟨link, hx, fun same => toC (same ▸ link)⟩)
  | some d =>
      obtain ⟨hcp, hd, dOff⟩ := displaced_eq_some_iff.mp relinked
      have dc : d ≠ c := fun same => dOff (same ▸ start)
      -- `d` does not reach `p`, which links to it
      have below : ¬ ReflTransGen g.Link d p := fun path => wf.acyclic p (TransGen.head' hcp path)
      refine ⟨fun x y link => ?_, fun x y link => ?_, fun x y => ?_, ?_⟩
      · rw [parentOf_attached_of_some member relinked last] at link
        rw [ids_attached]
        split at link
        · exact Option.some.inj link ▸ valid.mem_ids_of_chainIds hTail
        · split at link
          · exact Option.some.inj link ▸ hp
          · exact wf.parent_mem x y link
      · rw [childOf_attached_of_some valid wf hp relinked last] at link
        rw [ids_attached]
        split at link
        · exact Option.some.inj link ▸ hd
        · split at link
          · exact Option.some.inj link ▸ member
          · split at link
            · simp at link
            · exact wf.child_mem x y link
      · rw [childOf_attached_of_some valid wf hp relinked last,
          parentOf_attached_of_some member relinked last]
        have old := wf.linked x y
        have oldP := wf.linked p y
        have oldT := wf.linked tail y
        grind
      · refine valid.acyclic_of_relink wf member off fun x y link => ?_
        simp only [Link, childOf_attached_of_some valid wf hp relinked last] at link
        split at link
        · rename_i hx
          subst hx
          exact .inr (.inl ⟨hTail, Option.some.inj link ▸ dOff, Option.some.inj link ▸ below⟩)
        · split at link
          · rename_i hx
            exact .inl ⟨hx, (Option.some.inj link).symm⟩
          · rename_i hx
            split at link
            · simp at link
            · rename_i toC
              exact .inr (.inr ⟨link, hx, fun same => toC (same ▸ link)⟩)

end Attach

section Rest

variable {g : Graph}

theorem WellFormed.insert (wf : g.WellFormed) {b : Block}
    (unlinked : b.parent = none ∧ b.child = none) :
    (⟨g.blocks ++ [b], g.index.insert b.id g.blocks.length⟩ : Graph).WellFormed := by
  have found : ∀ x, (⟨g.blocks ++ [b], g.index.insert b.id g.blocks.length⟩ : Graph).block? x =
      (g.block? x).or (if b.id = x then some b else none) := by
    intro x
    simp [block?, List.find?_append, List.find?_singleton]
  refine wf.of_links (fun x member => ?_) (fun x => ?_) (fun x => ?_)
  · simp only [ids, List.map_append, List.mem_append]
    exact .inl member
  · rw [childOf, childOf, found]
    cases g.block? x <;> simp [unlinked.2]
  · rw [parentOf, parentOf, found]
    cases g.block? x <;> simp [unlinked.1]

theorem WellFormed.setValue (wf : g.WellFormed) (id : String) (v : Option UInt32) :
    (g.update id fun b => { b with value := v }).WellFormed :=
  wf.of_links (fun x member => by simpa using member) (childOf_setValue v) (parentOf_setValue v)

/-- In a well-formed graph the last block naming `x` as its parent is the one `x` links to. -/
theorem lastChildOf_eq (valid : g.Valid) (wf : g.WellFormed) (x : String) :
    g.lastChildOf x = g.childOf x := by
  have named : ∀ b ∈ g.blocks.filter (·.parent == some x), g.childOf x = some b.id := by
    intro b member
    simp only [List.mem_filter, beq_iff_eq] at member
    exact (wf.linked x b.id).mpr (by rw [parentOf_of_mem valid.nodup member.1]; exact member.2)
  unfold lastChildOf
  cases last : (g.blocks.filter (·.parent == some x)).getLast? with
  | none =>
      cases link : g.childOf x with
      | none => rfl
      | some y =>
          -- the block `x` links to names `x` as its parent
          obtain ⟨b, found⟩ := exists_block?_of_mem (wf.child_mem x y link)
          have parent : b.parent = some x := by
            rw [← parentOf_of_mem valid.nodup (mem_of_block? found), id_of_block? found]
            exact (wf.linked x y).mp link
          have : b ∈ g.blocks.filter (·.parent == some x) := by
            simp [mem_of_block? found, parent]
          simp [List.getLast?_eq_none_iff.mp last] at this
  | some b => simp [named b (List.mem_of_getLast? last)]

theorem block?_normalizeLinks (x : String) :
    g.normalizeLinks.block? x = (g.block? x).map fun b => { b with child := g.lastChildOf b.id } := by
  simp only [block?, normalizeLinks, List.find?_map]
  rfl

theorem WellFormed.normalizeLinks (valid : g.Valid) (wf : g.WellFormed) :
    g.normalizeLinks.WellFormed := by
  refine wf.of_links (fun x member => by simpa [ids, Graph.normalizeLinks] using member)
    (fun x => ?_) (fun x => ?_)
  · rw [childOf, block?_normalizeLinks, childOf]
    cases found : g.block? x with
    | none => rfl
    | some b =>
        show g.lastChildOf b.id = b.child
        rw [lastChildOf_eq valid wf, id_of_block? found, childOf, found]
        rfl
  · rw [parentOf, block?_normalizeLinks, parentOf]
    cases g.block? x <;> rfl

/-- Every call keeps a valid graph well formed, whether it succeeds or fails, when an
inserted block comes unlinked. -/
theorem WellFormed.apply (valid : g.Valid) (wf : g.WellFormed) (op : Op)
    (unlinked : ∀ b, op = .insert b → b.parent = none ∧ b.child = none) :
    (op.apply g).WellFormed := by
  cases op with
  | insert b =>
      rw [valid.apply_insert]
      split_ifs
      · exact wf
      · exact wf.insert (unlinked b rfl)
  | attach c p =>
      rw [valid.apply_attach]
      split_ifs with ok
      · exact wf.attached valid ok.1 ok.2.1 ok.2.2
      · exact wf
  | detach id =>
      rw [valid.apply_detach]
      split_ifs with member
      · exact wf.detached member
      · exact wf
  | removeChain id =>
      rw [valid.apply_removeChain]
      split_ifs with member
      · exact wf.removedChain valid member
      · exact wf
  | setDelayValue id v =>
      rw [valid.apply_setDelayValue]
      split_ifs
      · exact wf.setValue id _
      · exact wf
  | normalizeLinks => exact wf.normalizeLinks valid

end Rest

/-- Every sequence of calls, each successful or not, keeps a valid well-formed graph well
formed, as long as the blocks it inserts come unlinked. -/
theorem wellFormed_applyAll {g : Graph} (valid : g.Valid) (wf : g.WellFormed) (ops : List Op)
    (unlinked : ∀ b, Op.insert b ∈ ops → b.parent = none ∧ b.child = none) :
    (g.applyAll ops).WellFormed := by
  induction ops generalizing g with
  | nil => exact wf
  | cons op ops ih =>
      refine ih (valid.apply op) (wf.apply valid op fun b same => ?_) fun b member => ?_
      · exact unlinked b (same ▸ List.mem_cons_self)
      · exact unlinked b (List.mem_cons_of_mem op member)

theorem wellFormed_linkThree :
    empty.Valid ∧ empty.WellFormed ∧
      (∀ b, Op.insert b ∈ [.insert (Block.make "a" .greenFlag), .insert (Block.make "b" .up),
        .insert (Block.make "c" .delay), .attach "b" "a", .attach "c" "a"] →
        b.parent = none ∧ b.child = none) ∧
      (empty.applyAll [.insert (Block.make "a" .greenFlag), .insert (Block.make "b" .up),
        .insert (Block.make "c" .delay), .attach "b" "a", .attach "c" "a"]).WellFormed := by
  have unlinked : ∀ b, Op.insert b ∈ [.insert (Block.make "a" .greenFlag),
      .insert (Block.make "b" .up), .insert (Block.make "c" .delay), .attach "b" "a",
      .attach "c" "a"] → b.parent = none ∧ b.child = none := by
    simp [Block.make]
  exact ⟨Valid.empty, wellFormed_empty, unlinked,
    wellFormed_applyAll Valid.empty wellFormed_empty _ unlinked⟩

end Graph

end BlockProgram
