import BlockProgram.Proofs.Graph.Removal
import BlockProgram.Proofs.Matching

/-! # Attaching a head under a block without a child

On a well-formed graph, attaching a head `c` under a block `t` that has no child adds the
one link `t → c` and changes no other child link (`Graph.childOf_attached_leaf`): nothing
is displaced, and no block linked to `c` before. A chain that reached `t` stopped there, so
it now runs on through the chain from `c`, and every other chain is as it was
(`Graph.Valid.chainIds_attached_leaf`). The heads are the old ones but `c`.

So the validation chains are the old ones less the chain from `c`, which is appended to
the chain that holds `t`. A pattern that occurs in a run of some chain's types still occurs
in one afterwards, in the grown chain when it occurred in either of its parts
(`Pattern.matchesContiguous_append_left`, `Pattern.matchesContiguous_append_right`): a
program that passes subsequence validation still passes.
-/

namespace BlockProgram

namespace Pattern

variable (p : Pattern)

/-- A pattern that occurs in a run of types still does with more types before them. -/
theorem matchesContiguous_append_left {v : List String} (matched : p.matchesContiguous v = true)
    (u : List String) : p.matchesContiguous (u ++ v) = true := by
  obtain ⟨nonempty, a, w, b, rfl, window⟩ := p.matchesContiguous_iff.mp matched
  exact p.matchesContiguous_iff.mpr ⟨nonempty, u ++ a, w, b, by simp, window⟩

/-- A pattern that occurs in a run of types still does with more types after them. -/
theorem matchesContiguous_append_right {v : List String} (matched : p.matchesContiguous v = true)
    (w : List String) : p.matchesContiguous (v ++ w) = true := by
  obtain ⟨nonempty, a, x, b, rfl, window⟩ := p.matchesContiguous_iff.mp matched
  exact p.matchesContiguous_iff.mpr ⟨nonempty, a, x, b ++ w, by simp, window⟩

end Pattern

namespace Graph

namespace Run

variable {g : Graph} {x : String} {path : List String}

/-- A path that follows child links as far as they go still does in a graph where no block
on it has another child link. -/
theorem of_childOf_eq {g' : Graph} (run : g.Run x path)
    (same : ∀ y ∈ path, g'.childOf y = g.childOf y) : g'.Run x path where
  head := run.head
  chain := run.chain.imp_of_mem_imp fun a _ inA _ link => by
    rw [Link, same a inA]
    exact link
  last y lastY := by
    rw [same y (List.mem_of_getLast? lastY)]
    exact run.last y lastY

/-- A block of a path that links nowhere is the path's last. -/
theorem getLast?_eq {y : String} (run : g.Run x path) (member : y ∈ path)
    (ends : g.childOf y = none) : path.getLast? = some y := by
  obtain ⟨s, r, rfl⟩ := List.append_of_mem member
  cases r with
  | nil => simp
  | cons z r =>
      have link := (List.isChain_append_cons_cons.mp run.chain).2.1
      simp [Link, ends] at link

end Run

/-- The relinked graph's blocks, their links dropped, are found as the old ones. -/
theorem Relinked.block?_withoutLinks {g g' : Graph} {touched : String → Prop}
    (relinked : Relinked g g' touched) (y : String) :
    (g'.block? y).map Block.withoutLinks = (g.block? y).map Block.withoutLinks := by
  have found : ∀ G : Graph,
      (G.block? y).map Block.withoutLinks = (G.blocks.map Block.withoutLinks).find? (·.id == y) := by
    intro G
    rw [List.find?_map]
    rfl
  rw [found, found, relinked.contents]

section Heads

variable {g : Graph} (valid : g.Valid)
include valid

/-- The ids of a valid graph's heads, in graph order, are its ids without a parent. -/
theorem Valid.headIds :
    (g.blocks.filter (·.isHead)).map (·.id) = g.ids.filter fun x => g.parentOf x = none := by
  rw [ids, List.filter_map]
  congr 1
  refine List.filter_congr fun b member => ?_
  rw [Block.isHead, Function.comp_apply, parentOf_of_mem valid.nodup member]
  cases b.parent <;> rfl

omit valid in
theorem mem_ids_of_headIds {x : String} (member : x ∈ (g.blocks.filter (·.isHead)).map (·.id)) :
    x ∈ g.ids := by
  obtain ⟨b, inHeads, rfl⟩ := List.mem_map.mp member
  exact List.mem_map_of_mem (List.mem_of_mem_filter inHeads)

/-- Only the chain from `c` is the chain from `c`: a head's chain starts with the head. -/
theorem Valid.filter_chainIds_ne {c : String} (hc : c ∈ g.ids) :
    (((g.blocks.filter (·.isHead)).map (·.id)).map g.chainIds).filter (· ≠ g.chainIds c) =
      (((g.blocks.filter (·.isHead)).map (·.id)).filter (· ≠ c)).map g.chainIds := by
  rw [List.filter_map]
  congr 1
  refine List.filter_congr fun x member => ?_
  have distinct : g.chainIds x = g.chainIds c ↔ x = c := by
    refine ⟨fun same => ?_, fun same => same ▸ rfl⟩
    have starts := valid.chainIds_head? (mem_ids_of_headIds member)
    rw [same, valid.chainIds_head? hc, Option.some_inj] at starts
    exact starts.symm
  simp [distinct]

variable (wf : g.WellFormed)
include wf

/-- On a well-formed graph the validation chains are the execution chains: the chains from
the heads, in order. -/
theorem Valid.validationChains_eq :
    Chain.validationChains g.blocks = ((g.blocks.filter (·.isHead)).map (·.id)).map g.chainFrom := by
  have wf' : (Graph.ofBlocks g.blocks).WellFormed :=
    wf.of_links (fun _ member => member) (fun _ => rfl) (fun _ => rfl)
  rw [Chain.validationChains_of_wellFormed valid.nodup wf',
    ← Chain.executionChains_of_wellFormed valid.nodup wf', valid.executionChains_eq wf, List.map_map]
  rfl

theorem Valid.validationIds :
    (Chain.validationChains g.blocks).map (·.map (·.id)) =
      ((g.blocks.filter (·.isHead)).map (·.id)).map g.chainIds := by
  rw [valid.validationChains_eq wf, List.map_map]
  rfl

end Heads

section Leaf

variable {g : Graph} {c t : String}

/-- Attaching a head under a block without a child links that block to the head and
changes no other child link. -/
theorem childOf_attached_leaf (wf : g.WellFormed) (ht : t ∈ g.ids) (head : g.parentOf c = none)
    (leaf : g.childOf t = none) (x : String) :
    (g.attached c t).childOf x = if x = t then some c else g.childOf x := by
  have stays : g.displaced c t = none := by simp [displaced, leaf]
  rw [childOf_attached_of_none wf ht stays, if_neg (wf.childOf_ne_of_orphan head)]

variable (valid : g.Valid) (wf : g.WellFormed) (hc : c ∈ g.ids)
include valid wf hc

/-- The heads after the attach are the old heads but `c`. -/
theorem Valid.headIds_attached_leaf :
    ((g.attached c t).blocks.filter (·.isHead)).map (·.id) =
      ((g.blocks.filter (·.isHead)).map (·.id)).filter (· ≠ c) := by
  rw [(valid.attached c t).headIds, valid.headIds, ids_attached, List.filter_filter]
  refine List.filter_congr fun x member => ?_
  have heads := heads_attached valid wf hc (p := t) x
  rw [ids_attached] at heads
  simp only [member, true_and] at heads
  simp [heads, Bool.and_comm]

variable (ht : t ∈ g.ids) (head : g.parentOf c = none) (leaf : g.childOf t = none)
  (off : t ∉ g.chainIds c)
include ht head leaf off

/-- After attaching the head `c` under `t`, the chain from a block that reached `t` runs on
through the chain from `c`, and every other chain is as it was. -/
theorem Valid.chainIds_attached_leaf {x : String} (hx : x ∈ g.ids) :
    (g.attached c t).chainIds x =
      g.chainIds x ++ if t ∈ g.chainIds x then g.chainIds c else [] := by
  have links := childOf_attached_leaf wf ht head leaf
  have runX := valid.run_chainIds wf hx
  refine (valid.attached c t).chainIds_eq_of_run (wf.attached valid hc ht off)
    (by rwa [ids_attached]) ?_
  by_cases reached : t ∈ g.chainIds x
  · -- the chain from `x` ends at `t`, which now links on to `c`
    rw [if_pos reached]
    have runC := valid.run_chainIds wf hc
    have lastX := runX.getLast?_eq reached leaf
    obtain ⟨tail, lastC⟩ := valid.exists_getLast?_chainIds hc
    -- `t` linked nowhere, so every old link leaves another block and survives
    have kept : ∀ a b, g.Link a b → (g.attached c t).Link a b := by
      intro a b link
      have other : a ≠ t := by
        rintro rfl
        simp [Link, leaf] at link
      rw [Link, links, if_neg other]
      exact link
    refine ⟨?_, ?_, fun y lastY => ?_⟩
    · rw [List.head?_append, runX.head, Option.some_or]
    · refine List.isChain_append.mpr ⟨runX.chain.imp kept, runC.chain.imp kept, ?_⟩
      intro a lastA b firstB
      rw [lastX, Option.mem_def, Option.some_inj] at lastA
      rw [runC.head, Option.mem_def, Option.some_inj] at firstB
      rw [Link, ← lastA, ← firstB, links, if_pos rfl]
    · rw [List.getLast?_append, lastC, Option.some_or, Option.mem_def, Option.some_inj] at lastY
      have other : y ≠ t := fun same => off (same ▸ lastY ▸ List.mem_of_getLast? lastC)
      rw [links, if_neg other, ← lastY]
      exact valid.childOf_last wf lastC
  · rw [if_neg reached, List.append_nil]
    exact runX.of_childOf_eq fun y inside => by
      rw [links, if_neg fun (same : y = t) => reached (same ▸ inside)]

/-- The same chains as blocks, their links dropped: the blocks themselves are the old ones
but for their links. -/
theorem Valid.chainFrom_attached_leaf {x : String} (hx : x ∈ g.ids) :
    ((g.attached c t).chainFrom x).map Block.withoutLinks =
      (g.chainFrom x ++ if t ∈ g.chainIds x then g.chainFrom c else []).map Block.withoutLinks := by
  have same := (Relinked.attached g c t).block?_withoutLinks
  have old : ∀ y, g.chainFrom y = (g.chainIds y).filterMap g.block? := valid.chainFrom_eq_filterMap
  rw [(valid.attached c t).chainFrom_eq_filterMap, valid.chainIds_attached_leaf wf hc ht head leaf off hx,
    List.map_filterMap, List.filterMap_congr fun y _ => same y, ← List.map_filterMap,
    List.filterMap_append, ← old]
  split
  · rw [← old]
  · rfl

/-- The chain types validation reads after the attach: the chains from the old heads but
`c`, the one that reached `t` followed by the chain from `c`. -/
theorem Valid.chainTypes_attached_leaf :
    Validation.chainTypes (g.attached c t).blocks =
      (((g.blocks.filter (·.isHead)).map (·.id)).filter (· ≠ c)).map fun x =>
        (g.chainFrom x ++ if t ∈ g.chainIds x then g.chainFrom c else []).map (·.type.name) := by
  rw [Validation.chainTypes, (valid.attached c t).validationChains_eq (wf.attached valid hc ht off),
    valid.headIds_attached_leaf wf hc, List.map_map]
  refine List.map_congr_left fun x member => ?_
  obtain ⟨h, inBlocks, rfl⟩ := List.mem_map.mp (List.mem_filter.mp member).1
  -- a type is read off a block with its links dropped
  have types := congrArg (List.map fun b => b.type.name)
    (valid.chainFrom_attached_leaf wf hc ht head leaf off
      (List.mem_map_of_mem (List.mem_of_mem_filter inBlocks)))
  simpa only [List.map_map, Function.comp_def, Block.withoutLinks] using types

/-- The validation chains after the attach, as ids: the old ones less the chain from `c`,
which now follows the chain that holds `t`. -/
theorem Valid.validationIds_attached_leaf :
    (Chain.validationChains (g.attached c t).blocks).map (·.map (·.id)) =
      (((Chain.validationChains g.blocks).map (·.map (·.id))).filter (· ≠ g.chainIds c)).map
        (fun v => if t ∈ v then v ++ g.chainIds c else v) := by
  rw [(valid.attached c t).validationIds (wf.attached valid hc ht off), valid.validationIds wf,
    valid.headIds_attached_leaf wf hc, valid.filter_chainIds_ne hc, List.map_map]
  refine List.map_congr_left fun x member => ?_
  rw [Function.comp_apply, valid.chainIds_attached_leaf wf hc ht head leaf off
    (mem_ids_of_headIds (List.mem_filter.mp member).1)]
  split <;> simp

/-- A pattern that occurred in a chain before the attach occurs in one after it: in the
same chain, grown or not, or, for the chain from `c`, in the chain it now ends. -/
theorem Valid.subsequence_attached_leaf {patterns : List Pattern}
    (before : Validation.subsequence g.blocks patterns = true) :
    Validation.subsequence (g.attached c t).blocks patterns = true := by
  rw [Validation.subsequence_eq_any] at before ⊢
  obtain ⟨p, inPatterns, found⟩ := List.any_eq_true.mp before
  obtain ⟨types, inChains, matched⟩ := List.any_eq_true.mp found
  refine List.any_eq_true.mpr ⟨p, inPatterns, List.any_eq_true.mpr ?_⟩
  rw [valid.chainTypes_attached_leaf wf hc ht head leaf off]
  rw [Validation.chainTypes, valid.validationChains_eq wf, List.map_map] at inChains
  obtain ⟨x, inHeads, rfl⟩ := List.mem_map.mp inChains
  by_cases xc : x = c
  · -- the chain from `c` now follows the chain that holds `t`, below a head of its own
    subst xc
    obtain ⟨r, inBlocks, headR, path⟩ := wf.exists_head valid.nodup ht
    have reached : t ∈ g.chainIds r.id :=
      (valid.mem_chainIds_iff wf (List.mem_map_of_mem inBlocks)).mpr path
    have other : r.id ≠ x := fun same => off (same ▸ reached)
    have kept : r.id ∈ ((g.blocks.filter (·.isHead)).map (·.id)).filter (· ≠ x) :=
      List.mem_filter.mpr ⟨List.mem_map_of_mem (List.mem_filter.mpr ⟨inBlocks, headR⟩),
        by simpa using other⟩
    refine ⟨_, List.mem_map.mpr ⟨r.id, kept, rfl⟩, ?_⟩
    rw [if_pos reached, List.map_append]
    exact p.matchesContiguous_append_left matched _
  · have kept : x ∈ ((g.blocks.filter (·.isHead)).map (·.id)).filter (· ≠ c) :=
      List.mem_filter.mpr ⟨inHeads, by simpa using xc⟩
    refine ⟨_, List.mem_map.mpr ⟨x, kept, rfl⟩, ?_⟩
    rw [List.map_append]
    exact p.matchesContiguous_append_right matched _

end Leaf

/-- On a well-formed graph, attaching a head `c` under a block `t` without a child drops the
chain from `c` from the validation chains and appends it to the chain that holds `t`; every
other validation chain keeps its blocks. So a program that passes subsequence validation
still passes, whatever the patterns. -/
theorem attach_under_leaf_keeps_subsequence {g g' : Graph} {c t : String} (valid : g.Valid)
    (wf : g.WellFormed) (head : g.parentOf c = none) (leaf : g.childOf t = none)
    (ok : (attach c t).run g = .ok () g') :
    (Chain.validationChains g'.blocks).map (·.map (·.id)) =
        (((Chain.validationChains g.blocks).map (·.map (·.id))).filter (· ≠ g.chainIds c)).map
          (fun v => if t ∈ v then v ++ g.chainIds c else v) ∧
      ∀ patterns, Validation.subsequence g.blocks patterns = true →
        Validation.subsequence g'.blocks patterns = true := by
  obtain ⟨hc, ht, off, rfl⟩ := valid.attach_ok ok
  exact ⟨valid.validationIds_attached_leaf wf hc ht head leaf off,
    fun _ before => valid.subsequence_attached_leaf wf hc ht head leaf off before⟩

/-- A flag with a block below it, and a loose block attached under that block. -/
theorem attach_loose_block_under_program :
    let g := (ofBlocks [Block.make "flag" .greenFlag, Block.make "up" .up,
      Block.make "loose" .down]).attached "up" "flag"
    g.Valid ∧ g.WellFormed ∧ g.parentOf "loose" = none ∧ g.childOf "up" = none ∧
      (attach "loose" "up").run g = .ok () (g.attached "loose" "up") ∧
      ((Chain.validationChains (g.attached "loose" "up").blocks).map (·.map (·.id)) =
          (((Chain.validationChains g.blocks).map (·.map (·.id))).filter
            (· ≠ g.chainIds "loose")).map
            (fun v => if "up" ∈ v then v ++ g.chainIds "loose" else v) ∧
        ∀ patterns, Validation.subsequence g.blocks patterns = true →
          Validation.subsequence (g.attached "loose" "up").blocks patterns = true) := by
  intro g
  have valid₀ : (ofBlocks [Block.make "flag" .greenFlag, Block.make "up" .up,
      Block.make "loose" .down]).Valid := Valid.ofBlocks (by decide)
  have wf₀ : (ofBlocks [Block.make "flag" .greenFlag, Block.make "up" .up,
      Block.make "loose" .down]).WellFormed := WellFormed.of_unlinked (by decide)
  have valid : g.Valid := valid₀.attached _ _
  have wf : g.WellFormed :=
    wf₀.attached valid₀ (by decide) (by decide) (by rw [chainIds, valid₀.chainFrom_eq]; decide)
  have head : g.parentOf "loose" = none := by
    simp only [g, attached, displaced, chainIds, valid₀.chainFrom_eq]
    decide
  have leaf : g.childOf "up" = none := by
    simp only [g, attached, displaced, chainIds, valid₀.chainFrom_eq]
    decide
  have off : "up" ∉ g.chainIds "loose" := by
    rw [chainIds, valid.chainFrom_eq]
    simp only [g, attached, displaced, chainIds, valid₀.chainFrom_eq]
    decide
  have ok : (attach "loose" "up").run g = .ok () (g.attached "loose" "up") := by
    rw [valid.attach_run, if_neg (by simp [g]; decide), if_neg (by simp [g]; decide), if_neg off]
  exact ⟨valid, wf, head, leaf, ok, attach_under_leaf_keeps_subsequence valid wf head leaf ok⟩

end Graph

end BlockProgram
