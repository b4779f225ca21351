import BlockProgram.Proofs.Graph.Invariant
import BlockProgram.Proofs.Chain.Validation

/-! # Where `attach` puts the moved chain

In a well-formed graph the chain from a block is its one maximal path along child links:
it starts at the block, each block links to the next, and the last links nowhere
(`Graph.Run`). After a successful `attach c p` the path from `p` runs through `p`, the chain
that hung below `c`, and then what followed `p` before, less the moved blocks. The chain
from `p` before the call splits the same way in every case the edit meets: `p` had no
child, had a child in another chain, had `c` itself, or had `c` further down
(`Graph.Valid.chainIds_split`).
-/

namespace BlockProgram

namespace Graph

open Relation

/-- `path` follows child links from `x` as far as they go. -/
structure Run (g : Graph) (x : String) (path : List String) : Prop where
  head : path.head? = some x
  chain : path.IsChain g.Link
  last : ∀ y ∈ path.getLast?, g.childOf y = none

namespace Run

variable {g : Graph}

theorem tail {x y : String} {rest : List String} (run : g.Run x (x :: y :: rest)) :
    g.Run y (y :: rest) where
  head := rfl
  chain := (List.isChain_cons_cons.mp run.chain).2
  last z found := run.last z (by rwa [List.getLast?_cons_cons])

/-- The child link of a path's first block names the path's second block, if any. -/
theorem childOf_eq {x : String} {rest : List String} (run : g.Run x (x :: rest)) :
    g.childOf x = rest.head? := by
  cases rest with
  | nil => exact run.last x rfl
  | cons y rest => exact (List.isChain_cons_cons.mp run.chain).1

/-- Child links are a function, so one path follows them from a block as far as they go. -/
theorem unique {x : String} {l l' : List String} (run : g.Run x l) (run' : g.Run x l') :
    l = l' := by
  induction l generalizing x l' with
  | nil => exact absurd run.head (by simp)
  | cons a rest ih =>
      obtain rfl : a = x := by simpa using run.head
      cases l' with
      | nil => exact absurd run'.head (by simp)
      | cons a' rest' =>
          obtain rfl : a' = a := by simpa using run'.head
          have next := run.childOf_eq.symm.trans run'.childOf_eq
          cases rest with
          | nil => cases rest' with
            | nil => rfl
            | cons _ _ => simp at next
          | cons y rest =>
              cases rest' with
              | nil => simp at next
              | cons y' rest' =>
                  obtain rfl : y' = y := (Option.some.inj next).symm
                  rw [ih run.tail run'.tail]

end Run

theorem chainIds_nodup (g : Graph) (x : String) : (g.chainIds x).Nodup :=
  Chain.walk_ids_nodup _ _ _ _

section Chains

variable {g : Graph} (valid : g.Valid)
include valid

theorem Valid.run_chainIds (wf : g.WellFormed) {x : String} (member : x ∈ g.ids) :
    g.Run x (g.chainIds x) :=
  ⟨valid.chainIds_head? member, valid.chainIds_isChain x, fun _ last => valid.childOf_last wf last⟩

theorem Valid.chainIds_eq_of_run (wf : g.WellFormed) {x : String} (member : x ∈ g.ids)
    {path : List String} (run : g.Run x path) : g.chainIds x = path :=
  (valid.run_chainIds wf member).unique run

/-- No block of the chain from `c` links to `c`: that would close a loop. -/
theorem Valid.not_link_to_start (wf : g.WellFormed) {c x : String} (hc : c ∈ g.ids)
    (inside : x ∈ g.chainIds c) : ¬ g.Link x c :=
  fun link => wf.acyclic c (TransGen.tail' ((valid.mem_chainIds_iff wf hc).mp inside) link)

variable (wf : g.WellFormed) {c p : String} (hc : c ∈ g.ids) (hp : p ∈ g.ids)
  (off : p ∉ g.chainIds c)
include wf hc hp off

/-- The chain from `p` is `p`, the blocks before `c` if `c` lies below `p`, and then the
chain from `c` when it does: the chains of a well-formed graph meet only where one holds
the other's start. -/
theorem Valid.chainIds_split :
    g.chainIds p = p :: ((g.chainIds p).tail.filter (· ∉ g.chainIds c) ++
      if c ∈ g.chainIds p then g.chainIds c else []) := by
  have runP := valid.run_chainIds wf hp
  obtain ⟨rest, split⟩ : ∃ rest, g.chainIds p = p :: rest := by
    cases h : g.chainIds p with
    | nil => exact absurd (h ▸ runP.head) (by simp)
    | cons a rest => exact ⟨rest, by simpa [h] using runP.head⟩
  by_cases below : c ∈ g.chainIds p
  · -- the chain from `p` passes `c` and then runs on as the chain from `c`
    rw [if_pos below, split, List.tail_cons]
    have cp : c ≠ p := fun same => off (same ▸ valid.mem_chainIds_self hc)
    rw [split] at below runP
    obtain ⟨s, t, rest_eq⟩ := List.append_of_mem ((List.mem_cons.mp below).resolve_left cp)
    have runC : g.Run c (c :: t) := by
      refine ⟨rfl, ?_, fun z found => runP.last z ?_⟩
      · have whole := runP.chain
        rw [rest_eq, ← List.cons_append] at whole
        exact (List.isChain_append.mp whole).2.1
      · rwa [rest_eq, ← List.cons_append, List.getLast?_append_of_ne_nil _ (List.cons_ne_nil c t)]
    have moved : c :: t = g.chainIds c := ((valid.run_chainIds wf hc).unique runC).symm
    rw [moved] at rest_eq
    have distinct := g.chainIds_nodup p
    rw [split, rest_eq, List.nodup_cons, List.nodup_append] at distinct
    have kept : s.filter (· ∉ g.chainIds c) = s :=
      List.filter_eq_self.mpr fun z inside => by
        simpa using fun inM => distinct.2.2.2 z inside z inM rfl
    have dropped : (g.chainIds c).filter (· ∉ g.chainIds c) = [] :=
      List.filter_eq_nil_iff.mpr fun z inM => by simpa using inM
    rw [rest_eq, List.filter_append, kept, dropped, List.append_nil]
  · -- the chain from `c` lies apart from the chain from `p`
    rw [if_neg below, List.append_nil, split, List.tail_cons]
    congr 1
    refine (List.filter_eq_self.mpr fun z inside => ?_).symm
    have inP : z ∈ g.chainIds p := split ▸ List.mem_cons_of_mem p inside
    simp only [decide_eq_true_eq]
    intro inC
    rcases wf.reaches_of_common ((valid.mem_chainIds_iff wf hc).mp inC)
        ((valid.mem_chainIds_iff wf hp).mp inP) with down | up
    · exact off ((valid.mem_chainIds_iff wf hc).mpr down)
    · exact below ((valid.mem_chainIds_iff wf hp).mpr up)

/-- What followed `p` before `attach c p`, less the moved blocks, keeps its links: the
blocks the edit links after the moved chain. -/
theorem Valid.following_isChain :
    ((g.chainIds p).tail.filter (· ∉ g.chainIds c)).IsChain g.Link := by
  have chain := (valid.run_chainIds wf hp).chain
  rw [valid.chainIds_split wf hc hp off, List.isChain_cons, List.isChain_append] at chain
  exact chain.2.1

theorem Valid.mem_following {z : String}
    (inside : z ∈ (g.chainIds p).tail.filter (· ∉ g.chainIds c)) : z ∉ g.chainIds c ∧ z ≠ p := by
  refine ⟨of_decide_eq_true (List.mem_filter.mp inside).2, ?_⟩
  rintro rfl
  -- `p` heads its own chain, which holds no id twice
  have distinct := g.chainIds_nodup z
  rw [valid.chainIds_split wf hc hp off, List.nodup_cons] at distinct
  exact distinct.1 (List.mem_append_left _ inside)

/-- The first block after `p` that is not moved is the block `attach` displaces. -/
theorem Valid.following_head? :
    ((g.chainIds p).tail.filter (· ∉ g.chainIds c)).head? = g.displaced c p := by
  have runP := valid.run_chainIds wf hp
  rw [valid.chainIds_split wf hc hp off] at runP
  have child := runP.childOf_eq
  unfold displaced
  rw [child]
  cases hF : (g.chainIds p).tail.filter (· ∉ g.chainIds c) with
  | nil =>
      -- then `p` links to `c` or to nothing, and neither is displaced
      rw [List.nil_append]
      split
      · rw [valid.chainIds_head? hc, Option.filter_some]
        simp [valid.mem_chainIds_self hc]
      · rfl
  | cons d rest =>
      have inside : d ∈ (g.chainIds p).tail.filter (· ∉ g.chainIds c) := by
        rw [hF]
        exact List.mem_cons_self
      have outside : d ∉ g.chainIds c := of_decide_eq_true (List.mem_filter.mp inside).2
      have present : d ∈ g.ids := wf.child_mem p d (by rw [child, hF]; rfl)
      rw [List.cons_append, List.head?_cons, List.head?_cons, Option.filter_some]
      simp [outside, present]

/-- The last block after `p` that is not moved linked to nothing, or to `c`. -/
theorem Valid.following_last {z : String}
    (last : ((g.chainIds p).tail.filter (· ∉ g.chainIds c)).getLast? = some z) :
    g.childOf z = none ∨ g.childOf z = some c := by
  have runP := valid.run_chainIds wf hp
  rw [valid.chainIds_split wf hc hp off] at runP
  split at runP
  · -- the moved chain followed, starting with `c`
    right
    have chain := runP.chain
    rw [List.isChain_cons, List.isChain_append] at chain
    exact chain.2.2.2 z last c (valid.chainIds_head? hc)
  · left
    refine runP.last z ?_
    rw [List.append_nil, List.getLast?_cons, last]
    rfl

end Chains

section Attach

variable {g : Graph} (valid : g.Valid) (wf : g.WellFormed) {c p : String} (hc : c ∈ g.ids)
  (hp : p ∈ g.ids)
include valid wf hc hp

/-- A link that neither leaves `p` nor enters `c` survives `attach c p`. -/
theorem link_attached_of_link {x y : String} (link : g.Link x y) (xp : x ≠ p) (yc : y ≠ c) :
    (g.attached c p).Link x y := by
  have notC : g.childOf x ≠ some c := fun toC => yc (Option.some.inj (link.symm.trans toC))
  unfold Link
  cases relinked : g.displaced c p with
  | none =>
      rw [childOf_attached_of_none wf hp relinked, if_neg xp, if_neg notC]
      exact link
  | some d =>
      obtain ⟨tail, last⟩ := valid.exists_getLast?_chainIds hc
      -- the moved chain's last block had no child, so `x` is not it
      have xt : x ≠ tail := by
        rintro rfl
        simp [Link, valid.childOf_last wf last] at link
      rw [childOf_attached_of_some valid wf hp relinked last, if_neg xt, if_neg xp, if_neg notC]
      exact link

/-- A block off the moved chain that linked to nothing or to `c` links to nothing after
`attach c p`, unless it is `p`. -/
theorem childOf_attached_eq_none {x : String} (xp : x ≠ p) (outside : x ∉ g.chainIds c)
    (ends : g.childOf x = none ∨ g.childOf x = some c) : (g.attached c p).childOf x = none := by
  have cleared : (if g.childOf x = some c then none else g.childOf x) = none := by
    rcases ends with none | toC <;> simp [*]
  cases relinked : g.displaced c p with
  | none => rw [childOf_attached_of_none wf hp relinked, if_neg xp, cleared]
  | some d =>
      obtain ⟨tail, last⟩ := valid.exists_getLast?_chainIds hc
      have xt : x ≠ tail := fun same => outside (same ▸ List.mem_of_getLast? last)
      rw [childOf_attached_of_some valid wf hp relinked last, if_neg xt, if_neg xp, cleared]

variable (off : p ∉ g.chainIds c)
include off

theorem childOf_attached_parent : (g.attached c p).childOf p = some c := by
  cases relinked : g.displaced c p with
  | none => simp [childOf_attached_of_none wf hp relinked]
  | some d =>
      obtain ⟨tail, last⟩ := valid.exists_getLast?_chainIds hc
      have pt : p ≠ tail := fun same => off (same ▸ List.mem_of_getLast? last)
      simp [childOf_attached_of_some valid wf hp relinked last, pt]

omit hc in
/-- The moved chain's last block links to the displaced block, or to nothing. -/
theorem childOf_attached_tail {tail : String} (last : (g.chainIds c).getLast? = some tail) :
    (g.attached c p).childOf tail = g.displaced c p := by
  cases relinked : g.displaced c p with
  | none =>
      have tp : tail ≠ p := fun same => off (same ▸ List.mem_of_getLast? last)
      simp [childOf_attached_of_none wf hp relinked, tp, valid.childOf_last wf last]
  | some d => simp [childOf_attached_of_some valid wf hp relinked last]

/-- After `attach c p` the path from `p` runs through `p`, the chain from `c`, and what
followed `p` before, less the moved blocks. -/
theorem Valid.run_attached :
    (g.attached c p).Run p
      (p :: (g.chainIds c ++ (g.chainIds p).tail.filter (· ∉ g.chainIds c))) := by
  obtain ⟨tail, last⟩ := valid.exists_getLast?_chainIds hc
  have start : (g.chainIds c).head? = some c := valid.chainIds_head? hc
  have following : ∀ {z}, z ∈ (g.chainIds p).tail.filter (· ∉ g.chainIds c) →
      z ∉ g.chainIds c ∧ z ≠ p :=
    fun inside => valid.mem_following wf hc hp off inside
  refine ⟨rfl, ?_, fun y lastY => ?_⟩
  · rw [List.isChain_cons, List.isChain_append]
    refine ⟨fun y first => ?_, ?_, ?_, fun x lastX y firstY => ?_⟩
    · -- `p` now links to `c`
      rw [List.head?_append, start, Option.some_or, Option.mem_def, Option.some_inj] at first
      rw [← first]
      exact childOf_attached_parent valid wf hc hp off
    · -- the moved chain keeps its links
      refine (valid.chainIds_isChain c).imp_of_mem_imp fun a b inA _ link => ?_
      refine link_attached_of_link valid wf hc hp link (fun same => off (same ▸ inA)) ?_
      rintro rfl
      exact valid.not_link_to_start wf hc inA link
    · -- so do the blocks that followed `p`
      refine (valid.following_isChain wf hc hp off).imp_of_mem_imp fun a b inA inB link => ?_
      refine link_attached_of_link valid wf hc hp link (following inA).2 ?_
      rintro rfl
      exact (following inB).1 (valid.mem_chainIds_self hc)
    · -- and the moved chain's last block links to the first of them
      rw [Option.mem_def, last, Option.some_inj] at lastX
      subst lastX
      rw [valid.following_head? wf hc hp off] at firstY
      exact (childOf_attached_tail valid wf hp off last).trans firstY
  · obtain ⟨moved, shape⟩ : ∃ moved, g.chainIds c = c :: moved :=
      ⟨(g.chainIds c).tail, (List.cons_head?_tail start).symm⟩
    rw [shape, List.cons_append, List.getLast?_cons_cons, ← List.cons_append, ← shape,
      List.getLast?_append] at lastY
    cases hF : ((g.chainIds p).tail.filter (· ∉ g.chainIds c)).getLast? with
    | none =>
        -- nothing followed, so the path ends at the moved chain's last block
        rw [hF, Option.none_or, last, Option.mem_def, Option.some_inj] at lastY
        subst lastY
        rw [childOf_attached_tail valid wf hp off last, ← valid.following_head? wf hc hp off,
          List.getLast?_eq_none_iff.mp hF, List.head?_nil]
    | some z =>
        rw [hF, Option.some_or, Option.mem_def, Option.some_inj] at lastY
        subst lastY
        have inside := List.mem_of_getLast? hF
        exact childOf_attached_eq_none valid wf hc hp (following inside).2 (following inside).1
          (valid.following_last wf hc hp off hF)

theorem Valid.chainIds_attached :
    (g.attached c p).chainIds p =
      p :: (g.chainIds c ++ (g.chainIds p).tail.filter (· ∉ g.chainIds c)) :=
  (valid.attached c p).chainIds_eq_of_run (wf.attached valid hc hp off) (by rwa [ids_attached])
    (valid.run_attached wf hc hp off)

omit off in
/-- The block `c` hung from keeps no child, unless it is `p`. -/
theorem childOf_attached_former_parent {q : String} (parent : g.parentOf c = some q) (qp : q ≠ p) :
    (g.attached c p).childOf q = none := by
  have link : g.Link q c := (wf.linked q c).mpr parent
  exact childOf_attached_eq_none valid wf hc hp qp
    (fun inside => valid.not_link_to_start wf hc inside link) (.inr link)

omit hp off in
/-- `attach c p` gives `c` a parent and leaves every other block's head status alone: the
displaced block, which gets a new parent, had `p` as its parent. -/
theorem heads_attached (x : String) :
    (x ∈ (g.attached c p).ids ∧ (g.attached c p).parentOf x = none) ↔
      (x ∈ g.ids ∧ g.parentOf x = none) ∧ x ≠ c := by
  rw [ids_attached]
  cases relinked : g.displaced c p with
  | none =>
      rw [parentOf_attached_of_none hc relinked]
      by_cases xc : x = c <;> simp [xc]
  | some d =>
      obtain ⟨tail, last⟩ := valid.exists_getLast?_chainIds hc
      have parentD : g.parentOf d = some p :=
        (wf.linked p d).mp (displaced_eq_some_iff.mp relinked).1
      rw [parentOf_attached_of_some hc relinked last]
      by_cases xd : x = d
      · subst xd
        simp [parentD]
      · by_cases xc : x = c
        · subst xc
          simp [xd]
        · simp [xd, xc]

end Attach

/-- The conditions under which `attach c p` succeeds on a valid graph, and what it leaves. -/
theorem Valid.attach_ok {g g' : Graph} (valid : g.Valid) {c p : String}
    (ok : (attach c p).run g = .ok () g') :
    c ∈ g.ids ∧ p ∈ g.ids ∧ p ∉ g.chainIds c ∧ g' = g.attached c p := by
  rw [valid.attach_run] at ok
  split_ifs at ok with hc hp cycle
  injection ok with _ same
  exact ⟨hc, hp, cycle, same.symm⟩

/-- A successful `attach c p` on a well-formed graph splices the chain from `c` in right
after `p`: the chain from `p` is then `p`, the moved chain, and what followed `p` before
less the moved blocks. The block `c` hung from, if not `p`, is left without a child, and the
heads are the old heads but `c`. -/
theorem attach_splices_moved_chain {g g' : Graph} {c p : String} (valid : g.Valid)
    (wf : g.WellFormed) (ok : (attach c p).run g = .ok () g') :
    g'.chainIds p = p :: (g.chainIds c ++ (g.chainIds p).tail.filter (· ∉ g.chainIds c)) ∧
    (∀ q, g.parentOf c = some q → q ≠ p → g'.childOf q = none) ∧
    ∀ x, (x ∈ g'.ids ∧ g'.parentOf x = none) ↔ (x ∈ g.ids ∧ g.parentOf x = none) ∧ x ≠ c := by
  obtain ⟨hc, hp, off, rfl⟩ := valid.attach_ok ok
  exact ⟨valid.chainIds_attached wf hc hp off,
    fun _ parent other => childOf_attached_former_parent valid wf hc hp parent other,
    heads_attached valid wf hc⟩


/-- A graph none of whose blocks has a link is well formed. -/
theorem WellFormed.of_unlinked {g : Graph}
    (unlinked : ∀ b ∈ g.blocks, b.parent = none ∧ b.child = none) : g.WellFormed := by
  have parent : ∀ x, g.parentOf x = none := by
    intro x
    cases found : g.block? x with
    | none => simp [parentOf, found]
    | some b => simp [parentOf, found, (unlinked b (mem_of_block? found)).1]
  have child : ∀ x, g.childOf x = none := by
    intro x
    cases found : g.block? x with
    | none => simp [childOf, found]
    | some b => simp [childOf, found, (unlinked b (mem_of_block? found)).2]
  refine ⟨fun x q link => ?_, fun x y link => ?_, fun x y => ?_, fun x loop => ?_⟩
  · simp [parent x] at link
  · simp [child x] at link
  · simp [parent y, child x]
  · obtain ⟨y, link, -⟩ := TransGen.head'_iff.mp loop
    simp [Link, child x] at link

/-- A flag with a block below it, and a loose block spliced in between. -/
theorem attach_splices_under_flag :
    let g := (ofBlocks [Block.make "flag" .greenFlag, Block.make "up" .up,
      Block.make "loose" .down]).attached "up" "flag"
    g.Valid ∧ g.WellFormed ∧ (attach "loose" "flag").run g = .ok () (g.attached "loose" "flag") ∧
      ((g.attached "loose" "flag").chainIds "flag" =
          "flag" :: (g.chainIds "loose" ++ (g.chainIds "flag").tail.filter (· ∉ g.chainIds "loose")) ∧
        (∀ q, g.parentOf "loose" = some q → q ≠ "flag" → (g.attached "loose" "flag").childOf q = none) ∧
        ∀ x, (x ∈ (g.attached "loose" "flag").ids ∧ (g.attached "loose" "flag").parentOf x = none) ↔
          (x ∈ g.ids ∧ g.parentOf x = none) ∧ x ≠ "loose") := by
  intro g
  have valid₀ : (ofBlocks [Block.make "flag" .greenFlag, Block.make "up" .up,
      Block.make "loose" .down]).Valid := Valid.ofBlocks (by decide)
  have wf₀ : (ofBlocks [Block.make "flag" .greenFlag, Block.make "up" .up,
      Block.make "loose" .down]).WellFormed := WellFormed.of_unlinked (by decide)
  have valid : g.Valid := valid₀.attached _ _
  have wf : g.WellFormed :=
    wf₀.attached valid₀ (by decide) (by decide) (by rw [chainIds, valid₀.chainFrom_eq]; decide)
  -- the loose block heads a chain of its own, which `flag` is not on
  have off : "flag" ∉ g.chainIds "loose" := by
    rw [chainIds, valid.chainFrom_eq]
    simp only [g, attached, displaced, chainIds, valid₀.chainFrom_eq]
    decide
  have ok : (attach "loose" "flag").run g = .ok () (g.attached "loose" "flag") := by
    rw [valid.attach_run, if_neg (by simp [g]; decide), if_neg (by simp [g]; decide), if_neg off]
  exact ⟨valid, wf, ok, attach_splices_moved_chain valid wf ok⟩

end Graph

end BlockProgram
