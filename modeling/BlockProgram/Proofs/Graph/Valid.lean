import Mathlib.Data.List.Nodup
import BlockProgram.Graph.Edit

/-! # Valid graphs

A graph is valid when its ids are unique and its index maps every id to the position of
its block and holds no other id (`Graph.Valid`). On a valid graph every lookup through
the index agrees with a search of the blocks, and changing the block at the position of
an id is changing the block with that id (`Graph.update`). Those two facts let the
edits be described by what they do to the blocks with given ids, which is how the later
modules read them.
-/

namespace BlockProgram

namespace Graph

/-- The ids of a graph's blocks, in graph order. -/
def ids (g : Graph) : List String := g.blocks.map (·.id)

/-- The block with an id, found by searching the blocks. -/
def block? (g : Graph) (id : String) : Option Block := g.blocks.find? (·.id == id)

/-- The parent link of the block with an id. -/
def parentOf (g : Graph) (id : String) : Option String := (g.block? id).bind (·.parent)

/-- The child link of the block with an id. -/
def childOf (g : Graph) (id : String) : Option String := (g.block? id).bind (·.child)

/-- The graph with `f` applied to the block with id `id`. -/
def update (g : Graph) (id : String) (f : Block → Block) : Graph :=
  { g with blocks := g.blocks.map fun b => if b.id = id then f b else b }

/-- What every graph the edits build satisfies: ids are unique, and the index maps each
id to the position of its block and holds no other id. -/
structure Valid (g : Graph) : Prop where
  nodup : g.ids.Nodup
  index : ∀ id, g.index[id]? = g.blocks.findIdx? (·.id == id)

section Blocks

variable (l : List Block)

/-- Where a block sits depends only on the ids in order. -/
theorem findIdx?_eq_of_ids {l' : List Block} (same : l'.map (·.id) = l.map (·.id)) (id : String) :
    l'.findIdx? (·.id == id) = l.findIdx? (·.id == id) := by
  have key : ∀ l : List Block, l.findIdx? (·.id == id) = (l.map (·.id)).findIdx? (· == id) := by
    intro l
    rw [List.findIdx?_map]
    rfl
  rw [key, key, same]

/-- With unique ids, changing the block at the position of an id is changing the block
with that id. -/
theorem modify_eq_map {id : String} {pos : Nat} (unique : (l.map (·.id)).Nodup)
    (found : l.findIdx? (·.id == id) = some pos) (f : Block → Block) :
    l.modify pos f = l.map fun b => if b.id = id then f b else b := by
  obtain ⟨inside, named, -⟩ := List.findIdx?_eq_some_iff_getElem.mp found
  apply List.ext_getElem?
  intro j
  rw [List.getElem?_modify, List.getElem?_map]
  cases other : l[j]? with
  | none => rfl
  | some b =>
      obtain ⟨bound, rfl⟩ := List.getElem?_eq_some_iff.mp other
      by_cases same : pos = j
      · subst same
        simp [beq_iff_eq.mp named]
      · -- another position holds another id
        have differs : l[j].id ≠ id := by
          intro equal
          have hp : pos < (l.map (·.id)).length := by simpa using inside
          have hj : j < (l.map (·.id)).length := by simpa using bound
          have both : (l.map (·.id))[pos] = (l.map (·.id))[j] := by
            simp [beq_iff_eq.mp named, equal]
          exact same (unique.getElem_inj_iff.mp both)
        simp [same, differs]

theorem reindex_keys : (l.zipIdx.map fun (b, i) => (b.id, i)).map Prod.fst = l.map (·.id) := by
  conv_rhs => rw [← List.zipIdx_map_fst 0 l]
  simp only [List.map_map]
  rfl

end Blocks

theorem block?_eq_none_iff {g : Graph} {id : String} : g.block? id = none ↔ id ∉ g.ids := by
  simp [block?, ids]

theorem id_of_block? {g : Graph} {id : String} {b : Block} (found : g.block? id = some b) :
    b.id = id := by
  simpa using List.find?_some found

theorem mem_of_block? {g : Graph} {id : String} {b : Block} (found : g.block? id = some b) :
    b ∈ g.blocks :=
  List.mem_of_find?_eq_some found

theorem block?_eq_some_iff {g : Graph} (unique : g.ids.Nodup) {id : String} {b : Block} :
    g.block? id = some b ↔ b ∈ g.blocks ∧ b.id = id := by
  constructor
  · intro found
    exact ⟨mem_of_block? found, id_of_block? found⟩
  · rintro ⟨member, rfl⟩
    cases found : g.block? b.id with
    | none =>
        exact absurd (List.mem_map_of_mem member) (block?_eq_none_iff.mp found)
    | some c =>
        rw [List.inj_on_of_nodup_map unique (mem_of_block? found) member (id_of_block? found)]

/-- Changing one block keeps every id where it is. -/
theorem ids_update {g : Graph} {id : String} {f : Block → Block} (keeps : ∀ b, (f b).id = b.id) :
    (g.update id f).ids = g.ids := by
  simp only [update, ids, List.map_map]
  congr 1
  funext b
  by_cases same : b.id = id <;> simp [same, keeps]

theorem block?_update {g : Graph} {id : String} {f : Block → Block} (keeps : ∀ b, (f b).id = b.id)
    (other : String) :
    (g.update id f).block? other = (g.block? other).map fun b => if b.id = id then f b else b := by
  simp only [block?, update, List.find?_map]
  congr 2
  funext b
  by_cases same : b.id = id <;> simp [same, keeps]

theorem Valid.empty : empty.Valid :=
  ⟨List.nodup_nil, fun _ => Std.HashMap.getElem?_empty⟩

/-- A fresh index is right for a block list whose ids are unique. -/
theorem Valid.ofBlocks {l : List Block} (unique : (l.map (·.id)).Nodup) : (ofBlocks l).Valid := by
  refine ⟨unique, fun id => ?_⟩
  show (reindex l)[id]? = l.findIdx? (·.id == id)
  rw [reindex]
  cases found : l.findIdx? (·.id == id) with
  | none =>
      apply Std.HashMap.getElem?_ofList_of_contains_eq_false
      rw [reindex_keys]
      simpa [List.findIdx?_eq_none_iff] using found
  | some pos =>
      obtain ⟨inside, named, -⟩ := List.findIdx?_eq_some_iff_getElem.mp found
      have distinct : ((l.zipIdx.map fun (b, i) => (b.id, i)).map Prod.fst).Pairwise
          fun x y => (x == y) = false := by
        rw [reindex_keys]
        exact unique.imp fun ne => by simpa using ne
      apply Std.HashMap.getElem?_ofList_of_mem named (List.pairwise_map.mp distinct)
      exact List.mem_map.mpr ⟨(l[pos], pos), List.mk_mem_zipIdx_iff_getElem?.mpr (by simp), rfl⟩

namespace Valid

variable {g : Graph} (valid : g.Valid)
include valid

theorem index_eq_none_iff {id : String} : g.index[id]? = none ↔ id ∉ g.ids := by
  rw [valid.index, List.findIdx?_eq_none_iff]
  simp [ids]

theorem contains_iff {id : String} : g.contains id = true ↔ id ∈ g.ids := by
  rw [contains, Std.HashMap.contains_eq_isSome_getElem?, valid.index, List.findIdx?_isSome]
  simp [ids]

theorem get?_eq (id : String) : g.get? id = g.block? id := by
  rw [get?, valid.index, block?, List.find?_eq_bind_findIdx?_getElem?]

theorem get?_eq_some_iff {id : String} {b : Block} :
    g.get? id = some b ↔ b ∈ g.blocks ∧ b.id = id := by
  rw [valid.get?_eq]
  exact block?_eq_some_iff valid.nodup

/-- The block at the position the index gives is the block with that id. -/
theorem getElem?_of_index {id : String} {pos : Nat} (found : g.index[id]? = some pos) :
    g.blocks[pos]? = g.block? id := by
  rw [block?, List.find?_eq_bind_findIdx?_getElem?, ← valid.index, found, Option.bind_some]

theorem modify_eq_update {id : String} {pos : Nat} (found : g.index[id]? = some pos)
    (f : Block → Block) : ({ g with blocks := g.blocks.modify pos f } : Graph) = g.update id f := by
  rw [modify_eq_map g.blocks valid.nodup (by rw [← valid.index]; exact found)]
  rfl

/-- Validity depends only on the ids in order and the index. -/
theorem of_ids {g' : Graph} (same : g'.ids = g.ids) (index : g'.index = g.index) : g'.Valid :=
  ⟨same ▸ valid.nodup, fun id => by rw [index, valid.index, findIdx?_eq_of_ids _ same]⟩

theorem update {id : String} {f : Block → Block} (keeps : ∀ b, (f b).id = b.id) :
    (g.update id f).Valid :=
  valid.of_ids (ids_update keeps) rfl

theorem insert {b : Block} (fresh : b.id ∉ g.ids) :
    (⟨g.blocks ++ [b], g.index.insert b.id g.blocks.length⟩ : Graph).Valid := by
  refine ⟨?_, fun id => ?_⟩
  · have unique := valid.nodup
    simp only [ids, List.mem_map, not_exists, not_and] at unique fresh
    simpa [ids, List.nodup_append] using ⟨unique, fresh⟩
  · rw [Std.HashMap.getElem?_insert, List.findIdx?_append]
    by_cases same : b.id = id
    · subst same
      have missing : g.blocks.findIdx? (·.id == b.id) = none := by
        rw [← valid.index]
        exact valid.index_eq_none_iff.mpr fresh
      simp [missing]
    · simp [same, valid.index id]

end Valid

end Graph

end BlockProgram
