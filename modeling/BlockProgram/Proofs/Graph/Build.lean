import BlockProgram.Proofs.Chain.Execution
import BlockProgram.Proofs.Graph.Run

/-! # Graphs built from a snapshot

`Graph.ofList` inserts a snapshot's blocks one by one into the empty graph. It succeeds
exactly when the ids are distinct, and otherwise fails on the first id met a second time
(`Graph.FirstRepeat`); the graph it builds holds the snapshot's blocks in order and a valid
index. As every call keeps a graph valid, the index stays exact through any later edits:
lookups through it agree with searches of the blocks, and the chain from an id is the one a
walk over the blocks alone finds (`Graph.Valid.chainFrom_eq`).
-/

namespace BlockProgram

namespace Graph

/-- `x` is the first id met a second time in `ids`: the ids before that second meeting are
distinct and include `x`. -/
def FirstRepeat (ids : List String) (x : String) : Prop :=
  ∃ pre post, ids = pre ++ x :: post ∧ pre.Nodup ∧ x ∈ pre

namespace FirstRepeat

theorem not_nodup {ids : List String} {x : String} (first : FirstRepeat ids x) : ¬ ids.Nodup := by
  obtain ⟨pre, post, rfl, -, seen⟩ := first
  intro unique
  exact (List.nodup_append.mp unique).2.2 x seen x List.mem_cons_self rfl

/-- Only one id is met a second time first. -/
theorem unique {ids : List String} {x y : String} (first : FirstRepeat ids x)
    (other : FirstRepeat ids y) : x = y := by
  obtain ⟨pre, post, rfl, distinct, seen⟩ := first
  obtain ⟨pre', post', split, distinct', seen'⟩ := other
  -- the shorter of the two prefixes ends where the other repeats, unless both coincide
  rcases List.append_eq_append_iff.mp split with ⟨mid, rfl, rest⟩ | ⟨mid, rfl, rest⟩
  · cases mid with
    | nil => exact (List.cons.inj rest).1
    | cons z mid =>
        obtain ⟨rfl, -⟩ := List.cons.inj rest
        exact absurd distinct' (not_nodup ⟨pre, mid, rfl, distinct, seen⟩)
  · cases mid with
    | nil => exact (List.cons.inj rest).1.symm
    | cons z mid =>
        obtain ⟨rfl, -⟩ := List.cons.inj rest
        exact absurd distinct (not_nodup ⟨pre', mid, rfl, distinct', seen'⟩)

end FirstRepeat

/-- Inserting a snapshot's blocks into a valid graph: either every id is new and distinct,
and the blocks are appended under a valid index, or the first id met a second time, in the
graph or among the blocks, is the error. -/
theorem Valid.forM_insert_run {g : Graph} (valid : g.Valid) (blocks : List Block) :
    (∃ g', (blocks.forM Graph.insert).run g = .ok () g' ∧ (g.ids ++ blocks.map (·.id)).Nodup ∧
        g'.blocks = g.blocks ++ blocks ∧ g'.Valid) ∨
    ∃ x g', (blocks.forM Graph.insert).run g = .error (.duplicateBlockId x) g' ∧
        FirstRepeat (g.ids ++ blocks.map (·.id)) x := by
  induction blocks generalizing g with
  | nil => exact .inl ⟨g, rfl, by simpa using valid.nodup, by simp, valid⟩
  | cons b rest ih =>
      rw [List.forM_eq_forM, List.forM_cons, ← List.forM_eq_forM, EStateM.run_bind, insert_run]
      by_cases present : b.id ∈ g.ids
      · rw [if_pos (valid.contains_iff.mpr present)]
        exact .inr ⟨b.id, g, rfl, g.ids, rest.map (·.id), by simp, valid.nodup, present⟩
      rw [if_neg (mt valid.contains_iff.mp present)]
      -- the graph with `b` appended has `b`'s id last
      have grown : (g.ids ++ [b.id]) ++ rest.map (·.id) = g.ids ++ (b :: rest).map (·.id) := by
        simp
      rcases ih (valid.insert present) with ⟨g', run, unique, appended, valid'⟩ | ⟨x, g', run, first⟩
      · refine .inl ⟨g', run, ?_, ?_, valid'⟩
        · simpa [ids, ← grown] using unique
        · simpa using appended
      · refine .inr ⟨x, g', run, ?_⟩
        simpa [ids, ← grown] using first

theorem ofList_isOk_iff (blocks : List Block) :
    (∃ g, ofList blocks = .ok g) ↔ (blocks.map (·.id)).Nodup := by
  rcases Valid.empty.forM_insert_run blocks with ⟨g, run, unique, -, -⟩ | ⟨x, g, run, first⟩
  · rw [ofList, run]
    simpa [ids, empty] using unique
  · have duplicate : ¬ (blocks.map (·.id)).Nodup := by simpa [ids, empty] using first.not_nodup
    rw [ofList, run]
    simp [duplicate]

/-- A snapshot whose ids repeat fails on the first id met a second time. -/
theorem ofList_eq_error_iff (blocks : List Block) (e : Error) :
    ofList blocks = .error e ↔ ∃ x, FirstRepeat (blocks.map (·.id)) x ∧ e = .duplicateBlockId x := by
  rcases Valid.empty.forM_insert_run blocks with ⟨g, run, unique, -, -⟩ | ⟨x, g, run, first⟩
  · simp only [ids, empty, List.map_nil, List.nil_append] at unique
    rw [ofList, run]
    simp only [reduceCtorEq, false_iff, not_exists, not_and]
    exact fun x first => absurd unique first.not_nodup
  · simp only [ids, empty, List.map_nil, List.nil_append] at first
    rw [ofList, run]
    simp only [Except.error.injEq]
    constructor
    · rintro rfl
      exact ⟨x, first, rfl⟩
    · rintro ⟨y, other, rfl⟩
      rw [first.unique other]

theorem ofList_ok {blocks : List Block} {g : Graph} (built : ofList blocks = .ok g) :
    g.blocks = blocks ∧ g.Valid := by
  rcases Valid.empty.forM_insert_run blocks with ⟨g', run, -, appended, valid⟩ | ⟨x, g', run, -⟩
  · rw [ofList, run] at built
    cases built
    exact ⟨by simpa [empty] using appended, valid⟩
  · rw [ofList, run] at built
    cases built

theorem ofJson_isOk_iff (text : String) :
    (∃ g, ofJson text = .ok g) ↔
      ∃ read, Block.readList text = .ok read ∧ (read.map (·.id)).Nodup := by
  cases reading : Block.readList text with
  | error e => simp [ofJson, reading]
  | ok read => simp [ofJson, reading, ofList_isOk_iff]

theorem ofJson_duplicate_iff (text x : String) :
    ofJson text = .error (.duplicateBlockId x) ↔
      ∃ read, Block.readList text = .ok read ∧ FirstRepeat (read.map (·.id)) x := by
  cases reading : Block.readList text with
  | error e => simp [ofJson, reading]
  | ok read => simp [ofJson, reading, ofList_eq_error_iff]

theorem ofJson_ok {text : String} {g : Graph} (built : ofJson text = .ok g) :
    ∃ read, Block.readList text = .ok read ∧ ofList read = .ok g := by
  cases reading : Block.readList text with
  | error e => simp [ofJson, reading] at built
  | ok read => exact ⟨read, rfl, by simpa [ofJson, reading] using built⟩

/-! ## Lookups on a valid graph -/

/-- With distinct ids a snapshot's lookup, which keeps the last block with an id, finds the
only one. -/
theorem lookup_eq_block? {g : Graph} (unique : g.ids.Nodup) (id : String) :
    Chain.lookup g.blocks id = g.block? id := by
  apply Option.ext
  intro b
  rw [block?_eq_some_iff unique]
  constructor
  · exact Chain.lookup_mem
  · rintro ⟨member, rfl⟩
    cases found : Chain.lookup g.blocks b.id with
    | none =>
        have missing := List.find?_eq_none.mp found b (List.mem_reverse.mpr member)
        simp at missing
    | some c =>
        obtain ⟨inBlocks, same⟩ := Chain.lookup_mem found
        rw [List.inj_on_of_nodup_map unique inBlocks member same]

theorem Valid.chainFrom_eq {g : Graph} (valid : g.Valid) (id : String) :
    g.chainFrom id = Chain.chainFrom g.blocks id := by
  have same : g.get? = Chain.lookup g.blocks := by
    funext x
    rw [valid.get?_eq, lookup_eq_block? valid.nodup]
  rw [chainFrom, Chain.chainFrom, same]

theorem Valid.contains_eq {g : Graph} (valid : g.Valid) (id : String) :
    g.contains id = g.ids.contains id := by
  rw [Bool.eq_iff_iff, valid.contains_iff, List.contains_iff_mem]

/-- A snapshot builds a graph exactly when its ids are distinct, and otherwise fails on the
first id met a second time; from JSON text the same holds of the blocks read. A graph built
either way holds its snapshot's blocks, and after any calls, successful or not, its ids stay
distinct and its index maps each id to the position of its block and holds nothing else, so
that lookups, membership and chains through the index agree with the blocks themselves. -/
theorem built_index_exact (blocks : List Block) (text : String) :
    ((∃ g, ofList blocks = .ok g) ↔ (blocks.map (·.id)).Nodup) ∧
    (∀ e, ofList blocks = .error e ↔
      ∃ x, FirstRepeat (blocks.map (·.id)) x ∧ e = .duplicateBlockId x) ∧
    ((∃ g, ofJson text = .ok g) ↔
      ∃ read, Block.readList text = .ok read ∧ (read.map (·.id)).Nodup) ∧
    (∀ x, ofJson text = .error (.duplicateBlockId x) ↔
      ∃ read, Block.readList text = .ok read ∧ FirstRepeat (read.map (·.id)) x) ∧
    (∀ g, ofList blocks = .ok g → g.blocks = blocks) ∧
    (∀ g, ofJson text = .ok g → ∃ read, Block.readList text = .ok read ∧ g.blocks = read) ∧
    ∀ g, (ofList blocks = .ok g ∨ ofJson text = .ok g) → ∀ ops : List Op,
      (g.applyAll ops).ids.Nodup ∧
      (∀ id, (g.applyAll ops).index[id]? = (g.applyAll ops).blocks.findIdx? (·.id == id)) ∧
      (∀ id, (g.applyAll ops).get? id = (g.applyAll ops).blocks.find? (·.id == id)) ∧
      (∀ id, (g.applyAll ops).contains id = (g.applyAll ops).ids.contains id) ∧
      ∀ id, (g.applyAll ops).chainFrom id = Chain.chainFrom (g.applyAll ops).blocks id := by
  refine ⟨ofList_isOk_iff blocks, ofList_eq_error_iff blocks, ofJson_isOk_iff text,
    ofJson_duplicate_iff text, fun g built => (ofList_ok built).1, fun g built => ?_,
    fun g built ops => ?_⟩
  · obtain ⟨read, reading, built⟩ := ofJson_ok built
    exact ⟨read, reading, (ofList_ok built).1⟩
  -- both ways of building give a valid graph, and every call keeps it valid
  have valid : g.Valid := by
    rcases built with built | built
    · exact (ofList_ok built).2
    · obtain ⟨read, -, built⟩ := ofJson_ok built
      exact (ofList_ok built).2
  have edited := valid.applyAll ops
  exact ⟨edited.nodup, edited.index, edited.get?_eq, edited.contains_eq, edited.chainFrom_eq⟩

end Graph

end BlockProgram
