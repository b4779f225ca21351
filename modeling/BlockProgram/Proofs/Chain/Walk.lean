import Mathlib.Data.Finset.Card
import Mathlib.Data.List.Chain
import BlockProgram.Chain
import BlockProgram.Graph.Basic

/-! # One walk along child links

Facts about `Chain.walk` for any id lookup `find`. The visited ids grow by exactly the
ids of the chain, a chain never holds an id twice nor one visited before, consecutive
blocks are linked through `find`, and with more fuel than ids still unvisited the walk
stops only where the loop it stands for stops: at a missing block or a visited id, so
more fuel changes nothing (`Chain.walk_succ_of_card_le`).

The loop itself is `Chain.Loop`, an inductive relation whose derivations are its finite
runs; it has at most one run from a state. With more fuel than ids unvisited a walk is that
run, so the loop stops, and it pushes no more blocks than ids left unvisited
(`Chain.walk_finishes_of_card_lt`). Every walk over a snapshot has that much fuel, the one
in a graph's `chainFrom` included, whatever the graph's index holds.

Two walks of a snapshot start from one block: the chain from a block, and the program
below a green flag, which walks from the flag's child with the flag counted as visited. The
second is the first from the flag less its first block, for every snapshot
(`Chain.chainFrom_of_lookup`, `Chain.programAfterFlag_of_lookup`).
-/

namespace BlockProgram

namespace Chain

section Walk

variable (find : String → Option Block)

/-- The block a walk looks at after `chain`: the child of its last block, or the start
when the chain is empty. -/
def next (start : Option Block) (chain : List Block) : Option Block :=
  match chain.getLast? with
  | some last => last.child.bind find
  | none => start

theorem next_nil (start : Option Block) : next find start [] = start := rfl

theorem next_cons (start : Option Block) (b : Block) (rest : List Block) :
    next find start (b :: rest) = next find (b.child.bind find) rest := by
  cases rest with
  | nil => rfl
  | cons c rest =>
      simp only [next, List.getLast?_cons_cons, List.getLast?_eq_some_getLast (List.cons_ne_nil c rest)]

theorem next_of_getLast? {start : Option Block} {chain : List Block} {last : Block}
    (ends : chain.getLast? = some last) : next find start chain = last.child.bind find := by
  simp [next, ends]

@[simp] theorem walk_zero (start : Option Block) (visited : List String) :
    walk find 0 start visited = ([], visited) := by
  cases start <;> rfl

@[simp] theorem walk_none (n : Nat) (visited : List String) :
    walk find (n + 1) none visited = ([], visited) := rfl

theorem walk_of_mem {n : Nat} {b : Block} {visited : List String} (seen : b.id ∈ visited) :
    walk find (n + 1) (some b) visited = ([], visited) := by
  simp [walk, seen]

theorem walk_of_not_mem {n : Nat} {b : Block} {visited : List String} (fresh : b.id ∉ visited) :
    walk find (n + 1) (some b) visited =
      (b :: (walk find n (b.child.bind find) (b.id :: visited)).1,
        (walk find n (b.child.bind find) (b.id :: visited)).2) := by
  simp [walk, fresh]

/-- The visited ids after a walk are the chain's ids, latest first, before the old ones. -/
theorem walk_snd (n : Nat) (start : Option Block) (visited : List String) :
    (walk find n start visited).2 =
      ((walk find n start visited).1.map (·.id)).reverse ++ visited := by
  induction n generalizing start visited with
  | zero => simp
  | succ n ih =>
      cases start with
      | none => simp
      | some b =>
          by_cases seen : b.id ∈ visited
          · simp [walk_of_mem find seen]
          · simp [walk_of_not_mem find seen, ih]

theorem not_mem_visited_of_mem_walk {n : Nat} {start : Option Block} {visited : List String}
    {b : Block} (member : b ∈ (walk find n start visited).1) : b.id ∉ visited := by
  induction n generalizing start visited with
  | zero => simp at member
  | succ n ih =>
      cases start with
      | none => simp at member
      | some a =>
          by_cases seen : a.id ∈ visited
          · simp [walk_of_mem find seen] at member
          · rw [walk_of_not_mem find seen] at member
            rcases List.mem_cons.mp member with rfl | later
            · exact seen
            · exact fun old => ih later (List.mem_cons_of_mem _ old)

theorem walk_ids_nodup (n : Nat) (start : Option Block) (visited : List String) :
    ((walk find n start visited).1.map (·.id)).Nodup := by
  induction n generalizing start visited with
  | zero => simp
  | succ n ih =>
      cases start with
      | none => simp
      | some a =>
          by_cases seen : a.id ∈ visited
          · simp [walk_of_mem find seen]
          · rw [walk_of_not_mem find seen, List.map_cons, List.nodup_cons]
            refine ⟨?_, ih _ _⟩
            intro again
            obtain ⟨b, member, same⟩ := List.mem_map.mp again
            exact not_mem_visited_of_mem_walk find member (same ▸ List.mem_cons_self)

/-- A walk that yields anything starts at its start. -/
theorem eq_of_mem_walk_head? {n : Nat} {start : Option Block} {visited : List String}
    {b : Block} (head : b ∈ (walk find n start visited).1.head?) : start = some b := by
  cases n with
  | zero => simp at head
  | succ n =>
      cases start with
      | none => simp at head
      | some a =>
          by_cases seen : a.id ∈ visited
          · simp [walk_of_mem find seen] at head
          · simp only [walk_of_not_mem find seen, List.head?_cons, Option.mem_def,
              Option.some.injEq] at head
            rw [head]

theorem walk_head? {n : Nat} {b : Block} {visited : List String} (fresh : b.id ∉ visited) :
    (walk find (n + 1) (some b) visited).1.head? = some b := by
  simp [walk_of_not_mem find fresh]

/-- Each block of a walk is followed by the block its child link finds. -/
theorem walk_isChain (n : Nat) (start : Option Block) (visited : List String) :
    (walk find n start visited).1.IsChain (fun a b => a.child.bind find = some b) := by
  induction n generalizing start visited with
  | zero => simp
  | succ n ih =>
      cases start with
      | none => simp
      | some a =>
          by_cases seen : a.id ∈ visited
          · simp [walk_of_mem find seen]
          · rw [walk_of_not_mem find seen, List.isChain_cons]
            exact ⟨fun b head => eq_of_mem_walk_head? find head, ih _ _⟩

/-- A block of a walk is its start or a block that `find` returns. -/
theorem mem_walk {n : Nat} {start : Option Block} {visited : List String} {b : Block}
    (member : b ∈ (walk find n start visited).1) : start = some b ∨ ∃ id, find id = some b := by
  induction n generalizing start visited with
  | zero => simp at member
  | succ n ih =>
      cases start with
      | none => simp at member
      | some a =>
          by_cases seen : a.id ∈ visited
          · simp [walk_of_mem find seen] at member
          · rw [walk_of_not_mem find seen] at member
            rcases List.mem_cons.mp member with rfl | later
            · exact .inl rfl
            · rcases ih later with found | found
              · obtain ⟨c, -, hc⟩ := Option.bind_eq_some_iff.mp found
                exact .inr ⟨c, hc⟩
              · exact .inr found

/-- The loop a walk stands for, run until it stops: at a missing block, or at a block whose
id it has visited; otherwise it pushes the block, marks its id visited and goes on to the
block that the child link finds. `Loop find start visited chain seen` is a run from `start`
that pushes `chain` and stops with the ids `seen` visited. A run is a finite derivation, so
a run from a state is the loop stopping there. -/
inductive Loop : Option Block → List String → List Block → List String → Prop
  | missing (visited : List String) : Loop none visited [] visited
  | revisit {b : Block} {visited : List String} (old : b.id ∈ visited) :
      Loop (some b) visited [] visited
  | push {b : Block} {visited seen : List String} {rest : List Block} (fresh : b.id ∉ visited)
      (next : Loop (b.child.bind find) (b.id :: visited) rest seen) :
      Loop (some b) visited (b :: rest) seen

/-- The loop is deterministic: from one state it has at most one run. -/
theorem Loop.unique {start : Option Block} {visited seen seen' : List String}
    {chain chain' : List Block} (run : Loop find start visited chain seen)
    (run' : Loop find start visited chain' seen') : chain = chain' ∧ seen = seen' := by
  induction run generalizing chain' seen' with
  | missing => cases run'; exact ⟨rfl, rfl⟩
  | revisit old =>
      cases run' with
      | revisit => exact ⟨rfl, rfl⟩
      | push fresh => exact absurd old fresh
  | push fresh _ ih =>
      cases run' with
      | revisit old => exact absurd old fresh
      | push _ next' =>
          obtain ⟨rfl, rfl⟩ := ih next'
          exact ⟨rfl, rfl⟩

/-- What a walk from `start` with the ids `visited` seen hands back, over a lookup whose
blocks have ids in `ids`: the one run of its loop, no more blocks than ids of `ids` left
unvisited, no id twice and none visited before, and the visited ids grown by exactly the
chain's. -/
structure Finishes (ids : Finset String) (start : Option Block) (visited : List String)
    (result : List Block × List String) : Prop where
  loop : ∀ chain seen, Loop find start visited chain seen ↔ result = (chain, seen)
  length_le : result.1.length ≤ (ids \ visited.toFinset).card
  nodup : (result.1.map (·.id)).Nodup
  fresh : ∀ b ∈ result.1, b.id ∉ visited
  visited_eq : result.2 = (result.1.map (·.id)).reverse ++ visited

section Fuel

/-! `ids` holds every id that `find` can return; the fuel a walk needs is counted in ids
of `ids` not yet visited, since every step visits one. -/

variable {ids : Finset String} (closed : ∀ id b, find id = some b → b.id ∈ ids)
include closed

/-- The block after another comes from `find`, so its id is in `ids`. -/
theorem bind_find_mem (o : Option String) : ∀ b ∈ o.bind find, b.id ∈ ids := by
  intro b found
  obtain ⟨c, -, hc⟩ := Option.bind_eq_some_iff.mp found
  exact closed c b hc

omit closed in
/-- Visiting a new id of `ids` leaves one fewer unvisited. -/
theorem card_unvisited_cons {x : String} {visited : List String}
    (fresh : x ∈ ids \ visited.toFinset) :
    (ids \ (x :: visited).toFinset).card + 1 = (ids \ visited.toFinset).card := by
  have left := Finset.card_pos.mpr ⟨x, fresh⟩
  rw [List.toFinset_cons, Finset.sdiff_insert, Finset.card_erase_of_mem fresh]
  omega

/-- Once the fuel covers every id not yet visited, one more step of it changes nothing: the
walk has stopped before the fuel runs out. -/
theorem walk_succ_of_card_le {n : Nat} {start : Option Block} {visited : List String}
    (start_mem : ∀ b ∈ start, b.id ∈ ids) (fuel : (ids \ visited.toFinset).card ≤ n) :
    walk find (n + 1) start visited = walk find n start visited := by
  induction n generalizing start visited with
  | zero =>
      cases start with
      | none => rfl
      | some a =>
          -- every id is visited by now, `a`'s too
          have seen : a.id ∈ visited := by
            by_contra fresh
            have unvisited : a.id ∈ ids \ visited.toFinset := by simp [start_mem a rfl, fresh]
            have := card_unvisited_cons unvisited
            omega
          rw [walk_of_mem find seen, walk_zero]
  | succ n ih =>
      cases start with
      | none => rfl
      | some a =>
          by_cases seen : a.id ∈ visited
          · rw [walk_of_mem find seen, walk_of_mem find seen]
          · have unvisited : a.id ∈ ids \ visited.toFinset := by simp [start_mem a rfl, seen]
            have fewer := card_unvisited_cons unvisited
            rw [walk_of_not_mem find seen, walk_of_not_mem find seen,
              ih (bind_find_mem find closed _) (by omega)]

/-- With more fuel than ids left unvisited, a walk ends only at a missing block or at a
block whose id it has visited. -/
theorem walk_next_visited {n : Nat} {start : Option Block} {visited : List String}
    (start_mem : ∀ b ∈ start, b.id ∈ ids) (fuel : (ids \ visited.toFinset).card < n) :
    ∀ b ∈ next find start (walk find n start visited).1, b.id ∈ (walk find n start visited).2 := by
  induction n generalizing start visited with
  | zero => simp at fuel
  | succ n ih =>
      cases start with
      | none => simp [next_nil]
      | some a =>
          by_cases seen : a.id ∈ visited
          · simpa [walk_of_mem find seen, next_nil] using seen
          · rw [walk_of_not_mem find seen, next_cons]
            have unvisited : a.id ∈ ids \ visited.toFinset := by
              simp [start_mem a rfl, seen]
            have fewer := card_unvisited_cons unvisited
            exact ih (bind_find_mem find closed _) (by omega)

/-- With more fuel than ids left unvisited, a walk is a whole run of its loop. -/
theorem loop_walk {n : Nat} {start : Option Block} {visited : List String}
    (start_mem : ∀ b ∈ start, b.id ∈ ids) (fuel : (ids \ visited.toFinset).card < n) :
    Loop find start visited (walk find n start visited).1 (walk find n start visited).2 := by
  induction n generalizing start visited with
  | zero => simp at fuel
  | succ n ih =>
      cases start with
      | none => exact .missing visited
      | some a =>
          by_cases seen : a.id ∈ visited
          · rw [walk_of_mem find seen]
            exact .revisit seen
          · have unvisited : a.id ∈ ids \ visited.toFinset := by simp [start_mem a rfl, seen]
            have fewer := card_unvisited_cons unvisited
            rw [walk_of_not_mem find seen]
            exact .push seen (ih (bind_find_mem find closed _) (by omega))

/-- A walk pushes no more blocks than there are ids of `ids` left unvisited, whatever its
fuel: the chain's ids are distinct, unvisited, and ids that `find` returns. -/
theorem walk_length_le (n : Nat) {start : Option Block} (visited : List String)
    (start_mem : ∀ b ∈ start, b.id ∈ ids) :
    (walk find n start visited).1.length ≤ (ids \ visited.toFinset).card := by
  have sub : ((walk find n start visited).1.map (·.id)).toFinset ⊆ ids \ visited.toFinset := by
    intro x member
    obtain ⟨b, inChain, rfl⟩ := List.mem_map.mp (List.mem_toFinset.mp member)
    have fresh := not_mem_visited_of_mem_walk find inChain
    rcases mem_walk find inChain with rfl | ⟨id, found⟩
    · simp [start_mem b rfl, fresh]
    · simp [closed id b found, fresh]
  calc (walk find n start visited).1.length
      = ((walk find n start visited).1.map (·.id)).toFinset.card := by
        rw [List.toFinset_card_of_nodup (walk_ids_nodup find n start visited), List.length_map]
    _ ≤ (ids \ visited.toFinset).card := Finset.card_le_card sub

theorem walk_finishes_of_card_lt {n : Nat} {start : Option Block} {visited : List String}
    (start_mem : ∀ b ∈ start, b.id ∈ ids) (fuel : (ids \ visited.toFinset).card < n) :
    Finishes find ids start visited (walk find n start visited) where
  loop chain seen := by
    have run := loop_walk find closed start_mem fuel
    constructor
    · intro other
      obtain ⟨rfl, rfl⟩ := run.unique find other
      rfl
    · intro same
      rwa [same] at run
  length_le := walk_length_le find closed n visited start_mem
  nodup := walk_ids_nodup find n start visited
  fresh _ member := not_mem_visited_of_mem_walk find member
  visited_eq := walk_snd find n start visited

/-- With more fuel than ids, a walk that starts with nothing visited also holds the block
after each of its blocks: it stops only at a missing block. -/
theorem walk_closed {n : Nat} {start : Option Block} (start_mem : ∀ b ∈ start, b.id ∈ ids)
    (fuel : ids.card < n)
    {b : Block} (member : b ∈ (walk find n start []).1) :
    ∀ b' ∈ b.child.bind find, b'.id ∈ (walk find n start []).1.map (·.id) := by
  intro b' found
  obtain ⟨pre, post, split⟩ := List.append_of_mem member
  cases post with
  | nil =>
      -- past the last block the walk found a visited id
      have last : (walk find n start []).1.getLast? = some b := by simp [split]
      have unvisited : (ids \ ([] : List String).toFinset).card < n := by simpa using fuel
      have visited := walk_next_visited find closed start_mem unvisited b'
        (by rw [next_of_getLast? find last]; exact found)
      simpa [walk_snd] using visited
  | cons b₂ rest =>
      have chain := walk_isChain find n start []
      rw [split, List.isChain_append_cons_cons] at chain
      have same : b' = b₂ := Option.some.inj (found.symm.trans chain.2.1)
      rw [split, same]
      simp

end Fuel

end Walk

/-- A snapshot's walks have more fuel than it has ids. -/
theorem steps_fuel (blocks : List Block) : (blocks.map (·.id)).toFinset.card < steps blocks :=
  (List.toFinset_card_le _).trans_lt (by simp [steps])

theorem lookup_mem {blocks : List Block} {id : String} {b : Block}
    (found : lookup blocks id = some b) : b ∈ blocks ∧ b.id = id :=
  ⟨List.mem_reverse.mp (List.mem_of_find?_eq_some found), by simpa using List.find?_some found⟩

/-- Every id a snapshot's lookup can return is an id of the snapshot. -/
theorem lookup_closed (blocks : List Block) :
    ∀ id b, lookup blocks id = some b → b.id ∈ (blocks.map (·.id)).toFinset := by
  intro id b found
  simpa using ⟨b, (lookup_mem found).1, rfl⟩

/-- The last step of a snapshot's fuel is never used: it has no more ids than blocks. -/
theorem walk_steps {blocks : List Block} {start : Option Block} (visited : List String)
    (start_mem : ∀ b ∈ start, b.id ∈ (blocks.map (·.id)).toFinset) :
    walk (lookup blocks) (steps blocks) start visited =
      walk (lookup blocks) blocks.length start visited :=
  walk_succ_of_card_le _ (lookup_closed blocks) start_mem
    ((Finset.card_le_card Finset.sdiff_subset).trans
      ((List.toFinset_card_le _).trans (List.length_map _).le))

/-- A graph's lookup through its index finds only blocks of the graph, whatever the index
holds. -/
theorem get?_closed (g : Graph) :
    ∀ id b, g.get? id = some b → b.id ∈ (g.blocks.map (·.id)).toFinset := by
  intro id b found
  obtain ⟨i, -, at_i⟩ := Option.bind_eq_some_iff.mp found
  simpa using ⟨b, List.mem_of_getElem? at_i, rfl⟩

/-- Every walk over a snapshot stops by its own test before its fuel runs out: the walk
from a block of the snapshot with any ids visited, and the walk of a graph's `chainFrom`
from the block an id finds. Each pushes at most as many blocks as the snapshot has distinct
ids left unvisited, no id twice and none visited before, and leaves visited the old ids
and exactly the chain's. -/
theorem walks_finish (blocks : List Block) {start : Block} (visited : List String)
    (member : start ∈ blocks) (g : Graph) (id : String) :
    Finishes (lookup blocks) (blocks.map (·.id)).toFinset (some start) visited
        (walk (lookup blocks) (steps blocks) (some start) visited) ∧
      Finishes g.get? (g.blocks.map (·.id)).toFinset (g.get? id) []
        (walk g.get? (steps g.blocks) (g.get? id) []) := by
  have fewer : ∀ (l : List Block) (visited : List String),
      ((l.map (·.id)).toFinset \ visited.toFinset).card < steps l :=
    fun l _ => (Finset.card_le_card Finset.sdiff_subset).trans_lt (steps_fuel l)
  refine ⟨walk_finishes_of_card_lt _ (lookup_closed blocks) ?_ (fewer blocks visited),
    walk_finishes_of_card_lt _ (get?_closed g) (get?_closed g id) (fewer g.blocks [])⟩
  intro b same
  obtain rfl := Option.some.inj same
  simpa using ⟨start, member, rfl⟩

/-- A loop of two blocks walked from the first with an unrelated id visited, and a chain
from an unknown id. -/
theorem walks_finish_on_loop :
    let blocks := [(Block.make "a" .up).withChild "b", (Block.make "b" .down).withChild "a"]
    (Block.make "a" .up).withChild "b" ∈ blocks ∧
      Finishes (lookup blocks) (blocks.map (·.id)).toFinset (some ((Block.make "a" .up).withChild "b"))
          ["z"] (walk (lookup blocks) (steps blocks) (some ((Block.make "a" .up).withChild "b")) ["z"]) ∧
        Finishes Graph.empty.get? (Graph.empty.blocks.map (·.id)).toFinset (Graph.empty.get? "a") []
          (walk Graph.empty.get? (steps Graph.empty.blocks) (Graph.empty.get? "a") []) :=
  ⟨List.mem_cons_self, walks_finish _ ["z"] List.mem_cons_self Graph.empty "a"⟩

-- the loop is cut where it comes back to the first block
example : (walk (lookup [(Block.make "a" .up).withChild "b", (Block.make "b" .down).withChild "a"])
    3 (some ((Block.make "a" .up).withChild "b")) ["z"]).2 = ["b", "a", "z"] := by decide

section FromOneBlock

/-! The chain from a block and the program below a flag are single walks: the second is
the first from a flag, without the flag, and with one step less of fuel, which a walk over
a snapshot never needs. -/

variable {blocks : List Block} {f : String} {fb : Block} (found : lookup blocks f = some fb)
include found

theorem chainFrom_of_lookup :
    chainFrom blocks f =
      fb :: (walk (lookup blocks) blocks.length (fb.child.bind (lookup blocks)) [fb.id]).1 := by
  rw [chainFrom, found, steps, walk_of_not_mem _ List.not_mem_nil]

theorem programAfterFlag_of_lookup (flag : fb.type = .greenFlag) :
    programAfterFlag blocks f =
      (walk (lookup blocks) (steps blocks) (fb.child.bind (lookup blocks)) [fb.id]).1 := by
  simp only [programAfterFlag, found, flag, bne_self_eq_false, Bool.false_eq_true, if_false]
  split
  · rename_i start next
    rw [next]
  · rename_i missing
    rw [missing, steps, walk_none]

end FromOneBlock

/-- For every snapshot, repeated ids, loops and dangling links included, the program below a
flag is the chain from the flag without its first block when the block an id finds is a
green flag, and nothing otherwise; so it never holds a block with the flag's id. -/
theorem programAfterFlag_eq_tail_chainFrom (blocks : List Block) (f : String) :
    programAfterFlag blocks f =
        (if (lookup blocks f).any (·.type == .greenFlag) then (chainFrom blocks f).tail else []) ∧
      ∀ b ∈ programAfterFlag blocks f, b.id ≠ f := by
  cases found : lookup blocks f with
  | none => simp [programAfterFlag, found]
  | some fb =>
      by_cases flag : fb.type = .greenFlag
      · have below := programAfterFlag_of_lookup found flag
        refine ⟨?_, fun b member => ?_⟩
        · -- the walk below the flag starts from a block the lookup returned
          rw [below, chainFrom_of_lookup found,
            walk_steps _ (bind_find_mem _ (lookup_closed blocks) fb.child)]
          simp [flag]
        · rw [below] at member
          have outside := not_mem_visited_of_mem_walk _ member
          rw [← (lookup_mem found).2]
          simpa using outside
      · simp [programAfterFlag, found, flag]

end Chain

end BlockProgram
