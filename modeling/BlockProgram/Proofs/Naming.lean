import Mathlib.Data.List.Nodup
import Mathlib.Data.List.Perm.Basic
import Mathlib.Data.String.Basic
import BlockProgram.Toolchain.Config

/-! # Command names with renames

A type's name reads back as the type (`BlockType.name_ofName`), so reading names is
injective: two names never read as one type. A naming table answers with its latest
override for a type, or the type's own name (`Naming.nameFor_rename`); the scheme tables
rename the gamepad's turns and lamps and nothing else (`Naming.nameFor_ofScheme`).

The configuration folds its renames, keys read as types, over the scheme's table. Since
the keys of a table are distinct and distinct keys read as distinct types, the type a key
names gets that key's name and every other type keeps the scheme's, whatever the order of
the fold (`Naming.nameFor_foldl_rename`). The keys are distinct in every configuration read
from text: the decoder inserts each entry at its place by key, whatever value the TOML
reader hands it, so they come out in increasing order
(`Toolchain.Config.decoder_rename_sorted`, `Toolchain.Config.parse_rename_sorted`).
-/

namespace BlockProgram

namespace BlockType

/-- Reading a type's name gives a type of that name, whether the name is on the palette or
not. -/
theorem name_ofName (s : String) : (ofName s).name = s := by
  unfold ofName
  cases found : known.find? (·.name == s) with
  | none => rfl
  | some t => simpa using List.find?_some found

theorem ofName_injective : Function.Injective ofName := fun s s' same => by
  rw [← name_ofName s, same, name_ofName]

end BlockType

namespace NamingScheme

/-- The name a scheme sends a type under: the gamepad renames the two turns and the two
lamps, and every other type, under either scheme, goes by its own name. -/
def nameOf : NamingScheme → BlockType → String
  | .gamepad, .clockwise => "turnright"
  | .gamepad, .countClockwise => "turnleft"
  | .gamepad, .lampOn => "lampon"
  | .gamepad, .lampOff => "lampoff"
  | _, t => t.name

end NamingScheme

section Lookup

variable {α β : Type} [BEq α] [LawfulBEq α] {table table' : List (α × β)}

/-- In a table with one entry per key, a lookup finds exactly the entries. -/
theorem lookup_eq_some_iff_mem (keys : (table.map (·.1)).Nodup) {a : α} {b : β} :
    table.lookup a = some b ↔ (a, b) ∈ table := by
  constructor
  · intro found
    obtain ⟨l₁, l₂, rfl, -⟩ := List.lookup_eq_some_iff.mp found
    simp
  · intro member
    obtain ⟨b', found⟩ := Option.isSome_iff_exists.mp
      ((List.lookup_isSome_iff (l := table) (k := a)).mpr ⟨(a, b), member, by simp⟩)
    obtain ⟨l₁, l₂, split, -⟩ := List.lookup_eq_some_iff.mp found
    have member' : (a, b') ∈ table := by simp [split]
    -- one entry per key: the entry found is the one given
    have same := List.inj_on_of_nodup_map keys member member' rfl
    rw [found, (Prod.mk.inj same).2]

/-- A table with one entry per key answers the same lookups in any order. -/
theorem lookup_perm (keys : (table.map (·.1)).Nodup) (perm : table'.Perm table) (a : α) :
    table'.lookup a = table.lookup a := by
  have keys' : (table'.map (·.1)).Nodup := (perm.map _).nodup_iff.mpr keys
  refine Option.ext fun b => ?_
  rw [lookup_eq_some_iff_mem keys', lookup_eq_some_iff_mem keys, perm.mem_iff]

end Lookup

namespace Naming

@[simp] theorem nameFor_workspace (t : BlockType) : workspace.nameFor t = t.name := rfl

@[simp] theorem nameFor_rename (n : Naming) (t u : BlockType) (name : String) :
    (n.rename t name).nameFor u = if u = t then name else n.nameFor u := by
  by_cases same : u = t
  · simp [rename, nameFor, same]
  · simp [rename, nameFor, same, Ne.symm same]

theorem nameFor_ofScheme (scheme : NamingScheme) (t : BlockType) :
    (ofScheme scheme).nameFor t = scheme.nameOf t := by
  cases scheme with
  | workspace => rfl
  | gamepad => cases t <;> simp [ofScheme, gamepad, NamingScheme.nameOf]

/-- Renames folded over a table with one entry per key: the type a key names gets that
key's name, and every other type keeps the name it had. -/
theorem nameFor_foldl_rename (table : List (String × String)) (keys : (table.map (·.1)).Nodup)
    (n : Naming) (s : String) :
    (table.foldl (fun n (k, name) => n.rename (.ofName k) name) n).nameFor (.ofName s) =
      (table.lookup s).getD (n.nameFor (.ofName s)) := by
  induction table generalizing n with
  | nil => rfl
  | cons entry table ih =>
      obtain ⟨k, name⟩ := entry
      rw [List.map_cons, List.nodup_cons] at keys
      rw [List.foldl_cons, ih keys.2, nameFor_rename]
      by_cases same : s = k
      · -- no later entry has the key
        subst same
        have missing : table.lookup s = none := by
          rw [List.lookup_eq_none_iff]
          intro p member
          have other : s ≠ p.1 := fun named =>
            keys.1 (by simpa [named] using List.mem_map_of_mem (f := (·.1)) member)
          simpa using other
        simp [missing]
      · have differ : BlockType.ofName s ≠ BlockType.ofName k :=
          fun named => same (BlockType.ofName_injective named)
        simp [List.lookup_cons, beq_eq_false_iff_ne.mpr same, differ]

end Naming

section Renames

/-! The decoder builds a string map by inserting each entry at its place by key, so the
keys come out in increasing order, each once. -/

open Toml

variable {ε α β : Type}

theorem except_bind_eq_ok {x : Except ε α} {f : α → Except ε β} {b : β} :
    x >>= f = .ok b ↔ ∃ a, x = .ok a ∧ f a = .ok b := by
  cases x <;> simp [bind, Except.bind]

theorem mapError_eq_ok {x : Except ε α} {f : ε → β} {a : α} : x.mapError f = .ok a ↔ x = .ok a := by
  cases x <;> simp [Except.mapError]

/-- A fold in `Except` that succeeds keeps what each successful step keeps. -/
theorem foldlM_of_step {γ δ : Type} (P : γ → Prop) {f : γ → δ → Except ε γ}
    (step : ∀ acc x r, P acc → f acc x = .ok r → P r) :
    ∀ {l : List δ} {init r : γ}, P init → l.foldlM f init = .ok r → P r := by
  intro l
  induction l with
  | nil =>
      intro init r start done
      cases done
      exact start
  | cons x rest ih =>
      intro init r start done
      rw [List.foldlM_cons] at done
      obtain ⟨acc, first, later⟩ := except_bind_eq_ok.mp done
      exact ih (step init x acc start first) later

namespace Toml.Decoder

theorem mem_keys_insertSorted {k x : String} {a : α} {l : List (String × α)}
    (member : x ∈ (insertSorted k a l).map (·.1)) : x = k ∨ x ∈ l.map (·.1) := by
  induction l with
  | nil => simpa [insertSorted] using member
  | cons entry rest ih =>
      obtain ⟨k', a'⟩ := entry
      unfold insertSorted at member
      split_ifs at member with same
      · simp only [List.map_cons, List.mem_cons] at member ⊢
        rcases member with rfl | later
        · exact .inl rfl
        · exact .inr (.inr later)
      · simpa using member
      · simp only [List.map_cons, List.mem_cons] at member ⊢
        rcases member with rfl | later
        · exact .inr (.inl rfl)
        · rcases ih later with rfl | later
          · exact .inl rfl
          · exact .inr (.inr later)

/-- Inserting into a list with increasing keys keeps them increasing. -/
theorem sorted_insertSorted (k : String) (a : α) {l : List (String × α)}
    (sorted : (l.map (·.1)).Pairwise (· < ·)) :
    ((insertSorted k a l).map (·.1)).Pairwise (· < ·) := by
  induction l with
  | nil => simp [insertSorted]
  | cons entry rest ih =>
      obtain ⟨k', a'⟩ := entry
      rw [List.map_cons, List.pairwise_cons] at sorted
      unfold insertSorted
      split_ifs with same before
      · -- the entry of the same key is replaced
        subst same
        simpa using sorted
      · -- the new key goes before every key of the list
        simp only [List.map_cons, List.pairwise_cons, List.mem_cons]
        refine ⟨fun x member => ?_, sorted.1, sorted.2⟩
        rcases member with rfl | later
        · exact before
        · exact before.trans (sorted.1 x later)
      · -- the first key stays first, below the new one
        have after : k' < k := lt_of_le_of_ne (not_lt.mp before) (Ne.symm same)
        simp only [List.map_cons, List.pairwise_cons]
        refine ⟨fun x member => ?_, ih sorted.2⟩
        rcases mem_keys_insertSorted member with rfl | later
        · exact after
        · exact sorted.1 x later

/-- A string map comes out with its keys in increasing order. -/
theorem sorted_stringMap {d : Decoder α} {v : Value} {l : List (String × α)}
    (ok : stringMap d v = .ok l) : (l.map (·.1)).Pairwise (· < ·) := by
  cases v with
  | table entries =>
      refine foldlM_of_step (fun acc => (acc.map (·.1)).Pairwise (· < ·)) ?_ (by simp) ok
      rintro acc ⟨k, x⟩ r sorted step
      obtain ⟨a, -, done⟩ := except_bind_eq_ok.mp step
      cases done
      exact sorted_insertSorted k a sorted
  | _ => simp [stringMap] at ok

end Toml.Decoder

theorem Toml.Fields.withDefault_eq_ok {fs : Fields} {i : Nat} {name : String} {d : Decoder α}
    {default a : α} (ok : fs.withDefault i name d default = .ok a) :
    a = default ∨ ∃ v, d v = .ok a := by
  unfold Fields.withDefault at ok
  split at ok
  · exact .inr ⟨_, ok⟩
  · exact .inl (Except.ok.inj ok).symm

end Renames

namespace Toolchain.Config

open Toml

theorem compileDecoder_rename {v : Value} {cs : CompileSettings} (ok : compileDecoder v = .ok cs) :
    ∃ fs, Fields.of v = .ok fs ∧ fs.withDefault 2 "rename" (Decoder.stringMap .string) [] = .ok cs.rename := by
  obtain ⟨fs, fields, ok⟩ := except_bind_eq_ok.mp ok
  obtain ⟨_, -, ok⟩ := except_bind_eq_ok.mp ok
  obtain ⟨_, -, ok⟩ := except_bind_eq_ok.mp ok
  obtain ⟨_, renames, ok⟩ := except_bind_eq_ok.mp ok
  cases ok
  exact ⟨fs, fields, renames⟩

/-- A configuration read from text is the decoder's answer on the value the TOML reader
made of it: the reader contributes that value and nothing else. -/
theorem parse_eq_ok {text : String} {c : Config} :
    parse text = .ok c ↔ ∃ v, Toml.parse text = .ok v ∧ decoder v = .ok c := by
  unfold parse
  split
  · rename_i failed
    simp [failed]
  · rename_i v read
    simp [read, mapError_eq_ok]

/-- Whatever value the TOML reader hands over, a configuration decoded from it has its renames
in increasing order of their type names, so one rename per name. -/
theorem decoder_rename_sorted {v : Value} {c : Config} (decoded : decoder v = .ok c) :
    (c.compile.rename.map (·.1)).Pairwise (· < ·) := by
  obtain ⟨fs, -, decoded⟩ := except_bind_eq_ok.mp decoded
  obtain ⟨_, compiled, decoded⟩ := except_bind_eq_ok.mp decoded
  obtain ⟨_, -, decoded⟩ := except_bind_eq_ok.mp decoded
  obtain ⟨_, -, decoded⟩ := except_bind_eq_ok.mp decoded
  obtain ⟨_, -, decoded⟩ := except_bind_eq_ok.mp decoded
  cases decoded
  -- the compile table and its rename table each either default to no renames or are decoded
  rcases Fields.withDefault_eq_ok compiled with same | ⟨_, settings⟩
  · rw [same]
    simp
  · obtain ⟨_, -, renames⟩ := compileDecoder_rename settings
    rcases Fields.withDefault_eq_ok renames with same | ⟨_, mapped⟩
    · rw [same]
      simp
    · exact Decoder.sorted_stringMap mapped

/-- Every configuration read from text has its renames in increasing order of their type
names. -/
theorem parse_rename_sorted {text : String} {c : Config} (read : parse text = .ok c) :
    (c.compile.rename.map (·.1)).Pairwise (· < ·) := by
  obtain ⟨v, -, decoded⟩ := parse_eq_ok.mp read
  exact decoder_rename_sorted decoded

/-- The names a configuration gives: for every type read from a name, the configured rename
for that name when there is one, and the scheme's name otherwise, the run's scheme
overriding the configured one. The type's name is the name it was read from, and distinct
names read as distinct types, so the renames give the same names in any order. -/
theorem naming_nameFor_ofName (c : Config) (scheme : Option NamingScheme) (s : String)
    (table : (c.compile.rename.map (·.1)).Nodup) :
    (c.naming scheme).nameFor (.ofName s) =
        (c.compile.rename.lookup (BlockType.ofName s).name).getD
          ((scheme.getD c.compile.naming).nameOf (.ofName s)) ∧
      (BlockType.ofName s).name = s ∧
      (∀ s', BlockType.ofName s' = BlockType.ofName s → s' = s) ∧
      ∀ rename, rename.Perm c.compile.rename →
        ({ c with compile := { c.compile with rename } }.naming scheme).nameFor (.ofName s) =
          (c.naming scheme).nameFor (.ofName s) := by
  have named := BlockType.name_ofName s
  refine ⟨?_, named, fun _ same => BlockType.ofName_injective same, fun rename perm => ?_⟩
  · rw [naming, Naming.nameFor_foldl_rename _ table, Naming.nameFor_ofScheme, named]
  · rw [naming, naming, Naming.nameFor_foldl_rename _ ((perm.map _).nodup_iff.mpr table),
      Naming.nameFor_foldl_rename _ table, lookup_perm table perm]

/-- The gamepad scheme with renames for `clockwise` and `shoot`, at the renamed turn. -/
theorem naming_gamepad_with_rename :
    let c : Config :=
      { compile := { naming := .gamepad, rename := [("clockwise", "spin"), ("shoot", "fire")] } }
    (c.compile.rename.map (·.1)).Nodup ∧
      (c.naming none).nameFor (.ofName "clockwise") =
          (c.compile.rename.lookup (BlockType.ofName "clockwise").name).getD
            ((none.getD c.compile.naming).nameOf (.ofName "clockwise")) ∧
        (BlockType.ofName "clockwise").name = "clockwise" ∧
        (∀ s', BlockType.ofName s' = BlockType.ofName "clockwise" → s' = "clockwise") ∧
        ∀ rename, rename.Perm c.compile.rename →
          ({ c with compile := { c.compile with rename } }.naming none).nameFor
              (.ofName "clockwise") = (c.naming none).nameFor (.ofName "clockwise") :=
  let c : Config :=
    { compile := { naming := .gamepad, rename := [("clockwise", "spin"), ("shoot", "fire")] } }
  ⟨by decide, naming_nameFor_ofName c none "clockwise" (by decide)⟩

-- the rename wins over the scheme, and the lamp keeps the gamepad's name
example :
    let c : Config := { compile := { naming := .gamepad, rename := [("clockwise", "spin")] } }
    (c.naming none).nameFor .clockwise = "spin" ∧ (c.naming none).nameFor .lampOn = "lampon" := by
  decide

end Toolchain.Config

end BlockProgram
