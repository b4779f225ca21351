import Mathlib.Data.List.Forall2
import BlockProgram.Proofs.Chain.Walk
import BlockProgram.Validation

/-! # Matching patterns against chains

A pattern matches a list of types exactly when it has one token per type and each token
accepts its type (`Pattern.matchesExact_iff_forall₂`). It matches contiguously exactly when
it is not empty and matches some window of the list exactly (`Pattern.matchesContiguous_iff`,
both together in `Pattern.matchesContiguous_iff_window`): the start positions tried are all
the windows there are, and a window reads no type past its length.

Every validation chain holds a block, so a chain that an exact pattern matches is a
non-empty window of itself, and exact validation without a type filter implies subsequence
validation (`Validation.subsequence_of_exact`, `Validation.exact_implies_subsequence`).

A pattern with an inert token matches nothing: an exact match and every window the search
tries hold each token against a type. So adding such a pattern to a rule set, anywhere,
changes no verdict in either mode, under any type filter, and a rule set made only of such
patterns never passes (`Validation.subsequence_insert_of_inert`,
`Validation.exact_insert_of_inert`, `Validation.never_passes_of_inert`).
-/

namespace BlockProgram

/-- An inert token accepts no type. -/
theorem Token.accepts_of_isInert {t : Token} (inert : t.isInert = true) (type : String) :
    t.accepts type = false := by
  cases t with
  | literal text => simp [Token.isInert] at inert
  | regex body r => simp [Token.isInert] at inert
  | inert source => rfl

namespace Pattern

variable (p : Pattern)

/-- Tokens accept types position by position. -/
theorem matchesAt_iff_forall₂ {v : List String} (fits : v.length = p.length) :
    p.matchesAt v = true ↔ List.Forall₂ (fun t ty => t.accepts ty = true) p.tokens v := by
  rw [List.forall₂_iff_zip, matchesAt, List.all_eq_true]
  simp [length, fits]

theorem matchesExact_iff_forall₂ {v : List String} :
    p.matchesExact v = true ↔ List.Forall₂ (fun t ty => t.accepts ty = true) p.tokens v := by
  rw [matchesExact, Bool.and_eq_true, beq_iff_eq]
  constructor
  · rintro ⟨fits, accepted⟩
    exact (p.matchesAt_iff_forall₂ fits).mp accepted
  · intro accepted
    have fits : v.length = p.length := accepted.length_eq.symm
    exact ⟨fits, (p.matchesAt_iff_forall₂ fits).mpr accepted⟩

/-- Matching at the start reads only as many types as the pattern has tokens. -/
theorem matchesAt_append {v : List String} (fits : v.length = p.length) (w : List String) :
    p.matchesAt (v ++ w) = p.matchesAt v := by
  have split : p.tokens.zip (v ++ w) = p.tokens.zip v := by
    have aligned : p.tokens.length = v.length := fits.symm
    simpa using @List.zip_append _ _ p.tokens [] v w aligned
  simp only [matchesAt, split]

/-- Contiguous matching is exact matching of some window, for a pattern with tokens. -/
theorem matchesContiguous_iff {types : List String} :
    p.matchesContiguous types = true ↔
      p.tokens ≠ [] ∧ ∃ u v w, types = u ++ v ++ w ∧ p.matchesExact v = true := by
  unfold matchesContiguous
  by_cases empty : p.tokens = []
  · simp [empty]
  have notEmpty : p.tokens.isEmpty = false := List.isEmpty_eq_false_iff.mpr empty
  by_cases short : types.length < p.length
  · -- no window of the pattern's length fits
    rw [if_pos (by simp [short])]
    simp only [Bool.false_eq_true, false_iff, not_and, not_exists]
    intro _ u v w split matched
    have fits := (p.matchesExact_iff_forall₂.mp matched).length_eq
    rw [split] at short
    simp only [List.length_append, length] at short fits
    omega
  rw [if_neg (by simp [notEmpty, short])]
  simp only [List.any_eq_true, List.mem_range, ne_eq, empty, not_false_eq_true, true_and]
  constructor
  · -- the window at `start`, cut to the pattern's length
    rintro ⟨start, inside, found⟩
    refine ⟨types.take start, (types.drop start).take p.length, (types.drop start).drop p.length,
      by rw [List.append_assoc, List.take_append_drop, List.take_append_drop], ?_⟩
    have fits : ((types.drop start).take p.length).length = p.length := by
      simp only [List.length_take, List.length_drop]
      omega
    rw [matchesExact, fits, beq_self_eq_true, Bool.true_and, ← p.matchesAt_append fits,
      List.take_append_drop]
    exact found
  · rintro ⟨u, v, w, rfl, matched⟩
    have fits : v.length = p.length := (p.matchesExact_iff_forall₂.mp matched).length_eq.symm
    refine ⟨u.length, by simp only [List.length_append]; omega, ?_⟩
    rw [List.append_assoc, List.drop_left, p.matchesAt_append fits]
    simpa [matchesExact, fits] using matched

/-- A list a pattern with tokens matches exactly is a window of itself. -/
theorem matchesContiguous_of_matchesExact {types : List String} (nonempty : p.tokens ≠ [])
    (matched : p.matchesExact types = true) : p.matchesContiguous types = true :=
  (p.matchesContiguous_iff).mpr ⟨nonempty, [], types, [], by simp, matched⟩

/-- A pattern matches a run of consecutive types exactly when it has tokens and a window of
the types has one type per token, each accepted by its token. -/
theorem matchesContiguous_iff_window (types : List String) :
    (∀ v, p.matchesExact v = true ↔
      v.length = p.length ∧
        ∀ i (inTokens : i < p.tokens.length) (inTypes : i < v.length),
          p.tokens[i].accepts v[i] = true) ∧
    (p.matchesContiguous types = true ↔
      p.tokens ≠ [] ∧ ∃ u v w, types = u ++ v ++ w ∧ p.matchesExact v = true) := by
  refine ⟨fun v => ?_, p.matchesContiguous_iff⟩
  rw [matchesExact_iff_forall₂, List.forall₂_iff_get, length, eq_comm]
  simp only [List.get_eq_getElem]

-- the last window is tried: a match may end at the last type
example : (⟨[.literal "up", .literal "down"]⟩ : Pattern).matchesContiguous
    ["delay", "up", "down"] = true := by decide

/-- An exact match holds every token against a type, so a pattern with a token that accepts
nothing matches no list exactly. -/
theorem matchesExact_of_inert {t : Token} (member : t ∈ p.tokens) (inert : t.isInert = true)
    (types : List String) : p.matchesExact types = false := by
  rw [Bool.eq_false_iff]
  intro matched
  obtain ⟨fits, accepted⟩ := List.forall₂_iff_get.mp (p.matchesExact_iff_forall₂.mp matched)
  obtain ⟨i, inTokens, rfl⟩ := List.getElem_of_mem member
  have holds := accepted i inTokens (fits ▸ inTokens)
  simp [Token.accepts_of_isInert inert] at holds

/-- Every window the search tries is an exact match of the whole pattern, so a pattern with
an inert token occurs in no list. -/
theorem matchesContiguous_of_inert {t : Token} (member : t ∈ p.tokens) (inert : t.isInert = true)
    (types : List String) : p.matchesContiguous types = false := by
  rw [Bool.eq_false_iff]
  intro matched
  obtain ⟨-, u, v, w, -, window⟩ := p.matchesContiguous_iff.mp matched
  rw [p.matchesExact_of_inert member inert v] at window
  exact Bool.false_ne_true window

end Pattern

namespace Validation

/-- Every validation chain starts at a block, so none is empty. -/
theorem validationChains_ne_nil {blocks : List Block} {chain : List Block}
    (member : chain ∈ Chain.validationChains blocks) : chain ≠ [] := by
  simp only [Chain.validationChains, List.mem_map] at member
  obtain ⟨start, -, rfl⟩ := member
  have first : (Chain.walk (Chain.lookup blocks) (Chain.steps blocks) (some start) []).1.head? =
      some start :=
    Chain.walk_head? _ List.not_mem_nil
  exact List.ne_nil_of_mem (List.mem_of_mem_head? first)

/-- With no type filter, a chain that matches a pattern exactly holds it as a window, since
the chain is not empty and neither is the pattern. -/
theorem subsequence_of_exact {blocks : List Block} {patterns : List Pattern}
    {blockTypes : Option (List String)} (unfiltered : blockTypes = none ∨ blockTypes = some [])
    (passed : Validation.exact blocks patterns blockTypes = true) :
    subsequence blocks patterns = true := by
  have allowed : blockTypes.filter (!·.isEmpty) = none := by
    rcases unfiltered with rfl | rfl <;> rfl
  unfold Validation.exact at passed
  split at passed
  · simp at passed
  simp only [allowed, List.any_eq_true] at passed
  obtain ⟨types, inChains, p, inPatterns, matched⟩ := passed
  obtain ⟨chain, inValidation, rfl⟩ := List.mem_map.mp inChains
  have nonempty : p.tokens ≠ [] := by
    intro none
    have fits := (p.matchesExact_iff_forall₂.mp matched).length_eq
    simp only [none, List.length_nil, List.length_map] at fits
    exact validationChains_ne_nil inValidation (List.eq_nil_of_length_eq_zero fits.symm)
  simp only [subsequence, Bool.and_eq_true, Bool.not_eq_true', List.isEmpty_eq_false_iff,
    List.any_eq_true]
  refine ⟨List.ne_nil_of_mem inPatterns, p, inPatterns, _, inChains, ?_⟩
  exact p.matchesContiguous_of_matchesExact nonempty matched

/-- Exact validation with no filter, or an empty one, implies subsequence validation; so
does validating a chapter of a rule book in exact mode. -/
theorem exact_implies_subsequence :
    (∀ (blocks : List Block) (patterns : List Pattern) (blockTypes : Option (List String)),
      (blockTypes = none ∨ blockTypes = some []) →
      exact blocks patterns blockTypes = true → subsequence blocks patterns = true) ∧
    ∀ (v : Validator) (blocks : List Block) (chapter : String),
      v.validate blocks chapter .exact = true → v.validate blocks chapter .subsequence = true :=
  ⟨fun _ _ _ unfiltered passed => subsequence_of_exact unfiltered passed,
    fun _ _ _ passed => subsequence_of_exact (.inl rfl) passed⟩

/-- A flag with a block below it passes exact validation against its two types with an
empty type filter, and so passes subsequence validation. -/
theorem flag_then_up_passes_both_modes :
    let blocks := [(Block.make "f" .greenFlag).withChild "u", (Block.make "u" .up).withParent "f"]
    let patterns : List Pattern := [⟨[.literal "green-flag", .literal "up"]⟩]
    (some [] = (none : Option (List String)) ∨ some [] = some ([] : List String)) ∧
      exact blocks patterns (some []) = true ∧ subsequence blocks patterns = true := by
  intro blocks patterns
  have passed : exact blocks patterns (some []) = true := by decide
  exact ⟨.inr rfl, passed, exact_implies_subsequence.1 blocks patterns (some []) (.inr rfl) passed⟩

section Inert

/-! A pattern that matches nothing is invisible to validation. -/

variable (blocks : List Block) {q : Pattern}

/-- Subsequence validation asks only whether some pattern occurs in some chain; its check
for an empty rule set agrees with that. -/
theorem subsequence_eq_any (patterns : List Pattern) :
    subsequence blocks patterns = patterns.any fun p => (chainTypes blocks).any p.matchesContiguous := by
  cases patterns <;> rfl

theorem subsequence_insert_of_inert {t : Token} (member : t ∈ q.tokens) (inert : t.isInert = true)
    (ps qs : List Pattern) : subsequence blocks (ps ++ q :: qs) = subsequence blocks (ps ++ qs) := by
  have never : (chainTypes blocks).any q.matchesContiguous = false :=
    List.any_eq_false.mpr fun types _ => by simp [q.matchesContiguous_of_inert member inert]
  simp [subsequence_eq_any, never]

theorem exact_insert_of_inert {t : Token} (member : t ∈ q.tokens) (inert : t.isInert = true)
    (ps qs : List Pattern) (blockTypes : Option (List String)) :
    exact blocks (ps ++ q :: qs) blockTypes = exact blocks (ps ++ qs) blockTypes := by
  have never := q.matchesExact_of_inert member inert
  unfold exact
  by_cases others : ps ++ qs = []
  · -- `q` stands alone and matches no chain, whatever the filter keeps
    obtain ⟨rfl, rfl⟩ := List.append_eq_nil_iff.mp others
    simp [never]
  · have nonempty : (ps ++ qs).isEmpty = false := List.isEmpty_eq_false_iff.mpr others
    simp [nonempty, never]

/-- A rule set of patterns that each hold an inert token passes in neither mode: take the
patterns out one by one down to the empty rule set. -/
theorem never_passes_of_inert {ps : List Pattern}
    (inert : ∀ p ∈ ps, ∃ t ∈ p.tokens, t.isInert = true) :
    subsequence blocks ps = false ∧ ∀ blockTypes, exact blocks ps blockTypes = false := by
  induction ps with
  | nil => exact ⟨rfl, fun _ => by simp [exact]⟩
  | cons q rest ih =>
      obtain ⟨t, member, dead⟩ := inert q List.mem_cons_self
      have later := ih fun p inRest => inert p (List.mem_cons_of_mem q inRest)
      refine ⟨?_, fun blockTypes => ?_⟩
      · rw [← List.nil_append (q :: rest), subsequence_insert_of_inert blocks member dead]
        exact later.1
      · rw [← List.nil_append (q :: rest), exact_insert_of_inert blocks member dead]
        exact later.2 blockTypes

end Inert

/-- A pattern with an inert token, put anywhere into a rule set, changes neither
subsequence nor exact validation under any type filter; and a rule set whose every pattern
holds an inert token never passes. -/
theorem inert_patterns_change_no_verdict (blocks : List Block) :
    (∀ (ps qs : List Pattern) (q : Pattern), (∃ t ∈ q.tokens, t.isInert = true) →
      subsequence blocks (ps ++ q :: qs) = subsequence blocks (ps ++ qs) ∧
      ∀ blockTypes, exact blocks (ps ++ q :: qs) blockTypes = exact blocks (ps ++ qs) blockTypes) ∧
    ∀ ps : List Pattern, (∀ p ∈ ps, ∃ t ∈ p.tokens, t.isInert = true) →
      subsequence blocks ps = false ∧ ∀ blockTypes, exact blocks ps blockTypes = false := by
  refine ⟨fun ps qs q ⟨t, member, inert⟩ => ⟨?_, fun blockTypes => ?_⟩,
    fun ps inert => never_passes_of_inert blocks inert⟩
  · exact subsequence_insert_of_inert blocks member inert ps qs
  · exact exact_insert_of_inert blocks member inert ps qs blockTypes

/-- A flag followed by a down block, checked against a rule set whose first pattern has a
regular expression that did not compile: the verdicts are those of the other pattern, and
the broken pattern alone passes nothing. -/
theorem broken_regex_pattern_is_ignored :
    let blocks := [(Block.make "a0" .greenFlag).withChild "a1", (Block.make "a1" .down).withParent "a0"]
    let broken : Pattern := ⟨[.inert "/up(/", .literal "up"]⟩
    let others := [Pattern.compile ["green-flag", "down"]]
    (∃ t ∈ broken.tokens, t.isInert = true) ∧
      (subsequence blocks ([] ++ broken :: others) = subsequence blocks ([] ++ others) ∧
        ∀ blockTypes, exact blocks ([] ++ broken :: others) blockTypes =
          exact blocks ([] ++ others) blockTypes) ∧
      (∀ p ∈ [broken], ∃ t ∈ p.tokens, t.isInert = true) ∧
      (subsequence blocks [broken] = false ∧ ∀ blockTypes, exact blocks [broken] blockTypes = false) := by
  intro blocks broken others
  have inert : ∃ t ∈ broken.tokens, t.isInert = true := ⟨.inert "/up(/", List.mem_cons_self, rfl⟩
  have alone : ∀ p ∈ [broken], ∃ t ∈ p.tokens, t.isInert = true := by simpa using inert
  exact ⟨inert, (inert_patterns_change_no_verdict blocks).1 [] others broken inert, alone,
    (inert_patterns_change_no_verdict blocks).2 [broken] alone⟩

end Validation

end BlockProgram
