import BlockProgram.Chain
import BlockProgram.Pattern
import BlockProgram.Rules

/-! # Validating programs against chapter rules

A chapter's rules are patterns of type tokens. In `subsequence` mode a program passes when
some pattern occurs contiguously in one of its validation chains; in `exact` mode a
validation chain must match some pattern position by position, after an optional filter
that keeps only some block types.
-/

namespace BlockProgram

/-- How a pattern is compared with a chain. -/
inductive MatchMode where
  /-- The pattern occurs somewhere in the chain. -/
  | subsequence
  /-- The chain is the pattern, position by position. -/
  | exact
  deriving DecidableEq, Repr, Inhabited

namespace MatchMode

/-- The mode with a given name; the names are exact and case-sensitive. -/
def parse (s : String) : Except String MatchMode :=
  match s with
  | "subsequence" => .ok .subsequence
  | "exact" => .ok .exact
  | _ => .error s!"unknown match mode '{s}'"

/-- The name of a mode. -/
def name : MatchMode → String
  | .subsequence => "subsequence"
  | .exact => "exact"

end MatchMode

namespace Validation

/-- The type names along each validation chain of a program. -/
def chainTypes (blocks : List Block) : List (List String) :=
  (Chain.validationChains blocks).map (·.map (·.type.name))

/-- Whether some pattern occurs as a run of consecutive types in some chain; never with
no patterns. -/
def subsequence (blocks : List Block) (patterns : List Pattern) : Bool :=
  let chains := chainTypes blocks
  !patterns.isEmpty && patterns.any fun p => chains.any p.matchesContiguous

/-- Whether some chain, keeping only `blockTypes` when that is given and not empty,
matches some pattern exactly; never with no blocks or no patterns. -/
def exact (blocks : List Block) (patterns : List Pattern) (blockTypes : Option (List String)) :
    Bool :=
  if blocks.isEmpty || patterns.isEmpty then false
  else
    let allowed := blockTypes.filter (!·.isEmpty)
    (chainTypes blocks).any fun types =>
      let kept := match allowed with
        | some a => types.filter (a.contains ·)
        | none => types
      patterns.any (·.matchesExact kept)

/-- Exact validation against the rules of one chapter, with their block types. -/
def rules (blocks : List Block) (r : ChapterRules) : Bool :=
  exact blocks (r.states.map Pattern.compile) r.blockTypes

end Validation

/-- A rule book with its patterns compiled. -/
structure Validator where
  /-- The chapters and their patterns, ordered by name. -/
  chapters : List (String × List Pattern)

namespace Validator

/-- Compiles the patterns of a rule book. -/
def ofBook (b : RuleBook) : Validator :=
  ⟨b.chapters.map fun (k, ps) => (k, ps.map Pattern.compile)⟩

/-- Whether the book has a chapter. -/
def hasChapter (v : Validator) (chapter : String) : Bool := v.chapters.any (·.1 == chapter)

/-- The patterns of a chapter; none for a chapter the book lacks. -/
def patterns (v : Validator) (chapter : String) : List Pattern :=
  ((v.chapters.find? (·.1 == chapter)).map (·.2)).getD []

/-- Validates a program against a chapter in a mode; exact mode keeps every block. -/
def validate (v : Validator) (blocks : List Block) (chapter : String) : MatchMode → Bool
  | .subsequence => Validation.subsequence blocks (v.patterns chapter)
  | .exact => Validation.exact blocks (v.patterns chapter) none

end Validator

end BlockProgram
