import BlockProgram.Regex.Compile
import BlockProgram.Regex.Match

/-! # Patterns of block types

A pattern is a list of tokens, one per block. A token written `/body/flags` (flags among
`g i m s u y`, the body not empty and on one line) is a regular expression that may match
anywhere in a type name; `i`, `m` and `s` set the pattern's flags and the others change
nothing. A regular expression that does not compile makes the token inert: it matches
nothing. Any other token is a literal, equal only to the type name it spells. Tokens are
trimmed of white space first.
-/

namespace BlockProgram

open BlockProgram.Regex

/-- One position of a pattern. -/
inductive Token where
  /-- A type name to equal. -/
  | literal (text : String)
  /-- A regular expression, with its body as written. -/
  | regex (body : String) (r : Regex.Expr)
  /-- A regular expression that does not compile, as written. -/
  | inert (source : String)

namespace Token

/-- The text without white space at either end. -/
def trim (s : String) : String :=
  let cs := (s.toList.dropWhile Unicode.isWhiteSpace).reverse.dropWhile Unicode.isWhiteSpace
  String.ofList cs.reverse

/-- Whether a character is a flag of the `/body/flags` form. -/
def isFlag (c : Char) : Bool := "gimsuy".toList.contains c

/-- The body and flags of a token of the form `/body/flags`. -/
def regexParts? (s : String) : Option (String × List Char) :=
  match s.toList with
  | '/' :: rest =>
    let flags := (rest.reverse.takeWhile (· != '/')).reverse
    let beforeFlags := rest.take (rest.length - flags.length)
    match beforeFlags.reverse with
    | '/' :: bodyReversed =>
      let body := bodyReversed.reverse
      if !body.isEmpty && !body.contains '\n' && flags.all isFlag then
        some (String.ofList body, flags)
      else none
    | _ => none
  | _ => none

/-- The starting flags a `/body/flags` token asks for. -/
def flagsOf (letters : List Char) : Flags :=
  letters.foldl (fun f c =>
    match c with
    | 'i' => { f with caseless := true }
    | 'm' => { f with multiLine := true }
    | 's' => { f with dotAll := true }
    | 'u' => { f with unicode := true }
    | _ => f) {}

/-- Reads a token. -/
def parse (raw : String) : Token :=
  let t := trim raw
  match regexParts? t with
  | none => .literal t
  | some (body, letters) =>
    match Regex.compile body (flagsOf letters) with
    | .ok r => .regex body r
    | .error _ => .inert t

/-- Whether the token accepts a block type name. -/
def accepts (token : Token) (type : String) : Bool :=
  match token with
  | .literal text => text == type
  | .regex _ r => r.isMatch type
  | .inert _ => false

/-- Whether the token is inert. -/
def isInert : Token → Bool
  | .inert _ => true
  | _ => false

/-- The kind of token, as a word. -/
def kind : Token → String
  | .literal _ => "literal"
  | .regex _ _ => "regex"
  | .inert _ => "inert"

/-- The token's text: a literal's name, a regular expression's body, or an inert token as
written. -/
def text : Token → String
  | .literal t => t
  | .regex body _ => body
  | .inert source => source

end Token

/-- A pattern: one token per block. -/
structure Pattern where
  /-- The tokens, in order. -/
  tokens : List Token

namespace Pattern

/-- Reads a pattern from its token texts. -/
def compile (raw : List String) : Pattern := ⟨raw.map Token.parse⟩

/-- The number of tokens. -/
def length (p : Pattern) : Nat := p.tokens.length

/-- Whether the tokens accept the types from the start of `types`, one each. -/
def matchesAt (p : Pattern) (types : List String) : Bool :=
  (p.tokens.zip types).all fun (t, ty) => t.accepts ty

/-- Whether the pattern matches a run of consecutive types; an empty pattern never
does. -/
def matchesContiguous (p : Pattern) (types : List String) : Bool :=
  if p.tokens.isEmpty || types.length < p.length then false
  else (List.range (types.length - p.length + 1)).any fun start => p.matchesAt (types.drop start)

/-- Whether the pattern matches the types exactly, one token per type. -/
def matchesExact (p : Pattern) (types : List String) : Bool :=
  types.length == p.length && p.matchesAt types

end Pattern

end BlockProgram
