import ComicCatalogue.Clause.Token

/-!
# Clauses

The database takes the tokens of a condition for a clause: comparisons of terms, put together by
`AND`, `OR`, `NOT` and look-ups in other tables. `OR` binds most loosely, then `AND`, then `NOT`, so
a row of tokens is divided at the loosest word that stands outside of all parentheses. Where it is
divided at several places, the parts lean to the left.
-/

namespace ComicCatalogue

/-- What is compared. -/
inductive Term where
  | column (table name : String)
  | value (value : Argument)
  /-- Two texts that make up one. -/
  | concat (left right : Term)
  deriving DecidableEq, Repr

/-- What is asked of a row. -/
inductive Clause where
  | compare (comparison : Comparison) (left right : Term)
  /-- The text of the term matches the pattern, which may have an escape character. -/
  | like (subject pattern : Term) (escape : Option Char)
  /-- The term has a value. -/
  | present (term : Term)
  /-- Two tables have rows that are linked in this way and satisfy the condition. -/
  | exist (first second : String) (link condition : Clause)
  | not (clause : Clause)
  | and (left right : Clause)
  | or (left right : Clause)
  deriving DecidableEq, Repr

namespace Token

/-- How many parentheses are open behind a token, if so many are open in front of it; none where it
closes one that is not open. -/
def nest (depth : Nat) : Token → Option Nat
  | opening => some (depth + 1)
  | closing => if depth = 0 then none else some (depth - 1)
  | _ => some depth

/-- The parts of a row of tokens between the places where a word stands outside of all parentheses,
if so many are open in front of the row. There are none if the parentheses do not balance. -/
def split (word : Keyword) : Nat → List Token → Option (List (List Token))
  | 0, [] => some [[]]
  | _ + 1, [] => none
  | depth, token :: rest =>
    if depth = 0 ∧ token = .keyword word then (split word 0 rest).map ([] :: ·)
    else do
      let depth ← nest depth token
      (split word depth rest).map (List.modifyHead (token :: ·))

/-- The tokens in front of the parenthesis that a row of tokens ends with. -/
def enclosed? (tokens : List Token) : Option (List Token) :=
  match tokens.getLast? with
  | some closing => some tokens.dropLast
  | _ => none

/-- Whether the token says what is asked of the term in front of it. -/
def isTest : Token → Bool
  | comparison _ => true
  | keyword .like => true
  | keyword .is => true
  | _ => false

/-- Whether the token stands between a pattern and its escape character. -/
def isEscape : Token → Bool
  | keyword .escape => true
  | _ => false

end Token

namespace Term

/-- Reads the rest of a term, of which the front has been read. -/
def more? (front : Term) : List Token → Option Term
  | [] => some front
  | .concat :: .value given :: rest => more? (.concat front (.value given)) rest
  | .concat :: .name table :: .dot :: .name name :: rest =>
    more? (.concat front (.column table name)) rest
  | _ => none

/-- Reads a term: values and columns, with a sign between each two of them. -/
def ofTokens? : List Token → Option Term
  | .value given :: rest => more? (.value given) rest
  | .name table :: .dot :: .name name :: rest => more? (.column table name) rest
  | _ => none

end Term

namespace Clause

open Token (split enclosed?)

/-- Clauses one after the other as one, leaning to the left. -/
def chain (word : Clause → Clause → Clause) : List Clause → Option Clause
  | [] => none
  | first :: rest => some (rest.foldl word first)

/-- Reads what is asked of a term. -/
def ofTest? (tokens : List Token) : Option Clause :=
  match tokens.span (!·.isTest) with
  | (subject, .comparison comparison :: other) => do
    return compare comparison (← Term.ofTokens? subject) (← Term.ofTokens? other)
  | (subject, .keyword .like :: pattern) =>
    match pattern.span (!·.isEscape) with
    | (pattern, []) => do
      return like (← Term.ofTokens? subject) (← Term.ofTokens? pattern) none
    | (pattern, [_, .value (.text escape)]) => do
      match escape.toList with
      | [c] => return like (← Term.ofTokens? subject) (← Term.ofTokens? pattern) (some c)
      | _ => none
    | _ => none
  | (subject, [.keyword .is, .keyword .not, .keyword .null]) => do
    return present (← Term.ofTokens? subject)
  | _ => none

/-- Reads a clause without an `AND` or `OR` outside of parentheses. What stands in parentheses is
read by `inner`. -/
def ofOperand? (inner : List Token → Option Clause) : List Token → Option Clause
  | .keyword .not :: rest => (ofOperand? inner rest).map not
  | .keyword .exist :: .opening :: .keyword .select :: .value _ :: .keyword .source ::
      .name first :: .keyword .join :: .name second :: .keyword .link :: rest => do
    match ← split .filter 0 (← enclosed? rest) with
    | [link, condition] => return exist first second (← inner link) (← inner condition)
    | _ => none
  | .opening :: rest => do inner (← enclosed? rest)
  | tokens => ofTest? tokens

/-- Reads a clause without an `OR` outside of parentheses. -/
def ofConjunction? (inner : List Token → Option Clause) (tokens : List Token) : Option Clause := do
  chain and (← (← split .and 0 tokens).mapM (ofOperand? inner))

/-- Reads a clause with fewer than so many parentheses around any of its parts. -/
def ofTokens? : Nat → List Token → Option Clause
  | 0, _ => none
  | depth + 1, tokens => do
    chain or (← (← split .or 0 tokens).mapM (ofConjunction? (ofTokens? depth)))

/-- The clauses all of which a clause asks for. -/
def conjuncts : Clause → List Clause
  | and left right => left.conjuncts ++ right.conjuncts
  | clause => [clause]

end Clause

/-- The clause that the database reads a fragment as. -/
def Fragment.clause? (fragment : Fragment) : Option Clause := do
  let tokens ← fragment.tokens?
  Clause.ofTokens? tokens.length tokens

end ComicCatalogue
