import MonitorQuery.Query.Filter
import MonitorQuery.Query.Literal
import MonitorQuery.Query.Token

/-!
Reading the clauses that a list of tokens writes.

The grammar is

    list        ::=  term (operator term)*
    term        ::=  "(" list ")"  |  attribute null-check  |  attribute comparator value

`Reading` is what is known after some of the tokens: the clauses read so far in the innermost open list, the
lists around it, and what the next token has to be. `Reading.step` takes one token, and `clausesOf` takes
them all, one after the other. The first clause of every list is joined by OR, which keeps a flat list
of alternatives within what the flat interface can carry.

A fault names its cause and a position, counted from one. What ends too early is reported behind the last
token. A token that should join or close is reported at its own place; one that should begin a restriction
or compare, at the place behind it, since it has been taken by then.
-/

namespace MonitorQuery.Query

/-- Why tokens write no clauses. -/
inductive TokenFault
  | restrictionExpected
  | attributeExpected (found : String)
  | comparatorMissing (attr : String)
  | comparatorUnknown (found : String)
  | valueMissing (attr : String)
  | operatorExpected (found : String)
  | closingUnbalanced
  | closingMissing
  deriving DecidableEq, Repr

namespace TokenFault

/-- The wording of a fault. -/
def message : TokenFault → String
  | restrictionExpected => "expected a restriction"
  | attributeExpected found => "expected an attribute, found '" ++ found ++ "'"
  | comparatorMissing attr => "missing comparator after '" ++ attr ++ "'"
  | comparatorUnknown found => "unknown comparator '" ++ found ++ "'"
  | valueMissing attr => "missing value for '" ++ attr ++ "'"
  | operatorExpected found => "expected 'and' or 'or', found '" ++ found ++ "'"
  | closingUnbalanced => "unbalanced ')'"
  | closingMissing => "missing ')'"

/-- The token at fault has been taken as part of a restriction. -/
def isTaken : TokenFault → Bool
  | attributeExpected _ | comparatorUnknown _ => true
  | _ => false

/-- The position of a fault that arises after so many tokens. -/
def positionAfter (fault : TokenFault) (count : Nat) : Nat :=
  if fault.isTaken then count + 2 else count + 1

end TokenFault

/-- A fault and its position among the tokens, counted from one. -/
structure TokenError where
  fault : TokenFault
  position : Nat
  deriving DecidableEq, Repr

/-- The wording of an error, with its position. -/
def TokenError.message (e : TokenError) : String :=
  e.fault.message ++ " (at token " ++ Decimal.renderNat e.position ++ ")"

/-- What the next token has to be. -/
inductive Awaiting
  | term (operator : Operator)
  | comparator (operator : Operator) (attr : String)
  | value (operator : Operator) (attr : String) (comparator : Comparator)
  | link
  deriving DecidableEq, Repr

/-- A list in which a group is still open: its clauses before the group, and what joins the group to them. -/
structure OpenList where
  clauses : List Clause
  operator : Operator

/-- What is known after some of the tokens. -/
structure Reading where
  enclosing : List OpenList
  clauses : List Clause
  awaiting : Awaiting

namespace Reading

/-- Nothing has been read, and a first term is awaited. -/
def start : Reading := ⟨[], [], .term .or⟩

/-- A clause of the innermost list has been read. -/
def add (r : Reading) (c : Clause) : Reading := { r with clauses := r.clauses ++ [c], awaiting := .link }

/-- Takes one token. -/
def step (r : Reading) (token : String) : Except TokenFault Reading :=
  match r.awaiting with
  | .term op =>
    if token = Token.opening then .ok ⟨⟨r.clauses, op⟩ :: r.enclosing, [], .term .or⟩
    else if token = Token.closing || (Operator.find token).isSome then .error (.attributeExpected token)
    else .ok { r with awaiting := .comparator op token }
  | .comparator op attr =>
    match Comparator.find token with
    | none => .error (.comparatorUnknown token)
    | some c =>
      if c.isNullCheck then .ok (r.add (.restriction op ⟨attr, c, none⟩))
      else .ok { r with awaiting := .value op attr c }
  | .value op attr c => .ok (r.add (.restriction op ⟨attr, c, some (Value.ofToken attr token)⟩))
  | .link =>
    if token = Token.closing then
      match r.enclosing with
      | [] => .error .closingUnbalanced
      | outer :: enclosing => .ok ⟨enclosing, outer.clauses ++ [.group outer.operator r.clauses], .link⟩
    else
      match Operator.find token with
      | none => .error (.operatorExpected token)
      | some op => .ok { r with awaiting := .term op }

/-- The clauses read when no token is left. -/
def finish (r : Reading) : Except TokenFault (List Clause) :=
  match r.awaiting with
  | .term _ => .error .restrictionExpected
  | .comparator _ attr => .error (.comparatorMissing attr)
  | .value _ attr _ => .error (.valueMissing attr)
  | .link => if r.enclosing.isEmpty then .ok r.clauses else .error .closingMissing

/-- A fault with the position that it has after so many tokens. -/
def located {α : Type} (count : Nat) (result : Except TokenFault α) : Except TokenError α :=
  result.mapError fun fault => ⟨fault, fault.positionAfter count⟩

/-- Takes the tokens that are left, after so many. -/
def takeAll (r : Reading) (count : Nat) : List String → Except TokenError (List Clause)
  | [] => located count r.finish
  | token :: tokens => do
    let r ← located count (r.step token)
    r.takeAll (count + 1) tokens

end Reading

/-- The clauses that tokens write; no tokens write none. -/
def clausesOfTokens : List String → Except TokenError (List Clause)
  | [] => .ok []
  | tokens => Reading.start.takeAll 0 tokens

/-- The clauses that arguments write, parentheses glued to words or not. -/
def clausesOf (args : List String) : Except TokenError (List Clause) :=
  clausesOfTokens (Token.ofArguments args)

end MonitorQuery.Query
