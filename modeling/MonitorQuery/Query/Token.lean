import MonitorQuery.Text.Blank

/-!
The tokens of a filter expression.

An argument of the command line may have parentheses glued to it. `Token.ofArgument` trims it, takes every
`(` off its front, and takes off its end as many `)` as the rest has more `)` than `(`. A `)` that answers
a `(` of the same text stays with it, so `f(x)` is one token.
-/

namespace MonitorQuery.Query.Token

/-- The token that opens a group. -/
def opening : String := "("

/-- The token that closes a group. -/
def closing : String := ")"

/-- How many parentheses at the end of a text close something outside it. -/
def closers (cs : List Char) : Nat :=
  min (cs.count ')' - cs.count '(') (cs.reverse.takeWhile (· == ')')).length

/-- The tokens of the characters behind the opening parentheses of an argument. -/
def ofRest (cs : List Char) : List String :=
  let n := closers cs
  let word := cs.take (cs.length - n)
  (if word.isEmpty then [] else [String.ofList word]) ++ List.replicate n closing

/-- The tokens of one argument. -/
def ofArgument (arg : String) : List String :=
  let cs := Text.trimChars arg.toList
  List.replicate (cs.takeWhile (· == '(')).length opening ++ ofRest (cs.dropWhile (· == '('))

/-- The tokens of a list of arguments. -/
def ofArguments (args : List String) : List String := args.flatMap ofArgument

end MonitorQuery.Query.Token
