import MonitorQuery.Decimal.Integer

/-!
The arguments of a command line, sorted into options and words.

A command has options, each with a long name and perhaps a letter, and takes no words, one word, or words to the end
(`Words`). Where it takes words to the end, the first argument that is no known option begins them, everything
behind it is a word, and an unknown option is a word too, or the value of an option that waits for one. `scan` takes
the arguments one after the other and stops at the first that asks for help or is misused.
-/

namespace MonitorQuery.Cli

/-- What an option does. -/
inductive Effect
  /-- It is present or absent. -/
  | switch
  /-- It has a text. -/
  | text
  /-- It has a number of 32 bits. -/
  | number
  /-- It has a text each time it is given, and may be given more than once. -/
  | texts
  /-- It asks for help. -/
  | help
  /-- It asks for the version of the program. -/
  | version
  deriving DecidableEq, Repr

/-- An option of a command. -/
structure Flag where
  long : String
  short : Option Char
  effect : Effect
  deriving DecidableEq, Repr

namespace Flag

/-- The option waits for a value. -/
def takesValue (f : Flag) : Bool :=
  match f.effect with
  | .text | .number | .texts => true
  | _ => false

/-- The value suits the option. -/
def accepts (f : Flag) (value : String) : Bool :=
  f.effect != .number || (Decimal.integerIn? .unsigned32 value.toList).isSome

end Flag

/-- How many words a command takes. -/
inductive Words
  | none | one | toEnd
  deriving DecidableEq, Repr

/-- What a command understands. -/
structure Grammar where
  flags : List Flag
  words : Words

namespace Grammar

/-- The option with a long name. -/
def withLong (g : Grammar) (name : String) : Option Flag := g.flags.find? fun f => f.long == name

/-- The option with a letter. -/
def withShort (g : Grammar) (letter : Char) : Option Flag := g.flags.find? fun f => f.short == some letter

end Grammar

/-- Why the arguments name nothing to run. -/
inductive Stop
  | misuse | help | version
  deriving DecidableEq, Repr

/-- What has been found among the arguments so far: the options with their values, the words, and an option that waits
for its value. -/
structure Found where
  options : List (Flag × String) := []
  words : List String := []
  waiting : Option Flag := none

namespace Found

/-- The values of an option, in order. -/
def valuesOf (f : Found) (long : String) : List String :=
  (f.options.filter fun o => o.1.long == long).map (·.2)

/-- The value of an option. -/
def value? (f : Found) (long : String) : Option String := (f.valuesOf long).head?

/-- The number that is the value of an option. -/
def number? (f : Found) (long : String) : Option Nat :=
  (f.value? long).bind fun s => (Decimal.integerIn? .unsigned32 s.toList).map Int.toNat

/-- The option is given. -/
def has (f : Found) (long : String) : Bool := !(f.valuesOf long).isEmpty

/-- Notes an option with its value, if the value suits it and it may be given here. -/
def note (f : Found) (flag : Flag) (value : String) : Except Stop Found :=
  match flag.effect with
  | .help => .error .help
  | .version => .error .version
  | effect =>
    if !flag.accepts value || (effect != .texts && f.has flag.long) then .error .misuse
    else .ok { f with options := f.options ++ [(flag, value)], waiting := none }

/-- Takes an option, with a value attached to it or not, which no other option may be waiting for. -/
def take (f : Found) (flag : Flag) (attached : Option String) : Except Stop Found :=
  if f.waiting.isSome then .error .misuse
  else
    match flag.takesValue, attached with
    | true, some value => f.note flag value
    | true, none => .ok { f with waiting := some flag }
    | false, some _ => .error .misuse
    | false, none => f.note flag ""

/-- Takes the letters of an argument with a single hyphen. The first that takes a value has the other letters for it,
an equals sign before them aside. -/
def takeLetters (g : Grammar) (f : Found) : List Char → Except Stop Found
  | [] => .ok f
  | letter :: letters =>
    match g.withShort letter with
    | none => .error .misuse
    | some flag =>
      if flag.takesValue then
        match letters with
        | [] => f.take flag none
        | '=' :: value => f.take flag (some (String.ofList value))
        | value => f.take flag (some (String.ofList value))
      else do
        let f ← f.take flag none
        takeLetters g f letters

/-- Takes words with no option among them. -/
def takeWords (g : Grammar) (f : Found) (words : List String) : Except Stop Found :=
  if f.waiting.isSome then .error .misuse
  else
    let words := f.words ++ words
    match g.words with
    | .none => if words.isEmpty then .ok f else .error .misuse
    | .one => if words.length ≤ 1 then .ok { f with words := words } else .error .misuse
    | .toEnd => .ok { f with words := words }

end Found

/-- What an argument is taken for. -/
inductive Shape
  /-- The mark behind which there are only words. -/
  | separator
  /-- An option by its long name, perhaps with a value attached. -/
  | long (flag : Flag) (attached : Option String)
  /-- Options by their letters. -/
  | short (letters : List Char)
  /-- Something that looks like an option and is none. -/
  | unknown
  /-- A value or a word. -/
  | word

/-- The name and the attached value of an argument behind its two hyphens. -/
def splitAttached (cs : List Char) : String × Option String :=
  let name := String.ofList (cs.takeWhile (· != '='))
  match cs.dropWhile (· != '=') with
  | [] => (name, none)
  | _ :: value => (name, some (String.ofList value))

/-- What a command takes an argument for. Where words may look like options, letters that are not all known are
none. -/
def Grammar.shapeOf (g : Grammar) (arg : String) : Shape :=
  match arg.toList with
  | ['-', '-'] => .separator
  | '-' :: '-' :: cs =>
    let (name, attached) := splitAttached cs
    match g.withLong name with
    | some flag => .long flag attached
    | none => if g.words = .toEnd then .word else .unknown
  | '-' :: c :: cs =>
    if g.words = .toEnd && !(c :: cs).all fun c => (g.withShort c).isSome then .word else .short (c :: cs)
  | _ => .word

/-- Sorts the arguments of a command, behind those that have been taken. -/
def scan (g : Grammar) (f : Found) : List String → Except Stop Found
  | [] => f.takeWords g []
  | arg :: args =>
    match g.shapeOf arg with
    | .separator => f.takeWords g args
    | .long flag attached => do
      let f ← f.take flag attached
      scan g f args
    | .short letters => do
      let f ← f.takeLetters g letters
      scan g f args
    | .unknown => .error .misuse
    | .word =>
      match f.waiting with
      | some flag => do
        let f ← f.note flag arg
        scan g f args
      | none =>
        if g.words = .toEnd then f.takeWords g (arg :: args)
        else do
          let f ← f.takeWords g [arg]
          scan g f args

end MonitorQuery.Cli
