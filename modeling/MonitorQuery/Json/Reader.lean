import MonitorQuery.Json.Lexeme

/-!
Reading a JSON value from its lexemes.

`Progress` is what is known after some of the lexemes: the containers that are open, innermost first, and what the
next lexeme has to be. At most 127 containers may be open at a time. A broken lexeme shows its own fault only
where a lexeme of its sort may stand; elsewhere it is as misplaced as any other.
-/

namespace MonitorQuery.Json

/-- A container that is not closed yet, with what has been read of it. -/
inductive Frame
  | array (items : List Value)
  | object (members : List (String × Value)) (name : String)

/-- What the next lexeme has to be. -/
inductive Awaiting
  /-- A value. -/
  | value
  /-- A first item, or the end of the array. -/
  | firstItem
  /-- A first name, or the end of the object. -/
  | firstName
  /-- A name of an object with these members. -/
  | name (members : List (String × Value))
  /-- The colon behind a name of an object with these members. -/
  | colon (members : List (String × Value)) (name : String)
  /-- What separates this value from the next, or ends the container. -/
  | separator (v : Value)

/-- What is known after some of the lexemes. -/
structure Progress where
  frames : List Frame
  awaiting : Awaiting

namespace Progress

/-- The greatest number of containers that may be open at a time. -/
def greatestDepth : Nat := 127

/-- Nothing has been read. -/
def start : Progress := ⟨[], .value⟩

/-- Opens a container if one more may be open. -/
def opened (frames : List Frame) (awaiting : Awaiting) : Except Fault Progress :=
  if frames.length < greatestDepth then .ok ⟨frames, awaiting⟩ else .error .malformed

/-- Takes a lexeme where a value may stand. -/
def takeValue (frames : List Frame) : Lexeme → Except Fault Progress
  | .openArray => opened frames .firstItem
  | .openObject => opened frames .firstName
  | .string s => .ok ⟨frames, .separator (.string s)⟩
  | .scalar v => .ok ⟨frames, .separator v⟩
  | .broken _ fault => .error fault
  | _ => .error .malformed

/-- Takes a lexeme where a name may stand. -/
def takeName (frames : List Frame) (members : List (String × Value)) : Lexeme → Except Fault Progress
  | .string s => .ok ⟨frames, .colon members s⟩
  | .broken true fault => .error fault
  | _ => .error .malformed

/-- Takes a lexeme behind a value. -/
def takeSeparator (frames : List Frame) (v : Value) (lexeme : Lexeme) : Except Fault Progress :=
  match frames, lexeme with
  | .array items :: outer, .comma => .ok ⟨.array (items ++ [v]) :: outer, .value⟩
  | .array items :: outer, .closeArray => .ok ⟨outer, .separator (.array (items ++ [v]))⟩
  | .object members name :: outer, .comma => .ok ⟨outer, .name (members ++ [(name, v)])⟩
  | .object members name :: outer, .closeObject => .ok ⟨outer, .separator (.object (members ++ [(name, v)]))⟩
  | _, _ => .error .malformed

/-- Takes one lexeme. -/
def step (p : Progress) (lexeme : Lexeme) : Except Fault Progress :=
  match p.awaiting, lexeme with
  | .firstItem, .closeArray => .ok ⟨p.frames, .separator (.array [])⟩
  | .firstItem, lexeme => takeValue (.array [] :: p.frames) lexeme
  | .firstName, .closeObject => .ok ⟨p.frames, .separator (.object [])⟩
  | .firstName, lexeme => takeName p.frames [] lexeme
  | .name members, lexeme => takeName p.frames members lexeme
  | .colon members name, .colon => .ok ⟨.object members name :: p.frames, .value⟩
  | .colon _ _, _ => .error .malformed
  | .value, lexeme => takeValue p.frames lexeme
  | .separator v, lexeme => takeSeparator p.frames v lexeme

/-- The value that has been read, once no container is open behind it. -/
def value? (p : Progress) : Option Value :=
  match p.frames, p.awaiting with
  | [], .separator v => some v
  | _, _ => none

/-- Takes lexemes until a value has been read, and returns it with the lexemes that are left. -/
def takeUntilValue (p : Progress) (lexemes : List Lexeme) : Except Fault (Value × List Lexeme) :=
  match p.value?, lexemes with
  | some v, lexemes => .ok (v, lexemes)
  | none, [] => .error .ended
  | none, lexeme :: lexemes => do
    let p ← p.step lexeme
    p.takeUntilValue lexemes

end Progress

namespace Value

/-- Reads the value at the front of a text, and whether it is all that the text holds. -/
def leading (s : String) : Except Fault (Value × Bool) := do
  let (v, lexemes) ← Progress.start.takeUntilValue (Lexeme.all s.toList)
  .ok (v, lexemes.isEmpty)

/-- Reads the value that a text writes. -/
def ofText (s : String) : Except Fault Value := do
  let (v, alone) ← leading s
  if alone then .ok v else .error .malformed

end Value

end MonitorQuery.Json
