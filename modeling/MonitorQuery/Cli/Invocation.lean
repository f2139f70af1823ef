import MonitorQuery.Cli.Arguments

/-!
What a command line asks for.

There are four commands. `Invocation.ofArguments` finds the command and its options, checks that nothing needed is
missing and nothing contradicts, and gives an invocation or a reason to stop.
-/

namespace MonitorQuery.Cli

/-- The options of the command that saves settings. -/
structure InitOptions where
  url : Option String
  version : String
  line : Option String
  username : Option String
  limit : Option Nat
  deriving DecidableEq, Repr

/-- The options of the command that compiles a filter, and its tokens. -/
structure CompileOptions where
  api : Option String
  limit : Option Nat
  noLimit : Bool
  sortKeys : List String
  order : String
  properties : Option String
  format : String
  tokens : List String
  deriving DecidableEq, Repr

/-- What a command line asks for. -/
inductive Invocation
  /-- Save settings. -/
  | init (options : InitOptions)
  /-- Show the settings and what the server can do. -/
  | showSettings
  /-- Compile a filter and print its parameters. -/
  | compile (options : CompileOptions)
  /-- List the properties in a file, all or those of one attribute. -/
  | listProperties (file : String) (attr : Option String)
  deriving DecidableEq, Repr

namespace Invocation

/-- The option that asks for help. -/
def helpFlag : Flag := ⟨"help", some 'h', .help⟩

/-- The grammar of the command that saves settings. -/
def initGrammar : Grammar :=
  ⟨[⟨"url", some 'u', .text⟩, ⟨"server-version", some 's', .text⟩, ⟨"type", some 't', .text⟩,
    ⟨"username", none, .text⟩, ⟨"limit", some 'l', .number⟩, helpFlag], .none⟩

/-- The grammar of the command that shows settings. -/
def showGrammar : Grammar := ⟨[helpFlag], .none⟩

/-- The grammar of the command that compiles a filter. -/
def compileGrammar : Grammar :=
  ⟨[⟨"api", some 'a', .text⟩, ⟨"limit", some 'l', .number⟩, ⟨"no-limit", none, .switch⟩,
    ⟨"order-by", some 'o', .texts⟩, ⟨"order", none, .text⟩, ⟨"properties", some 'p', .text⟩,
    ⟨"format", some 'f', .text⟩, helpFlag], .toEnd⟩

/-- The grammar of the command that lists properties. -/
def listGrammar : Grammar := ⟨[⟨"attribute", some 'a', .text⟩, helpFlag], .one⟩

/-- The grammar in front of a command. -/
def programGrammar : Grammar := ⟨[helpFlag, ⟨"version", some 'V', .version⟩], .none⟩

/-- The names of the commands. -/
def commandNames : List String := ["init", "config", "compile", "c", "properties", "help"]

/-- The invocation that saves settings. A version is needed. -/
def ofInit (f : Found) : Except Stop Invocation :=
  match f.value? "server-version" with
  | none => .error .misuse
  | some version =>
    .ok (.init ⟨f.value? "url", version, f.value? "type", f.value? "username", f.number? "limit"⟩)

/-- The invocation that compiles a filter. It has a limit or none. -/
def ofCompile (f : Found) : Except Stop Invocation :=
  if f.has "limit" && f.has "no-limit" then .error .misuse
  else
    .ok (.compile
      { api := f.value? "api"
        limit := f.number? "limit"
        noLimit := f.has "no-limit"
        sortKeys := f.valuesOf "order-by"
        order := (f.value? "order").getD "asc"
        properties := f.value? "properties"
        format := (f.value? "format").getD "query"
        tokens := f.words })

/-- The invocation that lists properties. A file is needed. -/
def ofList (f : Found) : Except Stop Invocation :=
  match f.words with
  | file :: _ => .ok (.listProperties file (f.value? "attribute"))
  | [] => .error .misuse

/-- What the arguments behind the name of a command ask for. -/
def ofCommand (name : String) (args : List String) : Except Stop Invocation :=
  if name = "init" then (scan initGrammar {} args).bind ofInit
  else if name = "config" then (scan showGrammar {} args).map fun _ => .showSettings
  else if name = "compile" || name = "c" then (scan compileGrammar {} args).bind ofCompile
  else if name = "properties" then (scan listGrammar {} args).bind ofList
  else if args.length ≤ 1 && args.all commandNames.contains then .error .help
  else .error .misuse

/-- What a command line asks for. -/
def ofArguments : List String → Except Stop Invocation
  | [] => .error .misuse
  | arg :: args =>
    if commandNames.contains arg then ofCommand arg args
    else
      match scan programGrammar {} (arg :: args) with
      | .error stop => .error stop
      | .ok _ => .error .misuse

end Invocation

end MonitorQuery.Cli
