/-
The command line, as a function of its arguments and of the files it can read: a
configuration file, a template id and an optional context file in, the rendered tree as
indented JSON out, or a report of why the id could not be rendered. Reading the files is left
to the caller, so what the command prints is decided here without any input or output.
-/
import Stencil.Config
import Stencil.Json.Read
import Stencil.Json.Encode
namespace Stencil.Cli

/-- What a run of the command prints and how it ends. -/
structure Outcome where
  exitCode : Nat
  /-- everything printed to standard output -/
  stdout : String
  /-- the lines printed to standard error -/
  stderr : List String
deriving Repr

/-- The help printed when an argument is missing. -/
def usage : List String :=
  [ "Usage: template-render <config.yaml> <templateId> [context.json]",
    "",
    "Examples:",
    "  template-render screens.yaml /index",
    "  template-render screens.yaml /profile user.json" ]

/-- The explanation of a file that does not exist. -/
def missingFile : String := "No such file or directory (os error 2)"

/-- The explanation of a path that names a directory. -/
def directoryFile : String := "Is a directory (os error 21)"

/-- The lines reporting why an id could not be rendered. -/
def errorLines (id : String) (e : Error) : List String :=
  ("✗ " ++ id ++ " could not be rendered:") ::
    match e with
    | .templateMarkup tid f => ["  Markup error in template \x27" ++ tid ++ "\x27:", "    " ++ f.message]
    | .unresolved tid => ["  Template \x27" ++ tid ++ "\x27 not found and no default template configured"]
    | .config d => ["  Configuration error:", "    " ++ d]
    | .io d => ["  Failed to read file:", "    " ++ d]
    | e => ["  " ++ e.message]

/-- The context of a JSON text: the entries of an object, nothing for any other value. -/
def contextOf (text : String) : Except Error Context :=
  match Json.parse text with
  | .ok j => .ok (Context.ofValue (Value.ofJson j))
  | .error e => .error (.config e)

/-- The indented JSON of the tree an id renders to, with the configuration and context read
through `read`, which gives a file's text or the explanation of why it cannot be read. -/
def render (read : String → Except String String) (configPath id : String)
    (contextPath : Option String) : Except Error String := do
  let text ← (read configPath).mapError .io
  let config ← EngineConfig.ofYaml text
  let engine := Engine.ofConfig config
  let ctx ← match contextPath with
    | some p => do contextOf (← (read p).mapError .io)
    | none => pure Context.empty
  let out ← (engine.render id ctx).1
  pure (Json.pretty 0 (.arr (Rendered.listToJson keyText out)))

/-- A run with these arguments, the command's name not among them. -/
def run (args : List String) (read : String → Except String String) : Outcome :=
  match args with
  | configPath :: id :: rest =>
    match render read configPath id rest.head? with
    | .ok json => ⟨0, json ++ "\n", []⟩
    | .error e => ⟨1, "", errorLines id e⟩
  | _ => ⟨1, "", usage⟩

end Stencil.Cli
