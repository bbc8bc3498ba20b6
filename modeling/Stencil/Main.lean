/-
The command line program: reads the files its arguments name, renders, prints what the run
decides and exits with its code.
-/
import Stencil.Cli

/-- How the system explains a failed read, by error number. -/
def osExplanation (code : UInt32) : String :=
  let text := match code with
    | 1 => "Operation not permitted"
    | 2 => "No such file or directory"
    | 13 => "Permission denied"
    | 20 => "Not a directory"
    | 21 => "Is a directory"
    | 36 => "File name too long"
    | 40 => "Too many levels of symbolic links"
    | _ => "Unknown error " ++ toString code
  text ++ " (os error " ++ toString code ++ ")"

/-- The explanation of a read that failed. -/
def readFailure (e : IO.Error) : String :=
  match e with
  | .noFileOrDirectory _ code _ => osExplanation code
  | .permissionDenied _ code _ => osExplanation code
  | .inappropriateType _ code _ => osExplanation code
  | .otherError code _ => osExplanation code
  | .invalidArgument _ code _ => osExplanation code
  | .noSuchThing _ code _ => osExplanation code
  | _ => "stream did not contain valid UTF-8"

/-- The content of a file, or the explanation of why it cannot be read. -/
def readFileText (path : String) : IO (Except String String) := do
  try
    let text ← IO.FS.readFile path
    pure (.ok text)
  catch e =>
    pure (.error (readFailure e))

/-- Renders the template the arguments name and prints the result or the reason it failed. -/
def main (args : List String) : IO UInt32 := do
  let paths := args.take 1 ++ (args.drop 2).take 1
  let files ← paths.mapM fun p => do
    let text ← readFileText p
    pure (p, text)
  let outcome := Stencil.Cli.run args fun p =>
    (files.lookup p).getD (.error Stencil.Cli.missingFile)
  IO.print outcome.stdout
  for line in outcome.stderr do
    IO.eprintln line
  pure outcome.exitCode.toUInt32
