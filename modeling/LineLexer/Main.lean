import LineLexer.CommandLine.Basic

/-!
**The program.**

Reads the files that the arguments name, and prints what the command line comes to.
-/

namespace LineLexer.CommandLine

/-- What the file at a path holds. -/
def readFile (path : String) : IO (Except ReadFault String) := do
  try
    let bytes ← IO.FS.readBinFile path
    match String.fromUTF8? bytes with
    | some text => pure (.ok text)
    | none => pure (.error .notText)
  catch
    | .noFileOrDirectory .. => pure (.error .missing)
    | fault => pure (.error (.other (toString fault)))

/-- What the files at some paths hold. -/
def readFiles : List String → IO (List (String × Except ReadFault String))
  | [] => pure []
  | path :: rest => do
    let content ← readFile path
    let others ← readFiles rest
    pure ((path, content) :: others)

end LineLexer.CommandLine

open LineLexer CommandLine in
/-- Runs the command. -/
def main (words : List String) : IO UInt32 := do
  let paths := ((Arguments.read? words).map fun arguments =>
    [arguments.grammar, arguments.input]).getD []
  let files ← readFiles paths
  let result := CommandLine.run (fun path => (files.lookup path).getD (.error .missing)) words
  (← IO.getStdout).putStr result.output
  (← IO.getStderr).putStr result.errors
  pure result.code.toUInt32
