import Stencil.Command.Run

/-!
# The command line

`Command.run` decides what a run does; what is here only brings it the files and the standard input
and hands on what it leaves. A run knows the files that were explored for it. Which partials a
template needs shows while it is rendered, so a run that misses template files which are there is
made again with them.
-/

namespace Stencil.Main

open Stencil.Command

/-- An account of the usage. -/
def usage : String :=
  "usage: mustache [-h] [-d DATA] [-p PARTIALS] [-e EXT] [-o OUTPUT]\n" ++
  "                [--data-out DATA_OUT] [-v] [FILE ...]\n\n" ++
  "Render Mustache templates, taking data from YAML front matter or data files.\n\n" ++
  "  FILE                  template files, joined in order ('-' or none: standard input)\n" ++
  "  -h, --help            show this account and stop\n" ++
  "  -d, --data DATA       YAML or JSON data file (repeatable; front matter counts more)\n" ++
  "  -p, --partials DIR    directory of the partials\n" ++
  "  -e, --ext EXT         file extension of the partials\n" ++
  "  -o, --output FILE     write the output to this file\n" ++
  "  --data-out FILE       write the merged data to this file as JSON\n" ++
  "  -v, --verbose         more logging (-v progress, -vv everything)\n"

/-- The tree with what the file system has at a path and on the way to it. -/
def explore (tree : FileTree) (path : Path) : IO FileTree := do
  let here ← IO.currentDir
  (List.range path.components.length).foldlM (fun tree count => do
    let part : Path := { path with components := path.components.take (count + 1) }
    let file := here / part.text.toString
    match tree.locate part with
    | .error _ => return tree
    | .ok place =>
      if (tree.entryAt? place).isSome then return tree
      else if ← file.isDir then return tree.add place .directory
      else if ← file.pathExists then return tree.add place (.file (← IO.FS.readBinFile file))
      else return tree) tree

/-- The paths that options name. -/
def namedPaths (options : Options) : List Path :=
  (options.files.filter (· ≠ Text.of "-") ++ options.dataFiles.filterMap id ++
    [options.output, options.dataOutput]).map Path.ofText

/-- The template files that a run missed. -/
def missedPaths (outcome : Outcome) : List Path :=
  outcome.log.filterMap fun
    | .fileMissing path => some (Path.ofText path)
    | _ => none

/-- What a stream still holds. -/
partial def readAll (stream : IO.FS.Stream) (taken : ByteArray) : IO ByteArray := do
  let piece ← stream.read 65536
  if piece.isEmpty then return taken else readAll stream (taken ++ piece)

/-- Runs the command with all template files that it needs and that are there. The second component
holds the files as they were before. -/
partial def runExplored (invocation : Invocation) : IO (Outcome × FileTree) := do
  let missed := missedPaths (run { invocation with debugging := true })
  let files ← missed.foldlM explore invocation.files
  if files.entries.length = invocation.files.entries.length then
    return (run invocation, invocation.files)
  else runExplored { invocation with files := files }

/-- Writes the files of a tree that differ from those of another one. -/
def writeChanges (before after : FileTree) : IO Unit := do
  let here ← IO.currentDir
  for (place, entry) in after.entries do
    let file := here / place.path.text.toString
    match entry, before.entries.lookup place with
    | .directory, _ | .sink, _ => pure ()
    | .file content, some (.file old) =>
      if content != old then IO.FS.writeBinFile file content
    | .file content, _ => IO.FS.writeBinFile file content

/-- A failure that ends a run at once, in words. -/
def escapeText : Escape → Text
  | .unusable error => error.message
  | .nameless => Text.of "a data file has no name"
  | .undecodable => Text.of "a file is not UTF-8"
  | .unencodable => Text.of "a text has a surrogate that cannot be written"
  | .outOfRange _ => Text.of "a number, a date or a character in the data is out of range"
  | .unwritableKey => Text.of "the data have a key that cannot be written"
  | .rendering failure => failure.message?.getD (Text.of "the data do not fit the template")

/-- Shows how a run ended, and gives its exit code. -/
def finish (outcome : Outcome) : IO UInt32 := do
  IO.eprint (outcome.standardError.toString)
  IO.print (outcome.standardOutput.toString)
  match outcome.ending with
  | .success _ => return 0
  | .failure _ => return 1
  | .idle | .help => IO.print usage; return 0
  | .misuse => IO.eprint usage; return 2
  | .escape failure => IO.eprintln (escapeText failure).toString; return 1

/-- Runs the command with these arguments, and gives its exit code. -/
def execute (arguments : List String) : IO UInt32 := do
  let arguments := arguments.map Text.of
  let stdin ← IO.getStdin
  let atTerminal ← stdin.isTty
  let (paths, readsInput) := match Options.ofArguments arguments with
    | .ok options =>
      (namedPaths options, .of "-" ∈ options.files || (options.files.isEmpty && !atTerminal))
    | .error _ => ([], false)
  let octets ← if readsInput then readAll stdin .empty else pure .empty
  let some input := String.fromUTF8? octets
    | IO.eprintln "the standard input is not UTF-8"; return 1
  let (outcome, before) ← runExplored
    { arguments := arguments
      files := ← paths.foldlM explore .bare
      input := .of input
      atTerminal := atTerminal
      debugging := ((← IO.getEnv "MUSTACHE_DEBUG").getD "") ≠ "" }
  writeChanges before outcome.files
  finish outcome

end Stencil.Main

/-- The program. -/
def main (arguments : List String) : IO UInt32 :=
  Stencil.Main.execute arguments
