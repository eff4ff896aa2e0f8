import Std.Time.Format
import Boilerplate.CommandLine.Run

namespace Boilerplate

open CommandLine Files

def locationText (l : Location) : String :=
  match l with
  | [] => "."
  | "/" :: names => "/" ++ "/".intercalate names
  | names => "/".intercalate names

def locationsOn (p : Path) : List Location :=
  (p.parts.foldl (fun (passed, here) name ↦
    (Tree.enter here name :: passed, Tree.enter here name)) ([], Tree.origin p)).1.reverse

def namedPaths (o : Options) : List Path :=
  (o.logFile.toOption.map (Tree.normalPath ∘ Path.ofString)).toList ++
    ([o.file, o.config, o.output].filterMap Value.toOption).map Path.ofString

def look (t : Tree) (l : Location) : IO Tree := do
  if t.isDirectory l || (t.content? l).isSome then return t
  try
    let content ← IO.FS.readBinFile (locationText l)
    return { t with files := t.files ++ [(l, content.toList)] }
  catch
    | .inappropriateType .. => return { t with directories := t.directories ++ [l] }
    | .permissionDenied .. =>
      let reading (l' : Location) :=
        if l' = l then some .permissionDenied else t.storage.reading l'
      return { t with files := t.files ++ [(l, [])], storage := { t.storage with reading } }
    | _ => return t

def lookAt (paths : List Path) : IO Tree :=
  (paths.flatMap locationsOn).foldlM look { directories := [], files := [] }

def escaped (ps : Text.CodePoints) : String :=
  String.ofList (ps.flatMap fun n ↦
    if Text.isSurrogate n then Text.escapeUnit n else [Char.ofNat n])

def currentTime : IO String := do
  let now ← Std.Time.PlainDateTime.now
  return now.format "yyyy-MM-dd HH:mm:ss"

def describe : Crash → String
  | .logFile (.system error) => "the log file cannot be opened: " ++ error.text
  | .logFile .nullCharacter => "the log file has no usable name"
  | .output _ => "the output has no usable name"
  | .encoding _ => "the code cannot be encoded"
  | .noFileName => "the source file has no name"
  | .sourceFile _ => "the source file cannot be looked up"
  | .settings _ => "the settings cannot be read"
  | .source _ => "the source cannot be read"
  | .field e => e.message

def save (before after : Tree) : IO Unit :=
  after.files.forM fun (l, content) ↦ do
    if before.content? l ≠ some content then
      IO.FS.writeBinFile (locationText l) ⟨content.toArray⟩

end Boilerplate

open Boilerplate in
def main (arguments : List String) : IO UInt32 := do
  let paths :=
    match CommandLine.parse .usual arguments with
    | .ok o => namedPaths o
    | .error _ => []
  let tree ← lookAt paths
  match CommandLine.run .usual arguments (← currentTime) tree with
  | .ok outcome =>
    save tree outcome.workspace.tree
    IO.print outcome.output
    IO.eprint (escaped outcome.diagnostics)
    return outcome.exitCode.toUInt32
  | .error crash =>
    if let .encoding left := crash then save tree left.tree
    IO.eprintln (describe crash)
    return 1
