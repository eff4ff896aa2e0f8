import Boilerplate.Files.Path
import Boilerplate.Text.CodePoint
import Boilerplate.Text.Lines
import Boilerplate.Text.Quoted
import Boilerplate.Text.Utf8

namespace Boilerplate.Files

/-- The names on the way to a place from the working directory, or from the root, for which a slash
stands at the start. Double points stand at the start only. -/
abbrev Location := List String

structure SystemError where
  number : Nat
  text : String
  namesPath : Bool
  deriving DecidableEq, Repr

namespace SystemError

def permissionDenied : SystemError := ⟨13, "Permission denied", true⟩

def report (path : Path) (e : SystemError) : String :=
  "[Errno " ++ toString e.number ++ "] " ++ e.text ++
    (if e.namesPath then ": " ++ Text.quoted path.text else "")

end SystemError

/-- What the files are kept on. It lets everything be done unless something else is said. -/
structure Storage where
  closed : Location → Bool := fun _ ↦ false
  reading : Location → Option SystemError := fun _ ↦ none
  writing : Location → Option SystemError := fun _ ↦ none
  /-- How many bytes a file can hold, and the error that comes of more. -/
  room : Location → Option (Nat × SystemError) := fun _ ↦ none

namespace Storage

variable (s : Storage) (location : Location)

def taken (before content : List UInt8) : List UInt8 :=
  match s.room location with
  | some (room, _) => content.take (room - before.length)
  | none => content

def overflow? (bytes : Nat) : Option SystemError :=
  (s.room location).bind fun (room, error) ↦ if bytes ≤ room then none else some error

end Storage

structure Tree where
  directories : List Location
  files : List (Location × List UInt8)
  storage : Storage := {}

inductive Place where
  | directory (location : Location)
  | file (location : Location) (content : List UInt8)
  /-- Nothing, in a directory that exists. -/
  | vacant (location : Location)
  | noParent
  /-- The way leads through a file. -/
  | throughFile
  | closed
  | tooLong
  | nullCharacter

inductive OpenFault where
  | system (error : SystemError)
  | nullCharacter
  deriving DecidableEq, Repr

namespace OpenFault

def missing : OpenFault := system ⟨2, "No such file or directory", true⟩

def notDirectory : OpenFault := system ⟨20, "Not a directory", true⟩

def isDirectory : OpenFault := system ⟨21, "Is a directory", true⟩

def closed : OpenFault := system .permissionDenied

def tooLong : OpenFault := system ⟨36, "File name too long", true⟩

def report? (path : Path) : OpenFault → Option String
  | system error => some (error.report path)
  | nullCharacter => none

end OpenFault

inductive WriteFault where
  | opening (fault : OpenFault)
  | encoding
  | filling (error : SystemError)
  deriving DecidableEq, Repr

def maxNameBytes : Nat := 255

def maxPathBytes : Nat := 4095

namespace Tree

variable (t : Tree)

def content? (location : Location) : Option (List UInt8) :=
  (t.files.find? (·.1 == location)).map (·.2)

/-- The root and what leads upwards from the working directory are always there. -/
def isDirectory (location : Location) : Bool :=
  location.all (· == "..") || location == ["/"] || t.directories.contains location

def enter (start : Location) (name : String) : Location :=
  if name = ".." then
    match start.getLast? with
    | none => [".."]
    | some ".." => start ++ [".."]
    | some "/" => start
    | some _ => start.dropLast
  else start ++ [name]

/-- Follows names from a directory. A name is looked at when it is reached. -/
def walk (start : Location) : List String → Place
  | [] => .directory start
  | name :: rest =>
    let next := enter start name
    if t.storage.closed start then .closed
    else if maxNameBytes < name.utf8ByteSize then .tooLong
    else if t.isDirectory next then walk next rest
    else
      match t.content? next, rest with
      | some content, [] => .file next content
      | some _, _ => .throughFile
      | none, [] => .vacant next
      | none, _ => .noParent

def origin (p : Path) : Location := if p.anchor = "" then [] else ["/"]

/-- The path without the double points that take back a name before them, whatever that name
leads to. -/
def normalPath (p : Path) : Path :=
  { p with parts := (p.parts.foldl enter (origin p)).drop (origin p).length }

def locate (p : Path) : Place :=
  if p.text.toList.contains '\x00' then .nullCharacter
  else if maxPathBytes < p.text.utf8ByteSize then .tooLong
  else t.walk (origin p) p.parts

def exists? (p : Path) : Except OpenFault Bool :=
  match t.locate p with
  | .directory _ => .ok true
  | .file _ _ => .ok true
  | .closed => .error .closed
  | .tooLong => .error .tooLong
  | _ => .ok false

def put (location : Location) (content : List UInt8) : Tree :=
  { t with files :=
      if (t.content? location).isSome then
        t.files.map fun file ↦ if file.1 = location then (location, content) else file
      else t.files ++ [(location, content)] }

def openFor (p : Path) : Except OpenFault Location :=
  let opened (location : Location) : Except OpenFault Location :=
    match t.storage.writing location with
    | some error => .error (.system error)
    | none => .ok location
  match t.locate p with
  | .file location _ => opened location
  | .vacant location => opened location
  | .directory _ => .error .isDirectory
  | .noParent => .error .missing
  | .throughFile => .error .notDirectory
  | .closed => .error .closed
  | .tooLong => .error .tooLong
  | .nullCharacter => .error .nullCharacter

def append (location : Location) (content : List UInt8) : Tree :=
  let before := (t.content? location).getD []
  t.put location (before ++ t.storage.taken location before content)

def truncate (location : Location) : Tree := t.put location []

/-- Writes a text anew. Gives the fault, if there is one, and what is left behind: the file is
opened before the text is looked at. -/
def writeText (p : Path) (text : Text.CodePoints) : Option WriteFault × Tree :=
  match t.openFor p with
  | .error fault => (some (.opening fault), t)
  | .ok location =>
    match text.string? with
    | none => (some .encoding, t.truncate location)
    | some s =>
      let bytes := Text.Utf8.encode s
      ((t.storage.overflow? location bytes.length).map .filling,
        (t.truncate location).append location bytes)

def readText (p : Path) : Except OpenFault (Except Text.Utf8.Fault String) :=
  match t.locate p with
  | .file location content =>
    match t.storage.reading location with
    | some error => .error (.system error)
    | none => .ok ((Text.Utf8.decode content).map fun cs ↦ String.ofList (Text.unifyLineEnds cs))
  | .directory location =>
    match t.storage.reading location with
    | some error => .error (.system error)
    | none => .error .isDirectory
  | .throughFile => .error .notDirectory
  | .closed => .error .closed
  | .tooLong => .error .tooLong
  | .nullCharacter => .error .nullCharacter
  | _ => .error .missing

end Tree

end Boilerplate.Files
