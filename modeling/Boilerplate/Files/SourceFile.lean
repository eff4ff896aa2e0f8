import Boilerplate.Files.Tree
import Boilerplate.Log

namespace Boilerplate.Files.SourceFile

inductive LoadError where
  | notFound (path : Path)
  | notRegular (path : Path)
  | notUtf8 (path : Path)
  | unreadable (path : Path) (error : SystemError)
  | lookup (fault : OpenFault)

def notRegularMessage (path : Path) : String := "Not a regular file: " ++ path.text

def notFoundMessage (path : Path) : String := "File not found: " ++ path.text

def unreadableMessage (path : Path) (error : SystemError) : String :=
  "Error reading file " ++ path.text ++ ": " ++ error.report path

def notUtf8Message (path : Path) : String := "File is not valid UTF-8: " ++ path.text

def LoadError.report? : LoadError → Option String
  | notFound path => some (notFoundMessage path)
  | notRegular path => some (notRegularMessage path)
  | notUtf8 path => some (notUtf8Message path)
  | unreadable path error => some (unreadableMessage path error)
  | lookup _ => none

def record (level : Log.Level) (message : String) : Log.Record :=
  ⟨level, "barista.utils", message⟩

def suffixRecords (p : Path) : List Log.Record :=
  if p.hasSuffix ".java" then []
  else [record .warning ("File does not have .java extension: " ++ p.text)]

def recordsBefore (t : Tree) (p : Path) : List Log.Record :=
  record .debug ("Attempting to load Java source from file: " ++ p.text) ::
    match t.locate p with
    | .file _ _ => suffixRecords p
    | _ => []

def load (t : Tree) (p : Path) : Except LoadError String × List Log.Record :=
  match t.locate p with
  | .file location content =>
    match t.storage.reading location with
    | some error => (.error (.unreadable p error), [record .error (unreadableMessage p error)])
    | none =>
      match Text.Utf8.decode content with
      | .error fault =>
        (.error (.notUtf8 p),
          [record .error ("File is not valid UTF-8 " ++ p.text ++ ": " ++ fault.message)])
      | .ok cs =>
        (.ok (String.ofList (Text.unifyLineEnds cs)),
          [record .info ("Successfully loaded Java source from " ++ p.text)])
  | .directory _ => (.error (.notRegular p), [record .error (notRegularMessage p)])
  | .closed => (.error (.lookup .closed), [])
  | .tooLong => (.error (.lookup .tooLong), [])
  | _ => (.error (.notFound p), [record .error (notFoundMessage p)])

end Boilerplate.Files.SourceFile
