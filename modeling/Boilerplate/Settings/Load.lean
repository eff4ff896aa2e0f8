import Boilerplate.Files.Tree
import Boilerplate.Json.Reader
import Boilerplate.Settings.Basic

namespace Boilerplate.Settings

open Files
open Text (CodePoints)

inductive FileError where
  | notFound (path : Path)
  | notJson (path : Path)
  | malformed (path : Path) (fault : Json.Fault) (place : String)
  | unreadable (path : Path) (fault : OpenFault)
  | notObject (path : Path)
  | notUtf8
  | longInteger
  | tooDeep
  | lookup (fault : OpenFault)

/-- The report of a file error. There is none where the file cannot be looked up, and none where it
cannot be taken for text, holds an integer that is too long or nests values too deep. -/
def FileError.report? : FileError → Option String
  | notFound path => some ("Configuration file not found: " ++ path.text)
  | notJson path => some ("Configuration file must be JSON: " ++ path.text)
  | malformed path fault place =>
    some ("Invalid JSON in configuration file " ++ path.text ++ ": " ++ fault.message ++ ": " ++
      place)
  | unreadable path fault =>
    (fault.report? path).map fun report ↦
      "Failed to load configuration file " ++ path.text ++ ": " ++ report
  | notObject path => some ("Configuration file must contain a JSON object: " ++ path.text)
  | _ => none

inductive LoadError where
  | file (error : FileError)
  | settings (error : SettingsError)

def LoadError.report? (limits : Limits) : LoadError → Option String
  | file error => error.report?
  | settings error => (error.report limits).toOption

def loadFile (limits : Limits) (t : Tree) (p : Path) :
    Except FileError (List (CodePoints × Json)) :=
  match t.exists? p with
  | .error fault => .error (.lookup fault)
  | .ok false => .error (.notFound p)
  | .ok true =>
    if !p.hasSuffix ".json" then .error (.notJson p)
    else
      match t.readText p with
      | .error fault => .error (.unreadable p fault)
      | .ok (.error _) => .error .notUtf8
      | .ok (.ok text) =>
        match Json.read limits text.toList with
        | .error (.malformed fault left) =>
          .error (.malformed p fault (Json.placeText text.toList left))
        | .error .longInteger => .error .longInteger
        | .error .tooDeep => .error .tooDeep
        | .ok (.object members) => .ok members
        | .ok _ => .error (.notObject p)

/-- The layers from the lowest to the topmost one: defaults, a file if its name is not empty, and
what is asked for in particular. Also gives what is logged. -/
def load (limits : Limits) (t : Tree) (defaults : List (CodePoints × Json)) (file : String)
    (custom : List (CodePoints × Json)) : Except LoadError Settings × List Log.Record :=
  let finish (layers : List (List (CodePoints × Json))) (logged : List Log.Record) :=
    let merged := merge layers
    ((ofMerged merged).mapError LoadError.settings, logged ++ records merged)
  if file = "" then finish [defaults, custom] []
  else
    let path := Path.ofString file
    match loadFile limits t path with
    | .error e => (.error (.file e), [])
    | .ok members =>
      finish [defaults, members, custom]
        [configRecord .debug ("Loaded configuration file " ++ path.text)]

end Boilerplate.Settings
