import Boilerplate.Json.Display
import Boilerplate.Log
import Boilerplate.Naming
import Boilerplate.TypeKind

namespace Boilerplate

open Text (CodePoints)

/-- The switches hold any value and count by its truth. -/
structure Settings where
  naming : Naming
  hashMultiplier : Int
  getters : Json
  setters : Json
  copyConstructor : Json
  equalsHash : Json
  indentSize : Int
  comments : Json
  immutables : List CodePoints

inductive Complaint where
  | variablePrefix (value : Json)
  | booleanPrefix (value : Json)
  | hashMultiplier (value : Json)
  | indentSize (value : Json)
  | immutables

def Complaint.message (limits : Limits) : Complaint → Except Json.DisplayFault String
  | variablePrefix value => (value.display limits).map ("var_prefix must be a string: " ++ ·)
  | booleanPrefix value =>
    (value.display limits).map fun text ↦
      "Invalid boolean_prefix: " ++ text ++ " (expected one of: is, get)"
  | hashMultiplier value =>
    (value.display limits).map ("hash_multiplier must be a positive integer: " ++ ·)
  | indentSize value =>
    (value.display limits).map ("indent_size must be a positive integer: " ++ ·)
  | immutables => .ok "immutable_types must be a list of type names"

inductive SettingsError where
  | invalid (complaints : List Complaint)
  /-- The immutable types are null, which no check accounts for. The complaints come first. -/
  | nullImmutables (complaints : List Complaint)

inductive ReportFault where
  | display (fault : Json.DisplayFault)
  | nullImmutables
  deriving DecidableEq, Repr

/-- The report of an error. All complaints are put into words before they are put together. -/
def SettingsError.report (limits : Limits) : SettingsError → Except ReportFault String
  | invalid complaints =>
    ((complaints.mapM (Complaint.message limits)).mapError .display).map ("; ".intercalate ·)
  | nullImmutables complaints =>
    ((complaints.mapM (Complaint.message limits)).mapError .display).bind fun _ ↦
      .error .nullImmutables

namespace Settings

def builtIn : List (CodePoints × Json) :=
  [("var_prefix", .string ""), ("boolean_prefix", .string "is"), ("hash_multiplier", .integer 31),
    ("getters", .bool false), ("setters", .bool false), ("copy_constructor", .bool false),
    ("equals_hash", .bool false), ("indent_size", .integer 4), ("add_comments", .bool true),
    ("immutable_types", .array (TypeKind.defaultImmutables.map fun name ↦ .string (.ofString name)))]

def default : Settings where
  naming := .default
  hashMultiplier := 31
  getters := .bool false
  setters := .bool false
  copyConstructor := .bool false
  equalsHash := .bool false
  indentSize := 4
  comments := .bool true
  immutables := TypeKind.defaultImmutables.map CodePoints.ofString

/-- The types that the names of immutable ones name. No type has a surrogate in its name. -/
def immutableTypes (s : Settings) : List String := s.immutables.filterMap CodePoints.string?

def anyEnabled (s : Settings) : Bool :=
  s.getters.isTruthy || s.setters.isTruthy || s.copyConstructor.isTruthy || s.equalsHash.isTruthy

def merge (layers : List (List (CodePoints × Json))) : List (CodePoints × Json) :=
  layers.foldl Json.overlay builtIn

def unknownKeys (merged : List (CodePoints × Json)) : List CodePoints :=
  (merged.map (·.1)).filter (· ∉ builtIn.map (·.1))

def configRecord (level : Log.Level) (message : CodePoints) : Log.Record :=
  ⟨level, "barista.codegen.core.config", message⟩

def records (merged : List (CodePoints × Json)) : List Log.Record :=
  (unknownKeys merged).map fun key ↦
    configRecord .warning (.ofString "Ignoring unknown configuration key: " ++ key)

def positive? (value : Json) : Option Int := value.integer?.filter (0 < ·)

def booleanPrefix? (value : Json) : Option String :=
  ["is", "get"].find? fun word ↦ value.string? == some (.ofString word)

def complaintUnless {α : Type} (check : Option α) (complaint : Complaint) : List Complaint :=
  match check with
  | some _ => []
  | none => [complaint]

def ofMerged (merged : List (CodePoints × Json)) : Except SettingsError Settings :=
  let value (key : CodePoints) := (Json.member? key merged).getD .null
  let variablePrefix := (value "var_prefix").string?
  let booleanPrefix := booleanPrefix? (value "boolean_prefix")
  let multiplier := positive? (value "hash_multiplier")
  let indent := positive? (value "indent_size")
  let complaints :=
    complaintUnless variablePrefix (.variablePrefix (value "var_prefix")) ++
      complaintUnless booleanPrefix (.booleanPrefix (value "boolean_prefix")) ++
      complaintUnless multiplier (.hashMultiplier (value "hash_multiplier")) ++
      complaintUnless indent (.indentSize (value "indent_size"))
  match value "immutable_types" with
  | .null => .error (.nullImmutables complaints)
  | .array types =>
    match variablePrefix, booleanPrefix, multiplier, indent, types.mapM Json.string? with
    | some variablePrefix, some booleanPrefix, some multiplier, some indent, some immutables =>
      .ok {
        naming := ⟨variablePrefix, booleanPrefix⟩
        hashMultiplier := multiplier
        getters := value "getters"
        setters := value "setters"
        copyConstructor := value "copy_constructor"
        equalsHash := value "equals_hash"
        indentSize := indent
        comments := value "add_comments"
        immutables := immutables }
    | _, _, _, _, immutables =>
      .error (.invalid (complaints ++ complaintUnless immutables .immutables))
  | _ => .error (.invalid [.immutables])

end Settings

end Boilerplate
