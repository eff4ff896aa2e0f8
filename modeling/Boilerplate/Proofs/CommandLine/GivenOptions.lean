import Boilerplate.CommandLine.Options
import Boilerplate.Proofs.Json.Members

namespace Boilerplate.CommandLine

open Json
open Text (CodePoints)

def Key.setting? : Key → Option CodePoints
  | variablePrefix => some "var_prefix"
  | booleanPrefix => some "boolean_prefix"
  | multiplier => some "hash_multiplier"
  | indent => some "indent_size"
  | noComments => some "add_comments"
  | getters => some "getters"
  | setters => some "setters"
  | copyConstructor => some "copy_constructor"
  | equals => some "equals_hash"
  | _ => none

def Key.ofSetting? (name : CodePoints) : Option Key := all.find? (·.setting? == some name)

theorem Key.ofSetting?_eq_some_iff {name : CodePoints} {key : Key} :
    ofSetting? name = some key ↔ key.setting? = some name := by
  constructor
  · intro h
    simpa using List.find?_some h
  · intro h
    cases key
    all_goals
      cases h
    all_goals rfl

/-- The value that an option gives to its setting with the text of its value, if the text has a
meaning. An empty list stands for a value that is taken away. -/
def Key.value? (host : Host) (text : List Char) : Key → Option Json :=
  let unlessTakenAway (value? : Option Json) :=
    if Value.isTakenAway host.edition text then some (.array []) else value?
  fun
  | variablePrefix => unlessTakenAway (some (.string (String.ofList text)))
  | booleanPrefix => unlessTakenAway ((booleanPrefix? text).map fun s : String ↦ .string s)
  | multiplier | indent => unlessTakenAway ((Text.decimal? host.toLimits text).map .integer)
  | noComments => some (.bool false)
  | getters | setters | copyConstructor | equals => some (.bool true)
  | _ => none

/-- The options that arguments give, in order, each with the text of its value. -/
def givenOptions (edition : Edition) : List Argument → List (Key × List Char)
  | [] => []
  | .plain _ :: rest => givenOptions edition rest
  | .unknown _ :: rest => givenOptions edition rest
  | .option key isLong attached _ :: rest =>
    match splitOption edition key isLong attached with
    | .error _ => []
    | .ok j =>
      match j.pending, rest with
      | none, rest => j.settled ++ givenOptions edition rest
      | some key, .plain value :: rest => j.settled ++ (key, value.toList) :: givenOptions edition rest
      | some _, _ => j.settled

def given (edition : Edition) (arguments : List String) : List (Key × List Char) :=
  match classifyAll arguments with
  | .error _ => []
  | .ok (classified, _) => givenOptions edition classified

namespace Value

variable {α : Type} {edition : Edition} {meaning? : List Char → Option α} {text : List Char}
  {value : Value α}

def json? (json : α → Json) : Value α → Option Json
  | absent => none
  | removed => some (.array [])
  | given v => some (json v)

theorem json?_ofText (edition : Edition) (text : List Char) :
    (ofText edition text).json? (fun s : String ↦ .string s) =
      if isTakenAway edition text then some (.array []) else some (.string (String.ofList text)) := by
  rw [ofText]
  split <;> rfl

theorem json?_of_read? (h : read? edition meaning? text = some value) (json : α → Json) :
    value.json? json =
      if isTakenAway edition text then some (.array []) else (meaning? text).map json := by
  rw [read?] at h
  split at h
  · next htext =>
    cases h
    exact (if_pos htext).symm
  · next htext =>
    obtain ⟨v, hv, rfl⟩ := Option.map_eq_some_iff.mp h
    rw [if_neg htext, hv]
    rfl

theorem isSome_json?_of_read? (h : read? edition meaning? text = some value) (json : α → Json) :
    (value.json? json).isSome = true := by
  rw [read?] at h
  split at h
  · cases h
    rfl
  · obtain ⟨v, -, rfl⟩ := Option.map_eq_some_iff.mp h
    rfl

end Value

def switch? (isSet : Bool) (value : Bool) : Option Json := if isSet then some (.bool value) else none

namespace Options

variable {host : Host} {o o' : Options} {key : Key} {text : List Char} {name : CodePoints}

/-- What the options ask for, by the option that asks for it. -/
def asked? (o : Options) : Key → Option Json
  | .variablePrefix => o.variablePrefix.json? fun s : String ↦ .string s
  | .booleanPrefix => o.booleanPrefix.json? fun s : String ↦ .string s
  | .multiplier => o.multiplier.json? .integer
  | .indent => o.indent.json? .integer
  | .noComments => switch? o.noComments false
  | .getters => switch? o.getters true
  | .setters => switch? o.setters true
  | .copyConstructor => switch? o.copyConstructor true
  | .equals => switch? o.equals true
  | _ => none

theorem asked?_set (h : o.set host key text = .ok o') (other : Key) :
    o'.asked? other = if other = key then key.value? host text else o.asked? other := by
  cases key with
  | help | version => cases h
  | variablePrefix =>
    cases h
    cases other
    case variablePrefix => exact Value.json?_ofText host.edition text
    all_goals rfl
  | booleanPrefix =>
    rw [set] at h
    split at h
    · next value hvalue =>
      cases h
      cases other
      case booleanPrefix =>
        rw [if_pos rfl, asked?, Value.json?_of_read? hvalue]
        rfl
      all_goals rfl
    · cases h
  | multiplier | indent =>
    rw [set] at h
    split at h
    · next value hvalue =>
      cases h
      cases other
      case multiplier | indent =>
        first
        | rfl
        | exact Value.json?_of_read? hvalue .integer
      all_goals rfl
    · cases h
  | file | config | output | logFile | pretty | verbose | getters | setters | copyConstructor
  | equals | noComments =>
    cases h
    cases other <;> rfl

theorem isSome_value?_of_set (h : o.set host key text = .ok o') (hkey : key.setting? = some name) :
    (key.value? host text).isSome = true := by
  have hasked := asked?_set h key
  rw [if_pos rfl] at hasked
  rw [← hasked]
  cases key with
  | help | version | file | config | output | logFile | pretty | verbose => cases hkey
  | variablePrefix =>
    cases h
    rw [asked?, Value.json?_ofText]
    split <;> rfl
  | booleanPrefix | multiplier | indent =>
    rw [set] at h
    split at h
    · next value hvalue =>
      cases h
      exact Value.isSome_json?_of_read? hvalue _
    · cases h
  | getters | setters | copyConstructor | equals | noComments =>
    cases h
    rfl

def settingKeys : List Key :=
  [.variablePrefix, .booleanPrefix, .multiplier, .indent, .noComments, .getters, .setters,
    .copyConstructor, .equals]

theorem overrides_eq (o : Options) :
    o.overrides = settingKeys.filterMap fun key ↦
      key.setting?.bind fun name ↦ (o.asked? key).map (name, ·) := by
  unfold overrides
  extract_lets given flag
  have hgiven {α : Type} (v : Value α) (name : CodePoints) (json : α → Json) :
      given v name json = ((v.json? json).map (name, ·)).toList := by
    cases v <;> rfl
  have hflag (isSet : Bool) (name : CodePoints) (value : Bool) :
      flag isSet name value = ((switch? isSet value).map (name, ·)).toList := by
    cases isSet <;> rfl
  simp only [hgiven, hflag, List.filterMap_eq_flatMap_toList, settingKeys, List.flatMap_cons,
    List.flatMap_nil, List.append_assoc, List.append_nil]
  rfl

theorem mem_overrides_iff {value : Json} :
    (name, value) ∈ o.overrides ↔ ∃ key, key.setting? = some name ∧ o.asked? key = some value := by
  rw [overrides_eq, List.mem_filterMap]
  constructor
  · rintro ⟨key, -, h⟩
    obtain ⟨_, hname, h⟩ := Option.bind_eq_some_iff.mp h
    obtain ⟨_, hvalue, heq⟩ := Option.map_eq_some_iff.mp h
    cases heq
    exact ⟨key, hname, hvalue⟩
  · rintro ⟨key, hname, hvalue⟩
    refine ⟨key, ?_, by rw [hname, hvalue]; rfl⟩
    cases key
    case help | file | config | output | pretty | verbose | logFile | version => cases hname
    all_goals decide

theorem isObject_overrides (o : Options) : IsObject o.overrides := by
  have hsublist (keys : List Key) :
      (names (keys.filterMap fun key ↦
        key.setting?.bind fun name ↦ (o.asked? key).map (name, ·))).Sublist
        (keys.filterMap Key.setting?) := by
    induction keys with
    | nil => exact .slnil
    | cons key rest ih =>
      rw [List.filterMap_cons, List.filterMap_cons]
      cases hname : key.setting? with
      | none => exact ih
      | some name =>
        cases o.asked? key with
        | none => exact ih.cons name
        | some value => exact ih.cons_cons name
  rw [IsObject, overrides_eq]
  exact (hsublist settingKeys).nodup (by decide)

theorem member?_overrides (o : Options) (name : CodePoints) :
    member? name o.overrides = (Key.ofSetting? name).bind o.asked? := by
  ext value
  rw [member?_eq_some_iff (isObject_overrides o), mem_overrides_iff, Option.bind_eq_some_iff]
  simp only [Key.ofSetting?_eq_some_iff]

theorem member?_overrides_set (h : o.set host key text = .ok o') (name : CodePoints) :
    member? name o'.overrides =
      if key.setting? = some name then key.value? host text else member? name o.overrides := by
  simp only [member?_overrides, ← Key.ofSetting?_eq_some_iff]
  cases Key.ofSetting? name with
  | none => rfl
  | some other => simp only [Option.bind_some, asked?_set h, Option.some.injEq]

/-- The option that is given last for a setting, with the text of its value. -/
def lastFor? (name : CodePoints) (settled : List (Key × List Char)) : Option (Key × List Char) :=
  (settled.filter (·.1.setting? = some name)).getLast?

variable {settled : List (Key × List Char)}

theorem lastFor?_cons (name : CodePoints) (key : Key) (text : List Char) (rest : List (Key × List Char)) :
    lastFor? name ((key, text) :: rest) =
      (lastFor? name rest).or (if key.setting? = some name then some (key, text) else none) := by
  rw [lastFor?, List.filter_cons]
  by_cases hname : key.setting? = some name
  · simp only [hname, decide_true, if_true, List.getLast?_cons]
    rw [lastFor?]
    cases (rest.filter (·.1.setting? = some name)).getLast? <;> rfl
  · simp only [hname, decide_false, Bool.false_eq_true, if_false, Option.or_none]
    rfl

theorem setAll_append (host : Host) (o : Options) (settled rest : List (Key × List Char)) :
    o.setAll host (settled ++ rest) = (o.setAll host settled).bind (·.setAll host rest) := by
  induction settled generalizing o with
  | nil => rfl
  | cons head settled ih =>
    obtain ⟨key, text⟩ := head
    rw [List.cons_append, setAll, setAll]
    cases o.set host key text with
    | error e => rfl
    | ok o => exact ih o

/-- The last option for a setting is the one that counts, and its text has a meaning. -/
theorem member?_overrides_setAll (h : o.setAll host settled = .ok o') (name : CodePoints) :
    member? name o'.overrides =
        (match lastFor? name settled with
        | some (key, text) => key.value? host text
        | none => member? name o.overrides) ∧
      ∀ key text, lastFor? name settled = some (key, text) → (key.value? host text).isSome = true := by
  induction settled generalizing o with
  | nil =>
    cases h
    exact ⟨rfl, nofun⟩
  | cons head rest ih =>
    obtain ⟨key, text⟩ := head
    rw [setAll] at h
    split at h
    · cases h
    · next o₁ hset =>
      obtain ⟨hrest, hmeant⟩ := ih h
      rw [hrest, lastFor?_cons]
      cases hlast : lastFor? name rest with
      | some last => exact ⟨rfl, fun _ _ heq ↦ hmeant _ _ (hlast.trans heq)⟩
      | none =>
        dsimp only
        rw [Option.none_or, member?_overrides_set hset]
        by_cases hname : key.setting? = some name
        · simp only [if_pos hname]
          refine ⟨trivial, fun key' text' heq ↦ ?_⟩
          cases heq
          exact isSome_value?_of_set hset hname
        · simp only [if_neg hname]
          exact ⟨trivial, nofun⟩

/-- Reading arguments comes to setting the options that they give, one after another. -/
theorem setAll_givenOptions {classified : List Argument} {extras extras' : List String}
    (h : readArguments host o extras classified = .ok (o', extras')) :
    o.setAll host (givenOptions host.edition classified) = .ok o' := by
  fun_induction readArguments host o extras classified
  case case1 =>
    cases h
    rfl
  case case2 _ ih => exact ih h
  case case3 _ ih => exact ih h
  case case4 | case5 | case7 | case9 => cases h
  case case6 hsplit hpending _ hset ih =>
    simp only [givenOptions, hsplit, hpending]
    rw [setAll_append, hset]
    exact ih h
  case case8 hsplit _ hpending _ _ _ hset ih =>
    simp only [givenOptions, hsplit, hpending]
    rw [List.append_cons, setAll_append, hset]
    exact ih h

/-- For every setting the options ask for what the last option for it gives, if there is one. -/
theorem member?_overrides_of_parse {arguments : List String} (h : parse host arguments = .ok o)
    (name : CodePoints) :
    member? name o.overrides =
        (match lastFor? name (given host.edition arguments) with
        | some (key, text) => key.value? host text
        | none => none) ∧
      ∀ key text, lastFor? name (given host.edition arguments) = some (key, text) →
        (key.value? host text).isSome = true := by
  rw [parse] at h
  rw [given]
  cases hclassified : classifyAll arguments with
  | error e => simp [hclassified] at h
  | ok p =>
    obtain ⟨classified, tail⟩ := p
    simp only [hclassified] at h
    dsimp only
    cases hread : readArguments host {} [] classified with
    | error e => simp [hread] at h
    | ok p =>
      obtain ⟨o₁, extras⟩ := p
      simp only [hread] at h
      have hset := setAll_givenOptions hread
      split at h
      · cases h
      · cases h
        exact member?_overrides_setAll hset name
      · cases h

end Options

end Boilerplate.CommandLine
