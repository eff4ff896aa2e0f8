import Boilerplate.Json.Value
import Boilerplate.Limits
import Boilerplate.Text.Numeral
import Boilerplate.Text.Quoted

namespace Boilerplate.CommandLine

open Text (CodePoints)

/-- Which grammar arguments have. Both are met with. -/
inductive Edition where
  /-- Two hyphens that are attached to an option take its value away. -/
  | early
  /-- An equals sign may stand between joined letters and a value. -/
  | revised
  deriving DecidableEq, Repr

structure Host extends Limits where
  edition : Edition

def Host.usual : Host := { Limits.usual with edition := .revised }

inductive Key where
  | help
  | file
  | variablePrefix
  | booleanPrefix
  | multiplier
  | getters
  | setters
  | copyConstructor
  | equals
  | noComments
  | indent
  | config
  | output
  | pretty
  | verbose
  | logFile
  | version
  deriving DecidableEq, Repr

namespace Key

def all : List Key :=
  [help, file, variablePrefix, booleanPrefix, multiplier, getters, setters, copyConstructor,
    equals, noComments, indent, config, output, pretty, verbose, logFile, version]

def short? : Key → Option Char
  | help => 'h'
  | file => 'f'
  | variablePrefix => 'p'
  | booleanPrefix => 'b'
  | multiplier => 'm'
  | getters => 'g'
  | setters => 's'
  | copyConstructor => 'c'
  | equals => 'e'
  | output => 'o'
  | _ => none

def long : Key → String
  | help => "--help"
  | file => "--file"
  | variablePrefix => "--prefix"
  | booleanPrefix => "--boolean-prefix"
  | multiplier => "--multiplier"
  | getters => "--getters"
  | setters => "--setters"
  | copyConstructor => "--copy-constructor"
  | equals => "--equals"
  | noComments => "--no-comments"
  | indent => "--indent"
  | config => "--config"
  | output => "--output"
  | pretty => "--pretty"
  | verbose => "--verbose"
  | logFile => "--log-file"
  | version => "--version"

def takesValue : Key → Bool
  | file | variablePrefix | booleanPrefix | multiplier | indent | config | output | logFile => true
  | _ => false

def display (k : Key) : String :=
  match k.short? with
  | some c => String.ofList ['-', c] ++ "/" ++ k.long
  | none => k.long

def ofShort? (c : Char) : Option Key := all.find? (·.short? == some c)

def ofLong? (spelling : String) : Option Key := all.find? (·.long == spelling)

end Key

inductive Value (α : Type) where
  | absent
  /-- The option was given, but two hyphens in place of its value took the value away. -/
  | removed
  | given (value : α)
  deriving DecidableEq, Repr

namespace Value

variable {α : Type}

def toOption : Value α → Option α
  | given value => some value
  | _ => none

/-- Whether the text of a value takes the value away. -/
def isTakenAway (edition : Edition) (text : List Char) : Bool :=
  edition == .early && text == ['-', '-']

def read? (edition : Edition) (meaning? : List Char → Option α) (text : List Char) :
    Option (Value α) :=
  if isTakenAway edition text then some .removed else (meaning? text).map given

def ofText (edition : Edition) (text : List Char) : Value String :=
  if isTakenAway edition text then .removed else .given (String.ofList text)

end Value

structure Options where
  file : Value String := .absent
  variablePrefix : Value String := .absent
  booleanPrefix : Value String := .absent
  multiplier : Value Int := .absent
  getters : Bool := false
  setters : Bool := false
  copyConstructor : Bool := false
  equals : Bool := false
  noComments : Bool := false
  indent : Value Int := .absent
  config : Value String := .absent
  output : Value String := .absent
  pretty : Bool := false
  verbose : Bool := false
  logFile : Value String := .absent
  deriving DecidableEq, Repr

inductive UsageError where
  | ambiguous (argument : String) (candidates : List Key)
  | invalidChoice (key : Key) (value : String)
  | invalidInteger (key : Key) (value : String)
  | expectedArgument (key : Key)
  | ignoredArgument (key : Key) (value : String)
  | fileRequired
  | unrecognized (arguments : List String)
  deriving DecidableEq

def UsageError.message : UsageError → String
  | ambiguous argument candidates =>
    "ambiguous option: " ++ argument ++ " could match " ++
      ", ".intercalate (candidates.map Key.long)
  | invalidChoice key value =>
    "argument " ++ key.display ++ ": invalid choice: " ++ Text.quoted value ++
      " (choose from 'is', 'get')"
  | invalidInteger key value =>
    "argument " ++ key.display ++ ": invalid int value: " ++ Text.quoted value
  | expectedArgument key => "argument " ++ key.display ++ ": expected one argument"
  | ignoredArgument key value =>
    "argument " ++ key.display ++ ": ignored explicit argument " ++ Text.quoted value
  | fileRequired => "the following arguments are required: -f/--file"
  | unrecognized arguments => "unrecognized arguments: " ++ " ".intercalate arguments

inductive Stop where
  | usage (error : UsageError)
  | help
  | version

inductive Argument where
  | option (key : Key) (isLong : Bool) (attached : Option (List Char)) (text : String)
  | unknown (text : String)
  | plain (text : String)

def Argument.text : Argument → String
  | option _ _ _ text => text
  | unknown text => text
  | plain text => text

def isNegativeNumber (cs : List Char) : Bool :=
  let digits (cs : List Char) := !cs.isEmpty && cs.all Text.isDecimalDigit
  match (if cs.getLast? = some '\n' then cs.dropLast else cs) with
  | '-' :: rest =>
    let whole := rest.takeWhile Text.isDecimalDigit
    match rest.drop whole.length with
    | [] => digits whole
    | '.' :: places => digits places
    | _ => false
  | _ => false

def unmatched (text : String) : Argument :=
  if isNegativeNumber text.toList || text.toList.contains ' ' then .plain text else .unknown text

def classifyLong (text : String) : Except UsageError Argument :=
  let spelling := String.ofList (text.toList.takeWhile (· != '='))
  let attached :=
    match text.toList.dropWhile (· != '=') with
    | _ :: value => some value
    | [] => none
  match Key.ofLong? spelling with
  | some key => .ok (.option key true attached text)
  | none =>
    match Key.all.filter fun key ↦ spelling.toList.isPrefixOf key.long.toList with
    | [] => .ok (unmatched text)
    | [key] => .ok (.option key true attached text)
    | candidates => .error (.ambiguous text candidates)

def classify (text : String) : Except UsageError Argument :=
  match text.toList with
  | '-' :: '-' :: _ => classifyLong text
  | ['-'] => .ok (.plain text)
  | '-' :: c :: rest =>
    match Key.ofShort? c, rest with
    | some key, [] => .ok (.option key false none text)
    | some key, attached => .ok (.option key false (some attached) text)
    | none, _ => .ok (unmatched text)
  | _ => .ok (.plain text)

def classifyAll : List String → Except UsageError (List Argument × List String)
  | [] => .ok ([], [])
  | text :: rest =>
    if text = "--" then .ok ([], text :: rest)
    else do
      let argument ← classify text
      let (arguments, tail) ← classifyAll rest
      return (argument :: arguments, tail)

def booleanPrefix? (text : List Char) : Option String :=
  (some (String.ofList text)).filter fun word ↦ word == "is" || word == "get"

def Options.set (host : Host) (o : Options) (key : Key) (text : List Char) : Except Stop Options :=
  let given := Value.ofText host.edition text
  let number? := Value.read? host.edition (Text.decimal? host.toLimits) text
  match key with
  | .help => .error .help
  | .version => .error .version
  | .file => .ok { o with file := given }
  | .variablePrefix => .ok { o with variablePrefix := given }
  | .booleanPrefix =>
    match Value.read? host.edition booleanPrefix? text with
    | some value => .ok { o with booleanPrefix := value }
    | none => .error (.usage (.invalidChoice key (String.ofList text)))
  | .multiplier =>
    match number? with
    | some value => .ok { o with multiplier := value }
    | none => .error (.usage (.invalidInteger key (String.ofList text)))
  | .indent =>
    match number? with
    | some value => .ok { o with indent := value }
    | none => .error (.usage (.invalidInteger key (String.ofList text)))
  | .getters => .ok { o with getters := true }
  | .setters => .ok { o with setters := true }
  | .copyConstructor => .ok { o with copyConstructor := true }
  | .equals => .ok { o with equals := true }
  | .noComments => .ok { o with noComments := true }
  | .config => .ok { o with config := given }
  | .output => .ok { o with output := given }
  | .pretty => .ok { o with pretty := true }
  | .verbose => .ok { o with verbose := true }
  | .logFile => .ok { o with logFile := given }

structure Joined where
  settled : List (Key × List Char)
  pending : Option Key
  /-- Joined letters from one on that is no option's. -/
  extra : Option String := none

namespace Joined

def single (key : Key) : Joined :=
  if key.takesValue then ⟨[], some key, none⟩ else ⟨[(key, [])], none, none⟩

def withValue (key : Key) (text : List Char) : Joined := ⟨[(key, text)], none, none⟩

def after (key : Key) (j : Joined) : Joined := { j with settled := (key, []) :: j.settled }

end Joined

/-- Takes apart a short option without a value and the letters of more options behind it. The first
option that takes a value has the rest of the letters for it. -/
def splitJoined (key : Key) : List Char → Except UsageError Joined
  | [] => .error (.ignoredArgument key "")
  | c :: rest =>
    match Key.ofShort? c with
    | none => .error (.ignoredArgument key (String.ofList (c :: rest)))
    | some next =>
      let joined :=
        if rest = [] then .ok (.single next)
        else if next.takesValue then .ok (.withValue next rest)
        else splitJoined next rest
      joined.map (·.after key)

/-- Takes apart a short option and what follows it. An equals sign has the value behind it. -/
def splitLetters (key : Key) : List Char → Except UsageError Joined
  | [] => .ok (.single key)
  | c :: rest =>
    if key.takesValue then .ok (.withValue key (if c = '=' then rest else c :: rest))
    else if c = '=' then .error (.ignoredArgument key (String.ofList rest))
    else if c = '-' then .error (.ignoredArgument key (String.ofList (c :: rest)))
    else
      match Key.ofShort? c with
      | none => .ok ⟨[(key, [])], none, some (String.ofList ('-' :: c :: rest))⟩
      | some next => (splitLetters next rest).map (·.after key)

def splitShort (edition : Edition) (key : Key) (text : List Char) : Except UsageError Joined :=
  let split (text : List Char) :=
    if key.takesValue then .ok (.withValue key text) else splitJoined key text
  match edition, text with
  | .revised, text => splitLetters key text
  | .early, '=' :: text => split text
  | .early, text => split text

def splitOption (edition : Edition) (key : Key) (isLong : Bool) (attached : Option (List Char)) :
    Except UsageError Joined :=
  match attached with
  | none => .ok (.single key)
  | some text =>
    if !isLong then splitShort edition key text
    else if key.takesValue then .ok (.withValue key text)
    else .error (.ignoredArgument key (String.ofList text))

def Options.setAll (host : Host) (o : Options) : List (Key × List Char) → Except Stop Options
  | [] => .ok o
  | (key, value) :: rest =>
    match o.set host key value with
    | .error e => .error e
    | .ok o => o.setAll host rest

/-- Reads arguments in order onto options; what is no option goes to the extras. -/
def readArguments (host : Host) (o : Options) (extras : List String) :
    List Argument → Except Stop (Options × List String)
  | [] => .ok (o, extras)
  | .plain text :: rest => readArguments host o (extras ++ [text]) rest
  | .unknown text :: rest => readArguments host o (extras ++ [text]) rest
  | .option key isLong attached _ :: rest =>
    match splitOption host.edition key isLong attached with
    | .error e => .error (.usage e)
    | .ok j =>
      match j.pending with
      | none =>
        match o.setAll host j.settled with
        | .error e => .error e
        | .ok o => readArguments host o (extras ++ j.extra.toList) rest
      | some key =>
        match rest with
        | .plain value :: rest =>
          match o.setAll host (j.settled ++ [(key, value.toList)]) with
          | .error e => .error e
          | .ok o => readArguments host o extras rest
        | _ => .error (.usage (.expectedArgument key))

def parse (host : Host) (arguments : List String) : Except Stop Options :=
  match classifyAll arguments with
  | .error e => .error (.usage e)
  | .ok (classified, tail) =>
    match readArguments host {} [] classified with
    | .error e => .error e
    | .ok (o, extras) =>
      match o.file, extras ++ tail with
      | .absent, _ => .error (.usage .fileRequired)
      | _, [] => .ok o
      | _, extras => .error (.usage (.unrecognized extras))

/-- The settings that options ask for. Options that were not given ask for nothing, and an empty
list stands for a value that was taken away. -/
def Options.overrides (o : Options) : List (CodePoints × Json) :=
  let given {α : Type} (value : Value α) (name : CodePoints) (json : α → Json) :=
    match value with
    | .absent => []
    | .removed => [(name, .array [])]
    | .given v => [(name, json v)]
  let flag (isSet : Bool) (name : CodePoints) (value : Bool) :=
    if isSet then [(name, Json.bool value)] else []
  given o.variablePrefix "var_prefix" (.string ·) ++
    given o.booleanPrefix "boolean_prefix" (.string ·) ++
    given o.multiplier "hash_multiplier" .integer ++
    given o.indent "indent_size" .integer ++
    flag o.noComments "add_comments" false ++
    flag o.getters "getters" true ++
    flag o.setters "setters" true ++
    flag o.copyConstructor "copy_constructor" true ++
    flag o.equals "equals_hash" true

end Boilerplate.CommandLine
