import Boilerplate.Text.CodePoint

namespace Boilerplate.Log

inductive Level where
  | debug
  | info
  | warning
  | error
  deriving DecidableEq, Repr

def Level.name : Level → String
  | debug => "DEBUG"
  | info => "INFO"
  | warning => "WARNING"
  | error => "ERROR"

def Level.isNotable : Level → Bool
  | debug => false
  | info => false
  | warning => true
  | error => true

structure Record where
  level : Level
  logger : String
  message : Text.CodePoints
  deriving DecidableEq, Repr

def root : String := "barista"

def loggerName (name : String) : String :=
  if name = "" then root
  else if name = root ∨ (root ++ ".").toList.isPrefixOf name.toList then name
  else root ++ "." ++ name

def Record.line (time : String) (r : Record) : Text.CodePoints :=
  .ofString (time ++ " - " ++ r.logger ++ " - " ++ r.level.name ++ " - ") ++ r.message ++
    [Text.lineFeed]

end Boilerplate.Log
