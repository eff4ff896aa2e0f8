import Boilerplate.Files.Tree
import Boilerplate.Log

namespace Boilerplate.CommandLine

open Files

/-- What a run finds and leaves behind. One of the files may take the log. -/
structure Workspace where
  tree : Tree
  time : String
  logFile : Option Location
  records : List Log.Record

namespace Workspace

variable (w : Workspace)

/-- The bytes of a record in the log file. There are none if it holds surrogates. -/
def recordBytes (time : String) (r : Log.Record) : List UInt8 :=
  ((r.line time).string?.map Text.Utf8.encode).getD []

def log (r : Log.Record) : Workspace :=
  { w with
    records := w.records ++ [r]
    tree :=
      match w.logFile with
      | some location => w.tree.append location (recordBytes w.time r)
      | none => w.tree }

def logAll (rs : List Log.Record) : Workspace := rs.foldl log w

def openLog (p : Path) : Except OpenFault Workspace :=
  (w.tree.openFor (Tree.normalPath p)).map fun location ↦
    { w with tree := w.tree.append location [], logFile := some location }

end Workspace

end Boilerplate.CommandLine
