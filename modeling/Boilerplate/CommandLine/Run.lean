import Boilerplate.CommandLine.Options
import Boilerplate.CommandLine.Report
import Boilerplate.CommandLine.Workspace
import Boilerplate.Files.SourceFile
import Boilerplate.Generation.FromSource
import Boilerplate.Settings.Load

namespace Boilerplate.CommandLine

open Files
open Text (CodePoints)

def versionText : String := "barista 0.1.0\n"

def helpText : String :=
  "usage: barista -f JAVA_FILE [options]\n\n" ++
    String.join (Key.all.map fun key ↦
      "  " ++ key.display ++ (if key.takesValue then " VALUE" else "") ++ "\n")

/-- A failure that a run does not answer for. -/
inductive Crash where
  | logFile (fault : OpenFault)
  | output (fault : OpenFault)
  /-- The code holds surrogates, which shows when the output has been opened. -/
  | encoding (left : Workspace)
  | settings (error : Settings.LoadError)
  /-- The value of the option of the file was taken away. -/
  | noFileName
  | sourceFile (error : SourceFile.LoadError)
  | source (error : Source.LexError)
  | field (error : FieldError)

structure Outcome where
  exitCode : Nat
  output : String
  diagnostics : CodePoints
  workspace : Workspace

def refuse (w : Workspace) (diagnostics : CodePoints) : Except Crash Outcome :=
  .ok ⟨1, "", diagnostics, w⟩

def loadSettings (host : Host) (o : Options) (w : Workspace) :
    Except Settings.LoadError Settings × Workspace :=
  let (result, records) :=
    Settings.load host.toLimits w.tree [] (o.config.toOption.getD "") o.overrides
  (result, w.logAll records)

def cliRecord (message : String) : Log.Record := ⟨.info, "barista.cli", message⟩

def outputPath (o : Options) : Path := .ofString (o.output.toOption.getD "")

/-- Hands code over. Gives what is printed, what the user is told, and what is left behind. -/
def deliver (o : Options) (w : Workspace) (code : CodePoints) :
    Except (WriteFault × Workspace) (String × CodePoints × Workspace) :=
  if o.output.toOption.getD "" = "" then
    match code.string? with
    | some text => .ok (text, [], w)
    | none => .error (.encoding, w)
  else
    match w.tree.writeText (outputPath o) code with
    | (some fault, tree) => .error (fault, { w with tree })
    | (none, tree) => .ok ("", Report.saved (outputPath o).text, { w with tree })

def refuseOutput (o : Options) (w : Workspace) (fault : WriteFault) : Except Crash Outcome :=
  let refuse (report : String) :=
    refuse w (Report.error ("Failed to write to " ++ (outputPath o).text ++ ": " ++ report))
  match fault with
  | .opening fault =>
    match fault.report? (outputPath o) with
    | some report => refuse report
    | none => .error (.output fault)
  | .encoding => .error (.encoding w)
  | .filling error => refuse (error.report (outputPath o))

def refuseSource (w : Workspace) (e : Source.LexError) : Except Crash Outcome :=
  match e.report? with
  | some report => refuse w (Report.sourceError (.ofString Source.lexErrorOpening ++ report))
  | none => .error (.source e)

def closing (o : Options) (r : Result) : CodePoints :=
  (if o.verbose then (r.metadata.map Report.metadata).getD [] else []) ++
    (match r.warnings with
    | [] => []
    | warnings => Report.warnings warnings)

def produce (host : Host) (o : Options) (s : Settings) (w : Workspace)
    (source className : String) : Except Crash Outcome :=
  let w := w.log (cliRecord ("Generating boilerplate for class " ++ className))
  let start := s.naming.variablePrefix
  match Source.extract source start with
  | .error (.lexical e) => refuseSource w e
  | .error (.field e) => .error (.field e)
  | .ok x =>
    let w := w.logAll (x.records start)
    let generator := Generator.ofSettings host.toLimits s true
    let w := w.logAll (generator.records (.ofExtraction className x))
    let result := resultOf host.toLimits s className x
    match result.errorMessage? with
    | some message => refuse w (Report.generationError message)
    | none =>
      match deliver o w result.code with
      | .error (fault, w) => refuseOutput o w fault
      | .ok (output, diagnostics, w) => .ok ⟨0, output, diagnostics ++ closing o result, w⟩

def runOnFile (host : Host) (o : Options) (s : Settings) (w : Workspace) (file : String) :
    Except Crash Outcome :=
  let path := Path.ofString file
  let w := w.logAll (SourceFile.recordsBefore w.tree path)
  let (loaded, records) := SourceFile.load w.tree path
  let w := w.logAll records
  match loaded with
  | .error (.notFound _) => refuse w (Report.error ("File '" ++ file ++ "' does not exist."))
  | .error e =>
    match e.report? with
    | some report => refuse w (Report.error report)
    | none => .error (.sourceFile e)
  | .ok source =>
    match Source.className? source with
    | .error e => refuseSource w e
    | .ok none => refuse w (Report.error ("Could not determine class name from '" ++ file ++ "'."))
    | .ok (some className) => produce host o s w source className

def runOptions (host : Host) (o : Options) (w : Workspace) : Except Crash Outcome :=
  match loadSettings host o w with
  | (.error e, w) =>
    match e.report? host.toLimits with
    | some report => refuse w (Report.error ("Configuration error: " ++ report))
    | none => .error (.settings e)
  | (.ok s, w) =>
    match o.file.toOption with
    | some file => runOnFile host o s w file
    | none => .error .noFileName

def openLog (o : Options) (w : Workspace) : Except OpenFault Workspace :=
  match o.logFile.toOption.getD "" with
  | "" => .ok w
  | name => w.openLog (Path.ofString name)

def usageText (e : UsageError) : String := "barista: error: " ++ e.message ++ "\n"

def run (host : Host) (arguments : List String) (time : String) (tree : Tree) :
    Except Crash Outcome :=
  let w : Workspace := ⟨tree, time, none, []⟩
  match parse host arguments with
  | .error .help => .ok ⟨0, helpText, [], w⟩
  | .error .version => .ok ⟨0, versionText, [], w⟩
  | .error (.usage e) => .ok ⟨2, "", usageText e, w⟩
  | .ok o =>
    match openLog o w with
    | .error fault => .error (.logFile fault)
    | .ok w => runOptions host o w

end Boilerplate.CommandLine
