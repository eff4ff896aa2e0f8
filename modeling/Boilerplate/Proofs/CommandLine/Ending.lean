import Boilerplate.CommandLine.Run

namespace Boilerplate.CommandLine

open Files
open Text (CodePoints)

variable {host : Host} {o : Options} {w : Workspace} {code? : Option CodePoints} {s : Settings}
  {result : Except Crash Outcome}

def codeFrom? (limits : Limits) (s : Settings) (source : String) : Option CodePoints :=
  (generateFrom limits source none s).toOption.bind fun r ↦ if r.success then some r.code else none

/-- The source as a run reads it, which looks at the file and logs before. -/
def readSource (w : Workspace) (file : String) : Except SourceFile.LoadError String :=
  let path := Path.ofString file
  (SourceFile.load (w.logAll (SourceFile.recordsBefore w.tree path)).tree path).1

/-- The code for what the options name, as a run comes to read it. -/
def codeAsked? (host : Host) (o : Options) (w : Workspace) : Option CodePoints :=
  (loadSettings host o w).1.toOption.bind fun s ↦ o.file.toOption.bind fun file ↦
    (readSource (loadSettings host o w).2 file).toOption.bind (codeFrom? host.toLimits s)

/-- How a part of a run ends that starts from `w` and has `code?` to deliver. -/
inductive Ends (o : Options) (w : Workspace) : Option CodePoints → Except Crash Outcome → Prop
  | crashed {crash : Crash} : Ends o w none (.error crash)
  | refused {records : List Log.Record} {diagnostics : CodePoints} :
      Ends o w none (.ok ⟨1, "", diagnostics, w.logAll records⟩)
  | undelivered {records : List Log.Record} {code : CodePoints} {fault : WriteFault} {w' : Workspace}
      (h : deliver o (w.logAll records) code = .error (fault, w')) :
      Ends o w (some code) (refuseOutput o w' fault)
  | delivered {records : List Log.Record} {code said more : CodePoints} {output : String}
      {w' : Workspace} (h : deliver o (w.logAll records) code = .ok (output, said, w')) :
      Ends o w (some code) (.ok ⟨0, output, said ++ more, w'⟩)

theorem Workspace.logAll_append (w : Workspace) (rs more : List Log.Record) :
    w.logAll (rs ++ more) = (w.logAll rs).logAll more := List.foldl_append

theorem Ends.of_logAll (rs : List Log.Record) (h : Ends o (w.logAll rs) code? result) :
    Ends o w code? result := by
  cases h with
  | crashed => exact .crashed
  | refused =>
    rw [← w.logAll_append]
    exact .refused
  | undelivered hd =>
    rw [← w.logAll_append] at hd
    exact .undelivered hd
  | delivered hd =>
    rw [← w.logAll_append] at hd
    exact .delivered hd

theorem ends_refuse (diagnostics : CodePoints) : Ends o w none (refuse w diagnostics) :=
  @Ends.refused _ _ [] _

theorem ends_refuseSource (e : Source.LexError) : Ends o w none (refuseSource w e) := by
  rw [refuseSource]
  split
  · exact ends_refuse _
  · exact .crashed

theorem codeFrom?_of_error {limits : Limits} {source : String} {e : Source.LexError}
    (h : Source.className? source = .error e) : codeFrom? limits s source = none := by
  simp only [codeFrom?, generateFrom, h]
  rfl

theorem codeFrom?_of_noClassName {limits : Limits} {source : String}
    (h : Source.className? source = .ok none) : codeFrom? limits s source = none := by
  simp only [codeFrom?, generateFrom, h]
  rfl

theorem codeFrom?_of_className {limits : Limits} {source className : String}
    (h : Source.className? source = .ok (some className)) : codeFrom? limits s source =
      (Source.extract source s.naming.variablePrefix).toOption.bind fun x ↦
        if (resultOf limits s className x).errorMessage?.isNone then
          some (resultOf limits s className x).code
        else none := by
  simp only [codeFrom?, generateFrom, h]
  cases Source.extract source s.naming.variablePrefix with
  | error e => rfl
  | ok x =>
    have hsuccess : (resultOf limits s className x).errorMessage?.isNone =
        (resultOf limits s className x).success := Option.isNone_map
    rw [Except.toOption, Option.bind_some, hsuccess]
    rfl

theorem ends_produce {source className : String}
    (h : Source.className? source = .ok (some className)) :
    Ends o w (codeFrom? host.toLimits s source) (produce host o s w source className) := by
  rw [codeFrom?_of_className h, produce]
  refine .of_logAll [cliRecord ("Generating boilerplate for class " ++ className)] ?_
  change Ends o (w.log _) _ _
  dsimp only
  generalize w.log _ = w
  cases Source.extract source s.naming.variablePrefix with
  | error e =>
    cases e with
    | lexical e => exact ends_refuseSource e
    | field e => exact .crashed
  | ok x =>
    refine .of_logAll (x.records s.naming.variablePrefix) (.of_logAll
      ((Generator.ofSettings host.toLimits s true).records (.ofExtraction className x)) ?_)
    rw [Except.toOption, Option.bind_some]
    dsimp only
    generalize (w.logAll _).logAll _ = w
    cases (resultOf host.toLimits s className x).errorMessage? with
    | some message => exact ends_refuse _
    | none =>
      generalize (resultOf host.toLimits s className x).code = code
      cases hd : deliver o w code with
      | error failure => exact @Ends.undelivered _ _ [] _ _ _ hd
      | ok delivered => exact @Ends.delivered _ _ [] _ _ _ _ _ hd

theorem ends_runOnFile (file : String) :
    Ends o w ((readSource w file).toOption.bind (codeFrom? host.toLimits s))
      (runOnFile host o s w file) := by
  rw [runOnFile, readSource]
  dsimp only
  refine .of_logAll (SourceFile.recordsBefore w.tree (Path.ofString file)) ?_
  generalize w.logAll _ = w
  refine .of_logAll ((SourceFile.load w.tree (Path.ofString file)).2) ?_
  generalize SourceFile.load w.tree (Path.ofString file) = loading
  obtain ⟨loaded, records⟩ := loading
  dsimp only
  generalize w.logAll records = w
  cases loaded with
  | error e =>
    cases e with
    | notFound path => exact ends_refuse _
    | notRegular path => exact ends_refuse _
    | notUtf8 path => exact ends_refuse _
    | unreadable path error => exact ends_refuse _
    | lookup fault => exact .crashed
  | ok source =>
    rw [Except.toOption, Option.bind_some]
    dsimp only
    cases hname : Source.className? source with
    | error e =>
      rw [codeFrom?_of_error hname]
      exact ends_refuseSource e
    | ok found =>
      cases found with
      | none =>
        rw [codeFrom?_of_noClassName hname]
        exact ends_refuse _
      | some className => exact ends_produce hname

/-- A run with options delivers the code that they ask for, or fails. -/
theorem ends_runOptions (host : Host) (o : Options) (w : Workspace) :
    Ends o w (codeAsked? host o w) (runOptions host o w) := by
  obtain ⟨records, hlogged⟩ : ∃ records, (loadSettings host o w).2 = w.logAll records := ⟨_, rfl⟩
  rw [runOptions, codeAsked?]
  refine .of_logAll records ?_
  rw [← hlogged]
  generalize loadSettings host o w = loaded
  obtain ⟨settings, w⟩ := loaded
  cases settings with
  | error e =>
    dsimp only
    cases e.report? host.toLimits with
    | some report => exact ends_refuse _
    | none => exact .crashed
  | ok s =>
    rw [Except.toOption, Option.bind_some]
    dsimp only
    cases o.file.toOption with
    | some file => exact ends_runOnFile file
    | none => exact .crashed

theorem ends_run {arguments : List String} {time : String} {tree : Tree}
    (hp : parse host arguments = .ok o) (hw : openLog o ⟨tree, time, none, []⟩ = .ok w) :
    Ends o w (codeAsked? host o w) (run host arguments time tree) := by
  simp only [run, hp, hw]
  exact ends_runOptions host o w

end Boilerplate.CommandLine
