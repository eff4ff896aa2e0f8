import Boilerplate.Proofs.CommandLine.Ending
import Boilerplate.Proofs.Files.Tree
import Boilerplate.Proofs.Source.TokenForm

namespace Boilerplate.CommandLine

open Files
open Text (CodePoints)

variable {host : Host} {limits : Limits} {tree : Tree} {logFile : Option Location} {w w' : Workspace}
  {o : Options} {outcome : Outcome} {location : Location} {code : CodePoints}

/-- What the records of a run come to in a log file. -/
def Workspace.logBytes (w : Workspace) : List UInt8 := w.records.flatMap (recordBytes w.time)

def withBytes (tree : Tree) (location : Location) (bytes : List UInt8) : List UInt8 :=
  let before := (tree.content? location).getD []
  before ++ tree.storage.taken location before bytes

/-- Where the options want the log, if a file is there or could be made there. -/
def logLocation? (o : Options) (tree : Tree) : Option Location :=
  let name := o.logFile.toOption.getD ""
  if name = "" then none else tree.location? (Tree.normalPath (Path.ofString name))

def outputLocation? (o : Options) (tree : Tree) : Option Location :=
  if o.output.toOption.getD "" = "" then none else tree.location? (outputPath o)

/-- The place of the output, if there is one, can hold a file of any length. -/
def HasRoom (o : Options) (tree : Tree) : Prop :=
  ∀ location, outputLocation? o tree = some location → tree.storage.room location = none

/-- Code that a run for some source gives. -/
def IsGeneratedCode (limits : Limits) (code : CodePoints) : Prop :=
  ∃ source s r, generateFrom limits source none s = .ok r ∧ r.success = true ∧ r.code = code

/-- Up to now a run has written its log and nothing else. -/
structure Logs (tree : Tree) (logFile : Option Location) (w : Workspace) : Prop where
  logFile_eq : w.logFile = logFile
  sameWays : Tree.SameWays w.tree tree
  content?_eq : ∀ l, w.tree.content? l =
    if logFile = some l then some (withBytes tree l w.logBytes) else tree.content? l

theorem withBytes_append (tree : Tree) (location : Location) (bytes more : List UInt8) :
    withBytes tree location (bytes ++ more) =
      withBytes tree location bytes ++
        tree.storage.taken location (withBytes tree location bytes) more := by
  simp only [withBytes, Storage.taken_append, List.append_assoc]

theorem Logs.log (h : Logs tree logFile w) (r : Log.Record) : Logs tree logFile (w.log r) := by
  have hbytes : (w.log r).logBytes = w.logBytes ++ Workspace.recordBytes w.time r := by
    simp [Workspace.logBytes, Workspace.log, List.flatMap_append]
  cases hfile : logFile with
  | none =>
    have hnone : w.logFile = none := h.logFile_eq.trans hfile
    have htree : (w.log r).tree = w.tree := by simp [Workspace.log, hnone]
    refine ⟨hnone, htree ▸ h.sameWays, fun l ↦ ?_⟩
    rw [htree, h.content?_eq l, hfile]
    simp
  | some location =>
    have hsome : w.logFile = some location := h.logFile_eq.trans hfile
    have htree : (w.log r).tree = w.tree.append location (Workspace.recordBytes w.time r) := by
      simp [Workspace.log, hsome]
    have hupdate := Tree.isUpdate_append w.tree location (Workspace.recordBytes w.time r)
    rw [← htree, h.content?_eq location, if_pos hfile, Option.getD_some, h.sameWays.storage_eq,
      ← withBytes_append, ← hbytes] at hupdate
    refine ⟨hsome, hupdate.sameWays.trans h.sameWays, fun l ↦ ?_⟩
    by_cases hl : l = location
    · subst hl
      rw [if_pos rfl, hupdate.content?_self]
    · have hne : ¬(some location = some l) := fun he ↦ hl (Option.some.inj he).symm
      rw [hupdate.content?_of_ne l hl, h.content?_eq l, hfile, if_neg hne, if_neg hne]

theorem Logs.logAll (h : Logs tree logFile w) (rs : List Log.Record) :
    Logs tree logFile (w.logAll rs) := by
  induction rs generalizing w with
  | nil => exact h
  | cons r rs ih => exact ih (h.log r)

theorem Logs.start (tree : Tree) (time : String) : Logs tree none ⟨tree, time, none, []⟩ :=
  ⟨rfl, ⟨rfl, rfl⟩, fun l ↦ by simp⟩

theorem logs_open {time : String} {p : Path}
    (h : (⟨tree, time, none, []⟩ : Workspace).openLog p = .ok w) :
    Logs tree (tree.location? (Tree.normalPath p)) w := by
  rw [Workspace.openLog] at h
  cases hopen : tree.openFor (Tree.normalPath p) with
  | error fault =>
    rw [hopen] at h
    cases h
  | ok location =>
    rw [hopen] at h
    obtain rfl := Except.ok.inj h
    obtain ⟨hlocation, -⟩ := Tree.openFor_eq_ok_iff.mp hopen
    have hupdate := Tree.isUpdate_append tree location []
    refine ⟨hlocation.symm, hupdate.sameWays, fun l ↦ ?_⟩
    by_cases hl : l = location
    · subst hl
      rw [if_pos hlocation]
      exact hupdate.content?_self
    · have hne : ¬(tree.location? (Tree.normalPath p) = some l) := fun he ↦
        hl (Option.some.inj (he.symm.trans hlocation))
      rw [if_neg hne]
      exact hupdate.content?_of_ne l hl

theorem logs_openLog {time : String} (h : openLog o ⟨tree, time, none, []⟩ = .ok w) :
    Logs tree (logLocation? o tree) w := by
  rw [openLog] at h
  rw [logLocation?]
  generalize o.logFile.toOption.getD "" = name at h ⊢
  split at h
  · obtain rfl := Except.ok.inj h
    exact .start tree time
  · next hname =>
    rw [if_neg hname]
    exact logs_open h

theorem deliver_eq_ok {output : String} {said : CodePoints}
    (h : deliver o w code = .ok (output, said, w')) :
    o.output.toOption.getD "" = "" ∧ code.string? = some output ∧ w' = w ∨
      o.output.toOption.getD "" ≠ "" ∧ output = "" ∧
        (w.tree.writeText (outputPath o) code).1 = none ∧
        w' = { w with tree := (w.tree.writeText (outputPath o) code).2 } := by
  rw [deliver] at h
  split at h
  · next hname =>
    split at h
    · next text htext =>
      cases h
      exact .inl ⟨hname, htext, rfl⟩
    · cases h
  · next hname =>
    split at h
    · cases h
    · next written hwritten =>
      cases h
      exact .inr ⟨hname, rfl, by rw [hwritten], by rw [hwritten]⟩

theorem deliver_eq_error {fault : WriteFault} (h : deliver o w code = .error (fault, w'))
    (hfault : fault ≠ .encoding) :
    o.output.toOption.getD "" ≠ "" ∧ (w.tree.writeText (outputPath o) code).1 = some fault ∧
      w' = { w with tree := (w.tree.writeText (outputPath o) code).2 } := by
  rw [deliver] at h
  split at h
  · split at h
    · cases h
    · cases h
      exact absurd rfl hfault
  · next hname =>
    split at h
    · next fault written hwritten =>
      cases h
      exact ⟨hname, by rw [hwritten], by rw [hwritten]⟩
    · cases h

/-- How a run leaves the files: with the log alone, or with the output too, which breaks off unless
the run is successful. -/
inductive Leaves (limits : Limits) (tree : Tree) (o : Options) : Outcome → Prop where
  | logged {left : Outcome} (hlogs : Logs tree (logLocation? o tree) left.workspace)
      (hzero : left.exitCode = 0 → outputLocation? o tree = none)
      (hone : left.exitCode ≠ 0 → left.output = "") : Leaves limits tree o left
  | written {exitCode : Nat} {code : String} {diagnostics : CodePoints} {location : Location}
      {w : Workspace} {written : Tree} (hlogs : Logs tree (logLocation? o tree) w)
      (hlocation : outputLocation? o tree = some location) (hcode : IsGeneratedCode limits code)
      (hupdate : Tree.IsUpdate w.tree written location
        (tree.storage.taken location [] (Text.Utf8.encode code)))
      (hzero : exitCode = 0 ↔
        tree.storage.overflow? location (Text.Utf8.encode code).length = none) :
      Leaves limits tree o ⟨exitCode, "", diagnostics, { w with tree := written }⟩

section Leaves

variable (hlogs : Logs tree (logLocation? o tree) w) (hcode : IsGeneratedCode limits code)

include hlogs hcode

theorem leaves_written {exitCode : Nat} {text : String} {diagnostics : CodePoints}
    (hname : o.output.toOption.getD "" ≠ "") (hopen : w.tree.openFor (outputPath o) = .ok location)
    (htext : code.string? = some text)
    (hzero : exitCode = 0 ↔
      w.tree.storage.overflow? location (Text.Utf8.encode text).length = none) :
    Leaves limits tree o ⟨exitCode, "", diagnostics,
      { w with tree := (w.tree.writeText (outputPath o) code).2 }⟩ := by
  have hlocation := (Tree.openFor_eq_ok_iff.mp hopen).1
  have hupdate := Tree.isUpdate_writeText_of_string? hopen htext
  rw [hlogs.sameWays.storage_eq] at hupdate hzero
  rw [hlogs.sameWays.location?_eq] at hlocation
  obtain rfl := CodePoints.string?_eq_some_iff.mp htext
  exact .written hlogs ((if_neg hname).trans hlocation) hcode hupdate hzero

theorem leaves_deliver {output : String} {said more : CodePoints}
    (hd : deliver o w code = .ok (output, said, w')) :
    Leaves limits tree o ⟨0, output, more, w'⟩ := by
  rcases deliver_eq_ok hd with ⟨hname, -, rfl⟩ | ⟨hname, rfl, hwritten, rfl⟩
  · exact .logged hlogs (fun _ ↦ if_pos hname) fun h ↦ absurd rfl h
  · obtain ⟨location, text, hopen, htext, hroom⟩ := Tree.writeText_fst_eq_none_iff.mp hwritten
    exact leaves_written hlogs hcode hname hopen htext (iff_of_true rfl hroom)

theorem leaves_refuseOutput {fault : WriteFault} (hd : deliver o w code = .error (fault, w'))
    (h : refuseOutput o w' fault = .ok outcome) : Leaves limits tree o outcome := by
  cases fault with
  | encoding => cases h
  | opening fault =>
    obtain ⟨-, hwritten, rfl⟩ := deliver_eq_error hd (by simp)
    have hfailed : (w.tree.writeText (outputPath o) code).2 = w.tree := by
      cases hopen : w.tree.openFor (outputPath o) with
      | error fault => rw [Tree.writeText_of_error hopen]
      | ok location => cases hs : code.string? <;> simp [Tree.writeText, hopen, hs] at hwritten
    rw [hfailed] at h
    simp only [refuseOutput] at h
    split at h
    · cases h
      exact .logged hlogs (fun h ↦ absurd h Nat.one_ne_zero) fun _ ↦ rfl
    · cases h
  | filling error =>
    obtain ⟨hname, hwritten, rfl⟩ := deliver_eq_error hd (by simp)
    obtain ⟨location, text, hopen, htext, hroom⟩ := Tree.writeText_fst_eq_filling_iff.mp hwritten
    cases h
    exact leaves_written hlogs hcode hname hopen htext
      (iff_of_false Nat.one_ne_zero (by simp [hroom]))

end Leaves

theorem codeFrom?_eq_some_iff {s : Settings} {source : String} :
    codeFrom? limits s source = some code ↔
      ∃ r, generateFrom limits source none s = .ok r ∧ r.success = true ∧ r.code = code := by
  rw [codeFrom?, Option.bind_eq_some_iff]
  refine exists_congr fun r ↦ and_congr ⟨Source.eq_ok_of_toOption, fun h ↦ by rw [h]; rfl⟩ ?_
  split <;> simp_all

theorem isGeneratedCode_of_codeAsked? (h : codeAsked? host o w = some code) :
    IsGeneratedCode host.toLimits code := by
  obtain ⟨s, -, h⟩ := Option.bind_eq_some_iff.mp h
  obtain ⟨file, -, h⟩ := Option.bind_eq_some_iff.mp h
  obtain ⟨source, -, h⟩ := Option.bind_eq_some_iff.mp h
  obtain ⟨r, hr⟩ := codeFrom?_eq_some_iff.mp h
  exact ⟨source, s, r, hr⟩

theorem exists_ends {arguments : List String} {time : String}
    (hr : run host arguments time tree = .ok outcome) (hp : parse host arguments = .ok o) :
    ∃ w, Logs tree (logLocation? o tree) w ∧
      Ends o w (codeAsked? host o w) (.ok outcome) := by
  cases hopen : openLog o ⟨tree, time, none, []⟩ with
  | error fault =>
    simp only [run, hp, hopen] at hr
    cases hr
  | ok w => exact ⟨w, logs_openLog hopen, hr ▸ ends_run hp hopen⟩

theorem leaves_run {arguments : List String} {time : String}
    (hr : run host arguments time tree = .ok outcome) (hp : parse host arguments = .ok o) :
    Leaves host.toLimits tree o outcome := by
  obtain ⟨w, hlogs, hends⟩ := exists_ends hr hp
  generalize hasked : codeAsked? host o w = code? at hends
  generalize hresult : Except.ok outcome = result at hends
  cases hends with
  | crashed => cases hresult
  | refused =>
    cases hresult
    exact .logged (hlogs.logAll _) (fun h ↦ absurd h Nat.one_ne_zero) fun _ ↦ rfl
  | undelivered hd =>
    exact leaves_refuseOutput (hlogs.logAll _) (isGeneratedCode_of_codeAsked? hasked) hd hresult.symm
  | delivered hd =>
    cases hresult
    exact leaves_deliver (hlogs.logAll _) (isGeneratedCode_of_codeAsked? hasked) hd

/-- A location holds what it held, with the log behind it if the log is kept there. -/
def IsAsLogged (o : Options) (tree : Tree) (outcome : Outcome) (location : Location) : Prop :=
  outcome.workspace.tree.content? location =
    if logLocation? o tree = some location then
      some (withBytes tree location outcome.workspace.logBytes)
    else tree.content? location

/-- A location is where the output goes, and it holds as much of generated code as it has room for,
which is not all. -/
def IsBrokenOff (limits : Limits) (o : Options) (tree : Tree) (outcome : Outcome)
    (location : Location) : Prop :=
  outputLocation? o tree = some location ∧ ∃ (code : String) (error : SystemError),
    IsGeneratedCode limits code ∧
    tree.storage.overflow? location (Text.Utf8.encode code).length = some error ∧
    outcome.workspace.tree.content? location =
      some (tree.storage.taken location [] (Text.Utf8.encode code))

/-- What a run leaves at a location: the output if it is delivered there, else what there was, and
the log behind it if it is kept there. An output that is too long for its place breaks off. -/
def ContentAfter (limits : Limits) (o : Options) (tree : Tree) (outcome : Outcome)
    (location : Location) : Prop :=
  if outcome.exitCode = 0 ∧ outputLocation? o tree = some location then
    ∃ code : String, IsGeneratedCode limits code ∧
      outcome.workspace.tree.content? location = some (Text.Utf8.encode code)
  else IsAsLogged o tree outcome location ∨ IsBrokenOff limits o tree outcome location

theorem Logs.isAsLogged (h : Logs tree (logLocation? o tree) outcome.workspace)
    (location : Location) : IsAsLogged o tree outcome location := h.content?_eq location

theorem isAsLogged_of_isUpdate {exitCode : Nat} {output : String} {diagnostics : CodePoints}
    {written : Tree} {place : Location} {content : List UInt8}
    (hlogs : Logs tree (logLocation? o tree) w)
    (hupdate : Tree.IsUpdate w.tree written place content) (hne : location ≠ place) :
    IsAsLogged o tree ⟨exitCode, output, diagnostics, { w with tree := written }⟩ location :=
  (hupdate.content?_of_ne location hne).trans (hlogs.content?_eq location)

theorem Leaves.contentAfter (h : Leaves limits tree o outcome) (location : Location) :
    ContentAfter limits o tree outcome location := by
  rw [ContentAfter]
  cases h with
  | logged hlogs hzero =>
    have hnone : ¬(outcome.exitCode = 0 ∧ outputLocation? o tree = some location) := by
      rintro ⟨hexit, hsome⟩
      cases hsome.symm.trans (hzero hexit)
    rw [if_neg hnone]
    exact .inl (hlogs.isAsLogged location)
  | @written exitCode code diagnostics place w written hlogs hlocation hcode hupdate hzero =>
    by_cases hl : location = place
    · subst hl
      cases hroom : tree.storage.overflow? location (Text.Utf8.encode code).length with
      | none =>
        rw [if_pos ⟨hzero.mpr hroom, hlocation⟩]
        rw [Storage.taken_of_overflow? hroom] at hupdate
        exact ⟨code, hcode, hupdate.content?_self⟩
      | some error =>
        have hnonzero : exitCode ≠ 0 := fun hexit ↦ by simp [hroom] at hzero; exact hzero hexit
        rw [if_neg fun hboth ↦ hnonzero hboth.1]
        exact .inr ⟨hlocation, code, error, hcode, hroom, hupdate.content?_self⟩
    · have hne : ¬(outputLocation? o tree = some location) := fun he ↦
        hl (Option.some.inj (he.symm.trans hlocation))
      rw [if_neg fun hboth ↦ hne hboth.2]
      exact .inl (isAsLogged_of_isUpdate hlogs hupdate hl)

theorem Leaves.sameWays (h : Leaves limits tree o outcome) :
    Tree.SameWays outcome.workspace.tree tree := by
  cases h with
  | logged hlogs => exact hlogs.sameWays
  | written hlogs _ _ hupdate => exact hupdate.sameWays.trans hlogs.sameWays

/-- The source after a run. It stays as it is unless the log or the output goes to its place,
however their paths are spelled; then it has the log behind it or gives way to the output. -/
theorem run_source {arguments : List String} {time : String}
    (h : run host arguments time tree = .ok outcome) :
    match parse host arguments with
    | .error _ => outcome.workspace.tree = tree
    | .ok o => ∀ file location, o.file.toOption = some file →
      tree.location? (Path.ofString file) = some location →
        outcome.workspace.tree.location? (Path.ofString file) = some location ∧
          ContentAfter host.toLimits o tree outcome location := by
  cases hp : parse host arguments with
  | error stop =>
    simp only [run, hp] at h
    cases stop <;> exact congrArg (·.workspace.tree) (Except.ok.inj h).symm
  | ok o =>
    intro file location _ hlocation
    have hleaves := leaves_run h hp
    refine ⟨?_, hleaves.contentAfter location⟩
    rw [hleaves.sameWays.location?_eq]
    exact hlocation

def sourceTree : Tree where
  directories := []
  files := [(["A.java"], Text.Utf8.encode "class A \x7b\n    private int a;\n\x7d\n")]

theorem run_source_elsewhere : ∃ outcome,
    run .usual ["-f", "A.java", "-g", "-o", "./B.java"] "" sourceTree = .ok outcome ∧
      outcome.exitCode = 0 ∧
      outcome.workspace.tree.location? (Path.ofString "A.java") = some ["A.java"] ∧
      outcome.workspace.tree.content? ["A.java"] = sourceTree.content? ["A.java"] := by
  have hruns : (run .usual ["-f", "A.java", "-g", "-o", "./B.java"] "" sourceTree).toOption.any
      (fun outcome ↦ outcome.exitCode = 0) = true := by
    decide +kernel
  let o : Options :=
    { file := .given "A.java", getters := true, output := .given "./B.java" }
  have hparse : parse .usual ["-f", "A.java", "-g", "-o", "./B.java"] = .ok o :=
    Source.eq_ok_of_toOption (by decide +kernel)
  obtain ⟨outcome, hrun, hzero⟩ := Source.exists_eq_ok_of_any hruns
  have hsource := run_source hrun
  rw [hparse] at hsource
  obtain ⟨hlocation, hcontent⟩ := hsource "A.java" ["A.java"] rfl (by decide +kernel)
  have houtput : outputLocation? o sourceTree ≠ some ["A.java"] := by decide +kernel
  rw [ContentAfter, if_neg fun hboth ↦ houtput hboth.2] at hcontent
  have hlogged := hcontent.resolve_right fun hbroken ↦ houtput hbroken.1
  rw [IsAsLogged, if_neg nofun] at hlogged
  exact ⟨outcome, hrun, hzero, hlocation, hlogged⟩

/-- Nothing keeps the output away from the source. -/
theorem run_replaces_source : ∃ o outcome,
    parse .usual ["-f", "A.java", "-g", "-o", "A.java"] = .ok o ∧ o.file = .given "A.java" ∧
      sourceTree.location? (Path.ofString "A.java") = some ["A.java"] ∧
      run .usual ["-f", "A.java", "-g", "-o", "A.java"] "" sourceTree = .ok outcome ∧
      outcome.exitCode = 0 ∧
      outcome.workspace.tree.content? ["A.java"] ≠ sourceTree.content? ["A.java"] := by
  have hparse : (parse .usual ["-f", "A.java", "-g", "-o", "A.java"]).toOption.any
      (fun o ↦ o.file = .given "A.java") = true := by
    decide +kernel
  have hruns : (run .usual ["-f", "A.java", "-g", "-o", "A.java"] "" sourceTree).toOption.any
      (fun outcome ↦ outcome.exitCode = 0 ∧
        outcome.workspace.tree.content? ["A.java"] ≠ sourceTree.content? ["A.java"]) = true := by
    decide +kernel
  obtain ⟨o, ho, hfile⟩ := Source.exists_eq_ok_of_any hparse
  obtain ⟨outcome, hrun, hzero, hcontent⟩ := Source.exists_eq_ok_of_any hruns
  exact ⟨o, outcome, ho, hfile, by decide +kernel, hrun, hzero, hcontent⟩

def fullTree (room : Nat) : Tree :=
  { sourceTree with storage := { room := fun _ ↦ some (room, ⟨28, "No space left on device", false⟩) } }

end Boilerplate.CommandLine
