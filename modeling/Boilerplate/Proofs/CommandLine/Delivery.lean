import Boilerplate.Proofs.CommandLine.FileContents
import Boilerplate.Proofs.Settings.Layers

namespace Boilerplate

open Files
open Text (CodePoints)

variable {tree tree' : Tree} {p : Path}

section Lookup

variable (h : (tree.locate p).settled = (tree'.locate p).settled) (hs : tree.storage = tree'.storage)

include h hs

theorem Files.SourceFile.load_congr : SourceFile.load tree p = SourceFile.load tree' p := by
  rw [SourceFile.load, SourceFile.load, hs]
  rcases Place.eq_or_isBarred_of_settled h with heq | ⟨hp | hp, hp' | hp'⟩
  · rw [heq]
  all_goals simp only [hp, hp']

theorem Settings.loadFile_congr (limits : Limits) :
    loadFile limits tree p = loadFile limits tree' p := by
  rw [loadFile, loadFile, Tree.exists?, Tree.exists?, Tree.readText, Tree.readText, hs]
  rcases Place.eq_or_isBarred_of_settled h with heq | ⟨hp | hp, hp' | hp'⟩
  · rw [heq]
  all_goals simp only [hp, hp']

end Lookup

theorem Settings.load_congr {limits : Limits} {file : String}
    (defaults custom : List (CodePoints × Json)) (hs : tree.storage = tree'.storage)
    (h : file ≠ "" → (tree.locate (.ofString file)).settled = (tree'.locate (.ofString file)).settled) :
    load limits tree defaults file custom = load limits tree' defaults file custom := by
  rw [load, load]
  split
  · rfl
  · next hfile => simp only [loadFile_congr (h hfile) hs]

namespace CommandLine

variable {host : Host} {limits : Limits} {o o' : Options} {w w' : Workspace} {outcome : Outcome}
  {code : CodePoints} {logFile : Option Location}

/-- The code that the library gives for what the options name. -/
def Generates (limits : Limits) (o : Options) (tree : Tree) (code : CodePoints) : Prop :=
  ∃ s file source r,
    (Settings.load limits tree [] (o.config.toOption.getD "") o.overrides).1 = .ok s ∧
      o.file.toOption = some file ∧ (SourceFile.load tree (.ofString file)).1 = .ok source ∧
      generateFrom limits source none s = .ok r ∧ r.success = true ∧ r.code = code

/-- Whether a text can be written where the options want the code. -/
def HasPlace (o : Options) (tree : Tree) (text : String) : Prop :=
  o.output.toOption.getD "" = "" ∨ ∃ location, tree.openFor (outputPath o) = .ok location ∧
    tree.storage.overflow? location (Text.Utf8.encode text).length = none

/-- The code is all that is printed, or it is all that a file holds and nothing is printed. -/
def Delivers (o : Options) (outcome : Outcome) (text : String) : Prop :=
  if o.output.toOption.getD "" = "" then outcome.output = text
  else outcome.output = "" ∧ ∃ location,
    outcome.workspace.tree.locate (outputPath o) = .file location (Text.Utf8.encode text)

/-- The log can be kept, and in none of the files that a run reads or delivers. -/
structure LogApart (o : Options) (tree : Tree) : Prop where
  opens : let name := o.logFile.toOption.getD ""
    name = "" ∨ ∃ location, tree.openFor (Tree.normalPath (.ofString name)) = .ok location
  apart : ∀ name ∈ [o.file, o.config, o.output].filterMap Value.toOption, ∀ location,
    tree.location? (.ofString name) = some location → logLocation? o tree ≠ some location

/-- The options ask for the same code and want it in the same place. -/
def SameDelivery (o o' : Options) : Prop :=
  o = { o' with verbose := o.verbose, pretty := o.pretty, logFile := o.logFile }

theorem Generates.unique {code' : CodePoints} (h : Generates limits o tree code)
    (h' : Generates limits o tree code') : code = code' := by
  obtain ⟨s, file, source, r, hs, hfile, hsource, hr, -, rfl⟩ := h
  obtain ⟨s', file', source', r', hs', hfile', hsource', hr', -, rfl⟩ := h'
  obtain rfl : s = s' := Except.ok.inj (hs.symm.trans hs')
  obtain rfl : file = file' := Option.some.inj (hfile.symm.trans hfile')
  obtain rfl : source = source' := Except.ok.inj (hsource.symm.trans hsource')
  obtain rfl : r = r' := Except.ok.inj (hr.symm.trans hr')
  rfl

theorem SameDelivery.generates_iff (h : SameDelivery o o') :
    Generates limits o tree code ↔ Generates limits o' tree code := by
  rw [h]
  rfl

theorem SameDelivery.hasPlace_iff (h : SameDelivery o o') {text : String} :
    HasPlace o tree text ↔ HasPlace o' tree text := by
  rw [h]
  rfl

theorem LogApart.exists_openLog (h : LogApart o tree) (time : String) :
    ∃ w, openLog o ⟨tree, time, none, []⟩ = .ok w := by
  have hopens := h.opens
  rw [openLog]
  generalize o.logFile.toOption.getD "" = name at hopens ⊢
  split
  · exact ⟨_, rfl⟩
  · next hname =>
    obtain ⟨location, hlocation⟩ := hopens.resolve_left hname
    rw [Workspace.openLog, hlocation]
    exact ⟨_, rfl⟩

theorem Logs.settled_locate (h : Logs tree logFile w)
    (hapart : ∀ location, tree.location? p = some location → logFile ≠ some location) :
    (w.tree.locate p).settled = (tree.locate p).settled := by
  refine (h.sameWays.symm.settled_locate fun location hlocation ↦ ?_).symm
  rw [h.content?_eq, if_neg (hapart location hlocation)]

theorem codeAsked?_eq_some_iff (h : LogApart o tree) (hlogs : Logs tree (logLocation? o tree) w) :
    codeAsked? host o w = some code ↔ Generates host.toLimits o tree code := by
  have hsettings : (loadSettings host o w).1 =
      (Settings.load host.toLimits tree [] (o.config.toOption.getD "") o.overrides).1 := by
    refine congrArg (·.1) (Settings.load_congr [] o.overrides hlogs.sameWays.storage_eq fun hname ↦ ?_)
    cases hconfig : o.config.toOption with
    | none => exact absurd (by rw [hconfig]; rfl) hname
    | some name => exact hlogs.settled_locate (h.apart name (by simp [hconfig]))
  have hsource (file : String) (hfile : o.file.toOption = some file) :
      readSource (loadSettings host o w).2 file = (SourceFile.load tree (.ofString file)).1 := by
    have hread := (hlogs.logAll (Settings.load host.toLimits w.tree [] (o.config.toOption.getD "")
      o.overrides).2).logAll (SourceFile.recordsBefore (loadSettings host o w).2.tree (.ofString file))
    exact congrArg (·.1) (SourceFile.load_congr
      (hread.settled_locate (h.apart file (by simp [hfile]))) hread.sameWays.storage_eq)
  simp only [codeAsked?, Option.bind_eq_some_iff, hsettings, codeFrom?_eq_some_iff]
  constructor
  · rintro ⟨s, hs, file, hfile, source, hload, r, hr⟩
    rw [hsource file hfile] at hload
    exact ⟨s, file, source, r, Source.eq_ok_of_toOption hs, hfile, Source.eq_ok_of_toOption hload, hr⟩
  · rintro ⟨s, file, source, r, hs, hfile, hload, hr⟩
    refine ⟨s, by rw [hs]; rfl, file, hfile, source, ?_, r, hr⟩
    rw [hsource file hfile, hload]
    rfl

theorem exists_deliver_iff (h : Logs tree logFile w) :
    (∃ delivered, deliver o w code = .ok delivered) ↔
      ∃ text : String, code.string? = some text ∧ HasPlace o tree text := by
  rw [deliver]
  simp only [HasPlace, ← h.sameWays.openFor_eq_ok_iff, ← h.sameWays.storage_eq]
  split
  · next hname => cases code.string? <;> simp [hname]
  · next hname =>
    simp only [hname, false_or]
    have hwritten := @Tree.writeText_fst_eq_none_iff w.tree (outputPath o) code
    generalize w.tree.writeText (outputPath o) code = result at hwritten ⊢
    obtain ⟨fault?, written⟩ := result
    cases fault? with
    | none =>
      obtain ⟨location, text, hopen, htext, hroom⟩ := hwritten.mp rfl
      exact iff_of_true ⟨_, rfl⟩ ⟨text, htext, location, hopen, hroom⟩
    | some fault =>
      constructor
      · rintro ⟨delivered, h⟩
        cases h
      · rintro ⟨text, htext, location, hopen, hroom⟩
        cases hwritten.mpr ⟨location, text, hopen, htext, hroom⟩

theorem delivers_of_deliver {output : String} {said more : CodePoints}
    (h : deliver o w code = .ok (output, said, w')) :
    ∃ text : String, code.string? = some text ∧ Delivers o ⟨0, output, more, w'⟩ text := by
  rcases deliver_eq_ok h with ⟨hname, htext, -⟩ | ⟨hname, rfl, hwritten, rfl⟩
  · exact ⟨output, htext, by rw [Delivers, if_pos hname]⟩
  · obtain ⟨location, text, hopen, htext, hroom⟩ := Tree.writeText_fst_eq_none_iff.mp hwritten
    have hupdate := Tree.isUpdate_writeText_of_string? hopen htext
    rw [Storage.taken_of_overflow? hroom] at hupdate
    refine ⟨text, htext, ?_⟩
    rw [Delivers, if_neg hname]
    exact ⟨rfl, location, hupdate.locate (Tree.openFor_eq_ok_iff.mp hopen).1⟩

variable {arguments : List String}

theorem exitCode_ne_zero_of_refuseOutput {fault : WriteFault}
    (h : refuseOutput o w fault = .ok outcome) : outcome.exitCode ≠ 0 := by
  cases fault with
  | encoding => cases h
  | opening fault =>
    simp only [refuseOutput] at h
    split at h
    · cases h
      exact Nat.one_ne_zero
    · cases h
  | filling error =>
    cases h
    exact Nat.one_ne_zero

/-- How a run ends whose log is apart, told from what the options name in the tree as it was. -/
theorem run_cases (time : String) (hp : parse host arguments = .ok o) (hlog : LogApart o tree) :
    (∃ outcome, ∃ text : String, run host arguments time tree = .ok outcome ∧
      outcome.exitCode = 0 ∧ Generates host.toLimits o tree text ∧ HasPlace o tree text ∧
      Delivers o outcome text) ∨
    (∀ text : String, Generates host.toLimits o tree text → ¬HasPlace o tree text) ∧
      ∀ outcome, run host arguments time tree = .ok outcome → outcome.exitCode ≠ 0 := by
  obtain ⟨w, hw⟩ := hlog.exists_openLog time
  have hlogs := logs_openLog hw
  have hends := ends_run hp hw
  have hasked (code : CodePoints) :
      codeAsked? host o w = some code ↔ Generates host.toLimits o tree code :=
    codeAsked?_eq_some_iff hlog hlogs
  generalize codeAsked? host o w = code? at hends hasked
  generalize run host arguments time tree = result at hends ⊢
  have hnone (h : code? = none) (text : String) (hg : Generates host.toLimits o tree text) :
      ¬HasPlace o tree text := nomatch h.symm.trans ((hasked text).mpr hg)
  cases hends with
  | crashed => exact .inr ⟨hnone rfl, nofun⟩
  | refused => exact .inr ⟨hnone rfl, fun outcome ho ↦ Except.ok.inj ho ▸ Nat.one_ne_zero⟩
  | @undelivered records code fault w' hd =>
    refine .inr ⟨fun text hg hplace ↦ ?_, fun outcome ho ↦ exitCode_ne_zero_of_refuseOutput ho⟩
    obtain rfl := Option.some.inj ((hasked text).mpr hg)
    obtain ⟨delivered, hok⟩ := (exists_deliver_iff (hlogs.logAll records)).mpr
      ⟨text, CodePoints.string?_ofString text, hplace⟩
    exact nomatch hd.symm.trans hok
  | @delivered records code said more output w' hd =>
    obtain ⟨text, htext, hplace⟩ := (exists_deliver_iff (hlogs.logAll records)).mp ⟨_, hd⟩
    obtain ⟨text', htext', hdelivers⟩ := delivers_of_deliver hd
    obtain rfl := Option.some.inj (htext.symm.trans htext')
    obtain rfl := CodePoints.string?_eq_some_iff.mp htext
    exact .inl ⟨_, text, rfl, rfl, (hasked _).mp rfl, hplace, hdelivers⟩

theorem run_eq_encoding (time : String) (hp : parse host arguments = .ok o)
    (hlog : LogApart o tree) (hg : Generates host.toLimits o tree code) (hcode : code.string? = none)
    (hopen : o.output.toOption.getD "" = "" ∨
      ∃ location, tree.openFor (outputPath o) = .ok location) :
    ∃ left, run host arguments time tree = .error (.encoding left) := by
  obtain ⟨w, hw⟩ := hlog.exists_openLog time
  have hlogs := logs_openLog hw
  have hends := ends_run hp hw
  rw [(codeAsked?_eq_some_iff hlog hlogs).mpr hg] at hends
  have hdeliver (records : List Log.Record) :
      ∃ left, deliver o (w.logAll records) code = .error (.encoding, left) := by
    rw [deliver]
    split
    · exact ⟨_, by rw [hcode]⟩
    · next hname =>
      obtain ⟨location, hlocation⟩ := hopen.resolve_left hname
      rw [← (hlogs.logAll records).sameWays.openFor_eq_ok_iff] at hlocation
      rw [Tree.writeText, hlocation]
      simp only [hcode]
      exact ⟨_, rfl⟩
  generalize run host arguments time tree = result at hends ⊢
  cases hends with
  | @undelivered records _ fault w' hd =>
    obtain ⟨left, hleft⟩ := hdeliver records
    cases hleft.symm.trans hd
    exact ⟨_, rfl⟩
  | @delivered records _ _ _ _ _ hd =>
    obtain ⟨left, hleft⟩ := hdeliver records
    cases hleft.symm.trans hd

/-- A run delivers what the library gives for the source and the settings that its options name,
and it does so exactly if the library gives code that bytes stand for and there is a place for it.
Code that holds surrogates makes a run crash. What is shown or logged besides makes no difference. -/
theorem run_delivers (time : String) (hp : parse host arguments = .ok o) (hlog : LogApart o tree) :
    (∀ outcome, run host arguments time tree = .ok outcome → outcome.exitCode = 0 →
      ∃ text : String, Generates host.toLimits o tree text ∧ Delivers o outcome text) ∧
    ((∃ outcome, run host arguments time tree = .ok outcome ∧ outcome.exitCode = 0) ↔
      ∃ text : String, Generates host.toLimits o tree text ∧ HasPlace o tree text) ∧
    (∀ code, Generates host.toLimits o tree code → code.string? = none →
      (o.output.toOption.getD "" = "" ∨ ∃ location, tree.openFor (outputPath o) = .ok location) →
      ∃ left, run host arguments time tree = .error (.encoding left)) ∧
    ∀ arguments' time' o', parse host arguments' = .ok o' → SameDelivery o o' → LogApart o' tree →
      ∀ outcome, run host arguments time tree = .ok outcome → outcome.exitCode = 0 →
        ∃ outcome', ∃ text : String, run host arguments' time' tree = .ok outcome' ∧
          outcome'.exitCode = 0 ∧ Delivers o outcome text ∧ Delivers o' outcome' text := by
  have hends := run_cases time hp hlog
  have hsucceeds {outcome : Outcome} (hr : run host arguments time tree = .ok outcome)
      (hzero : outcome.exitCode = 0) : ∃ text : String,
        Generates host.toLimits o tree text ∧ HasPlace o tree text ∧ Delivers o outcome text := by
    rcases hends with ⟨outcome', text, hr', -, hdelivers⟩ | ⟨-, hfails⟩
    · obtain rfl : outcome' = outcome := Except.ok.inj (hr'.symm.trans hr)
      exact ⟨text, hdelivers⟩
    · exact absurd hzero (hfails outcome hr)
  refine ⟨?_, ⟨?_, ?_⟩, fun code hg hcode hopen ↦ run_eq_encoding time hp hlog hg hcode hopen, ?_⟩
  · intro outcome hr hzero
    obtain ⟨text, hg, -, hdelivers⟩ := hsucceeds hr hzero
    exact ⟨text, hg, hdelivers⟩
  · rintro ⟨outcome, hr, hzero⟩
    obtain ⟨text, hg, hplace, -⟩ := hsucceeds hr hzero
    exact ⟨text, hg, hplace⟩
  · rintro ⟨text, hg, hplace⟩
    rcases hends with ⟨outcome, -, hr, hzero, -⟩ | ⟨hnone, -⟩
    · exact ⟨outcome, hr, hzero⟩
    · exact absurd hplace (hnone text hg)
  · intro arguments' time' o' hp' hsame hlog' outcome hr hzero
    obtain ⟨text, hg, hplace, hdelivers⟩ := hsucceeds hr hzero
    rw [hsame.generates_iff] at hg
    rw [hsame.hasPlace_iff] at hplace
    rcases run_cases time' hp' hlog' with
      ⟨outcome', text', hr', hzero', hg', -, hdelivers'⟩ | ⟨hnone, -⟩
    · obtain rfl := CodePoints.ofString_injective (hg.unique hg')
      exact ⟨outcome', text, hr', hzero', hdelivers, hdelivers'⟩
    · exact absurd hplace (hnone text hg)

theorem run_delivers_logged :
    let host := Host.usual
    let arguments := ["-f", "A.java", "-g", "--log-file", "run.log"]
    let arguments' := ["--verbose", "--pretty", "-gfA.java"]
    ∃ o o' outcome outcome', parse host arguments = .ok o ∧ parse host arguments' = .ok o' ∧
      LogApart o sourceTree ∧ LogApart o' sourceTree ∧ SameDelivery o o' ∧
      run host arguments "" sourceTree = .ok outcome ∧ outcome.exitCode = 0 ∧
      run host arguments' "" sourceTree = .ok outcome' ∧ outcome'.exitCode = 0 ∧
      Generates host.toLimits o sourceTree outcome.output ∧ outcome'.output = outcome.output ∧
      outcome'.diagnostics ≠ outcome.diagnostics := by
  intro host arguments arguments'
  let o : Options := { file := .given "A.java", getters := true, logFile := .given "run.log" }
  let o' : Options := { file := .given "A.java", getters := true, verbose := true, pretty := true }
  have hp : parse host arguments = .ok o := Source.eq_ok_of_toOption (by decide +kernel)
  have hp' : parse host arguments' = .ok o' := Source.eq_ok_of_toOption (by decide +kernel)
  have hlog : LogApart o sourceTree := by
    refine ⟨.inr ⟨["run.log"], Source.eq_ok_of_toOption (by decide +kernel)⟩, ?_⟩
    intro name hname location hlocation hlog
    obtain rfl : name = "A.java" := by simpa [o, Value.toOption] using hname
    have hsource : sourceTree.location? (.ofString "A.java") ≠ logLocation? o sourceTree := by
      decide +kernel
    exact hsource (hlocation.trans hlog.symm)
  have hlog' : LogApart o' sourceTree := ⟨.inl rfl, fun _ _ _ _ ↦ nofun⟩
  have hruns : (run host arguments "" sourceTree).toOption.any (·.exitCode = 0) = true := by
    decide +kernel
  obtain ⟨outcome, hr, hzero⟩ := Source.exists_eq_ok_of_any hruns
  obtain ⟨hcode, -, -, hsame⟩ := run_delivers "" hp hlog
  obtain ⟨text, hg, hdelivers⟩ := hcode outcome hr hzero
  obtain ⟨outcome', text', hr', hzero', hdelivers', hshown⟩ :=
    hsame arguments' "" o' hp' rfl hlog' outcome hr hzero
  have houtput : outcome.output = text := hdelivers
  have houtput' : outcome.output = text' := hdelivers'
  have hdiagnostics : (run host arguments "" sourceTree).toOption.map (·.diagnostics) ≠
      (run host arguments' "" sourceTree).toOption.map (·.diagnostics) := by
    decide +kernel
  rw [hr, hr'] at hdiagnostics
  exact ⟨o, o', outcome, outcome', hp, hp', hlog, hlog', rfl, hr, hzero, hr', hzero',
    houtput ▸ hg, Eq.trans hshown houtput'.symm, fun h ↦ hdiagnostics (congrArg some h.symm)⟩

def surrogateText : String := "\x7b\"var_prefix\": \"\\ud800\"\x7d"

def surrogateMembers : List (CodePoints × Json) := [("var_prefix", .string [0xD800])]

def surrogateTree : Tree :=
  { sourceTree with
    files := sourceTree.files ++ [(["c.json"], Text.Utf8.encode surrogateText)] }

theorem surrogateTree_holds :
    Settings.FileHolds .usual surrogateTree "c.json" surrogateMembers := by
  have htext : (surrogateTree.readText (.ofString "c.json")).toOption.any
      (fun decoded ↦ decide (decoded.toOption = some surrogateText)) = true := by
    decide +kernel
  obtain ⟨decoded, hopened, hdecoded⟩ := Source.exists_eq_ok_of_any htext
  rw [Source.eq_ok_of_toOption hdecoded] at hopened
  rw [Settings.FileHolds, if_neg (by decide)]
  exact Settings.loadFile_eq_ok_iff.mpr
    ⟨by decide +kernel, by decide +kernel, surrogateText, hopened, by cbv⟩

/-- Source and settings are there, the library gives code, and anything can be written to the
output; but the code names the prefix, and bytes stand for no surrogate. -/
theorem run_crashes_on_surrogates :
    let host := Host.usual
    let arguments := ["-f", "A.java", "-g", "--config", "c.json", "-o", "out.txt"]
    ∃ o code, parse host arguments = .ok o ∧ LogApart o surrogateTree ∧
      Generates host.toLimits o surrogateTree code ∧ (∀ text, HasPlace o surrogateTree text) ∧
      ∀ outcome, run host arguments "" surrogateTree ≠ .ok outcome := by
  intro host arguments
  let o : Options :=
    { file := .given "A.java"
      getters := true
      config := .given "c.json"
      output := .given "out.txt" }
  let s : Settings :=
    { Settings.default with naming := ⟨[0xD800], "is"⟩, getters := .bool true }
  let source := "class A \x7b\n    private int a;\n\x7d\n"
  have hp : parse host arguments = .ok o := Source.eq_ok_of_toOption (by decide +kernel)
  have hlog : LogApart o surrogateTree := ⟨.inl rfl, fun _ _ _ _ ↦ nofun⟩
  have hopen : surrogateTree.openFor (outputPath o) = .ok ["out.txt"] :=
    Source.eq_ok_of_toOption (by decide +kernel)
  have hload : Settings.load host.toLimits surrogateTree [] "c.json" o.overrides = (.ok s, _) :=
    Settings.load_eq_ok_iff.mpr ⟨_, surrogateTree_holds, rfl, rfl⟩
  have hsource : (SourceFile.load surrogateTree (.ofString "A.java")).1 = .ok source :=
    Source.eq_ok_of_toOption (by decide +kernel)
  have hgenerates : (generateFrom host.toLimits source none s).toOption.any
      (fun r ↦ r.success = true ∧ r.code.string? = none) = true := by
    decide +kernel
  obtain ⟨r, hr, hsuccess, hcode⟩ := Source.exists_eq_ok_of_any hgenerates
  have hg : Generates host.toLimits o surrogateTree r.code :=
    ⟨s, "A.java", source, r, congrArg (·.1) hload, rfl, hsource, hr, hsuccess, rfl⟩
  obtain ⟨left, hcrash⟩ := run_eq_encoding "" hp hlog hg hcode (.inr ⟨_, hopen⟩)
  refine ⟨o, r.code, hp, hlog, hg, fun text ↦ .inr ⟨_, hopen, rfl⟩, fun outcome ho ↦ ?_⟩
  exact nomatch hcrash.symm.trans ho

end CommandLine

end Boilerplate
