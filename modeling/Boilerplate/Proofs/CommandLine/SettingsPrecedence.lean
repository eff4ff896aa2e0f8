import Boilerplate.CommandLine.Run
import Boilerplate.Proofs.CommandLine.GivenOptions
import Boilerplate.Proofs.Settings.Layers
import Boilerplate.Proofs.Source.TokenForm

namespace Boilerplate.CommandLine

open Json Files
open Text (CodePoints)

theorem loadSettings_fst (host : Host) (o : Options) (w : Workspace) :
    (loadSettings host o w).1 =
      (Settings.load host.toLimits w.tree [] (o.config.toOption.getD "") o.overrides).1 := rfl

/-- Settings are taken from the topmost layer that has them. Other names in the layers leave the
settings alone, and each draws one warning. The options of a run are the topmost layer: the last
option for a setting decides, and a setting without one is as the file has it. -/
theorem settings_precedence :
    (∀ limits t defaults file custom s logged, IsObject defaults → IsObject custom →
      Settings.load limits t defaults file custom = (.ok s, logged) →
      ∃ members, Settings.FileHolds limits t file members ∧
        s.entries = Settings.builtIn.map (fun (name, value) ↦
          (name, ([custom, members, defaults].findSome? (member? name)).getD value)) ∧
        Settings.ofMerged (Settings.merge ([defaults, members, custom].map Settings.known)) =
          .ok s ∧
        (Settings.unknownNames [defaults, members, custom]).Nodup ∧
        logged = Settings.fileRecords file ++
          (Settings.unknownNames [defaults, members, custom]).map Settings.unknownRecord) ∧
    ∀ (host : Host) arguments o w s, parse host arguments = .ok o →
      (loadSettings host o w).1 = .ok s →
      ∃ members,
        Settings.FileHolds host.toLimits w.tree (o.config.toOption.getD "") members ∧
        ∀ name value, (name, value) ∈ Settings.builtIn →
          member? name s.entries =
            match Options.lastFor? name (given host.edition arguments) with
            | some (key, text) => key.value? host text
            | none => some ((member? name members).getD value) := by
  constructor
  · intro limits t defaults file custom s logged hdefaults hcustom h
    obtain ⟨members, hfile, hs, hlogged⟩ := Settings.load_eq_ok_iff.mp h
    have hlayers : ∀ layer ∈ [defaults, members, custom], IsObject layer := by
      simp [hdefaults, hcustom, hfile.isObject]
    exact ⟨members, hfile, Settings.entries_of_merge hlayers hs,
      (Settings.ofMerged_known hlayers).trans hs, Settings.nodup_unknownNames _, hlogged⟩
  · intro host arguments o w s hp h
    have hload : Settings.load host.toLimits w.tree [] (o.config.toOption.getD "") o.overrides =
        (.ok s, (Settings.load host.toLimits w.tree [] (o.config.toOption.getD "") o.overrides).2) :=
      Prod.ext ((loadSettings_fst host o w).symm.trans h) rfl
    obtain ⟨members, hfile, hs, -⟩ := Settings.load_eq_ok_iff.mp hload
    have hlayers : ∀ layer ∈ [[], members, o.overrides], IsObject layer := by
      simp [isObject_nil, hfile.isObject, Options.isObject_overrides]
    refine ⟨members, hfile, fun name value hmem ↦ ?_⟩
    obtain ⟨hasked, hmeant⟩ := Options.member?_overrides_of_parse hp name
    have hentry : member? name s.entries =
        some (([o.overrides, members, []].findSome? (member? name)).getD value) :=
      Settings.member?_entries hlayers hs hmem
    rw [hentry, List.findSome?_cons, hasked]
    cases hlast : Options.lastFor? name (given host.edition arguments) with
    | none =>
      simp only [List.findSome?_cons, List.findSome?_nil, member?_nil]
      cases member? name members <;> rfl
    | some last =>
      obtain ⟨asked, hvalue⟩ := Option.isSome_iff_exists.mp (hmeant _ _ hlast)
      simp only [hvalue]
      rfl

def settingsText : String := "\x7b\"boolean_prefix\": \"get\", \"tabs\": \"\", \"var_prefix\": \"a_\"\x7d"

def settingsMembers : List (CodePoints × Json) :=
  [("boolean_prefix", .string "get"), ("tabs", .string ""), ("var_prefix", .string "a_")]

def settingsTree : Tree where
  directories := []
  files := [(["a.json"], Text.Utf8.encode settingsText)]

theorem settingsTree_holds :
    Settings.FileHolds .usual settingsTree "a.json" settingsMembers := by
  have htext : (settingsTree.readText (.ofString "a.json")).toOption.any
      (fun decoded ↦ decide (decoded.toOption = some settingsText)) = true := by
    decide +kernel
  obtain ⟨decoded, hopened, hdecoded⟩ := Source.exists_eq_ok_of_any htext
  rw [Source.eq_ok_of_toOption hdecoded] at hopened
  rw [Settings.FileHolds, if_neg (by decide)]
  exact Settings.loadFile_eq_ok_iff.mpr
    ⟨by decide +kernel, by decide +kernel, settingsText, hopened, by cbv⟩

/-- An option given twice, a value in the file and in the defaults, and names that are no
setting's. -/
theorem settings_precedence_sample :
    let defaults : List (CodePoints × Json) := [("setters", .bool true), ("width", .null)]
    let custom : List (CodePoints × Json) := [("var_prefix", .string "b_"), ("tabs", .null)]
    let entries : List (CodePoints × Json) :=
      [("var_prefix", .string "b_"), ("boolean_prefix", .string "get"),
        ("hash_multiplier", .integer 31), ("getters", .bool false), ("setters", .bool true),
        ("copy_constructor", .bool false), ("equals_hash", .bool false),
        ("indent_size", .integer 4), ("add_comments", .bool true),
        ("immutable_types",
          .array (TypeKind.defaultImmutables.map fun name ↦ .string (.ofString name)))]
    let messages : List CodePoints :=
      ["Loaded configuration file a.json", "Ignoring unknown configuration key: width",
        "Ignoring unknown configuration key: tabs"]
    let host := Host.usual
    let arguments := ["-fA.java", "--config", "a.json", "-pm_", "-pn_"]
    let w : Workspace := ⟨settingsTree, "", none, []⟩
    (∃ s logged,
      Settings.load .usual settingsTree defaults "a.json" custom = (.ok s, logged) ∧
      s.entries = entries ∧ logged.map (·.message) = messages) ∧
    ∃ o s,
      parse host arguments = .ok o ∧ (loadSettings host o w).1 = .ok s ∧
      member? "var_prefix" s.entries = some (.string "n_") ∧
      member? "boolean_prefix" s.entries = some (.string "get") ∧
      member? "setters" s.entries = some (.bool false) := by
  intro defaults custom entries messages host arguments w
  have hunique {members : List (CodePoints × Json)}
      (h : Settings.FileHolds .usual settingsTree "a.json" members) :
      members = settingsMembers :=
    Except.ok.inj (h.symm.trans settingsTree_holds)
  constructor
  · have hload : Settings.load .usual settingsTree defaults "a.json" custom = (.ok _, _) :=
      Settings.load_eq_ok_iff.mpr ⟨_, settingsTree_holds, rfl, rfl⟩
    obtain ⟨members, hfile, hentries, -, -, hlogged⟩ :=
      settings_precedence.1 .usual settingsTree defaults "a.json" custom _ _ (by decide)
        (by decide) hload
    obtain rfl := hunique hfile
    exact ⟨_, _, hload, hentries, by rw [hlogged]; decide⟩
  · let o : Options :=
      { file := .given "A.java", config := .given "a.json", variablePrefix := .given "n_" }
    have hp : parse host arguments = .ok o := Source.eq_ok_of_toOption (by decide +kernel)
    have hload : Settings.load .usual settingsTree [] "a.json" o.overrides = (.ok _, _) :=
      Settings.load_eq_ok_iff.mpr ⟨_, settingsTree_holds, rfl, rfl⟩
    have hrun : (loadSettings host o w).1 = .ok _ :=
      (loadSettings_fst host o w).trans (congrArg (·.1) hload)
    obtain ⟨members, hfile, hvalues⟩ := settings_precedence.2 host arguments o w _ hp hrun
    obtain rfl := hunique hfile
    have hprefix : Options.lastFor? "var_prefix" (given host.edition arguments) =
        some (.variablePrefix, ['n', '_']) := by
      decide +kernel
    have hboolean : Options.lastFor? "boolean_prefix" (given host.edition arguments) = none := by
      decide +kernel
    have hsetters : Options.lastFor? "setters" (given host.edition arguments) = none := by
      decide +kernel
    refine ⟨o, _, hp, hrun, ?_, ?_, ?_⟩
    · rw [hvalues "var_prefix" (.string "") (by simp [Settings.builtIn]), hprefix]
      rfl
    · rw [hvalues "boolean_prefix" (.string "is") (by simp [Settings.builtIn]), hboolean]
      rfl
    · rw [hvalues "setters" (.bool false) (by simp [Settings.builtIn]), hsetters]
      rfl

end Boilerplate.CommandLine
