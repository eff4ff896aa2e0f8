import Boilerplate.Proofs.Json.Members
import Boilerplate.Settings.Load

namespace Boilerplate

open Text (CodePoints)

namespace Json

variable {name : CodePoints} {value : Json} {base : List (CodePoints × Json)}
  {layers : List (List (CodePoints × Json))}

theorem member?_foldl_overlay (h : ∀ layer ∈ layers, IsObject layer) :
    member? name (layers.foldl overlay base) =
      (layers.reverse.findSome? (member? name)).or (member? name base) := by
  induction layers generalizing base with
  | nil => rfl
  | cons layer above ih =>
    obtain ⟨hlayer, habove⟩ := List.forall_mem_cons.mp h
    rw [List.foldl_cons, ih habove, member?_overlay hlayer, List.reverse_cons,
      List.findSome?_append, Option.or_assoc]
    simp

theorem names_foldl_overlay {mentioned : List CodePoints} (h : names base = mentioned.eraseDups) :
    names (layers.foldl overlay base) = (mentioned ++ layers.flatMap names).eraseDups := by
  induction layers generalizing base mentioned with
  | nil => simpa using h
  | cons layer above ih =>
    rw [List.foldl_cons, ih (names_overlay h layer), List.flatMap_cons, List.append_assoc]

theorem member?_filter {wanted : CodePoints → Bool} (h : wanted name = true)
    (members : List (CodePoints × Json)) :
    member? name (members.filter (wanted ·.1)) = member? name members := by
  induction members with
  | nil => rfl
  | cons head rest ih =>
    obtain ⟨other, value⟩ := head
    rw [List.filter_cons, member?_cons]
    by_cases hname : other = name
    · subst hname
      rw [if_pos h, member?_cons, if_pos rfl, if_pos rfl]
    · rw [if_neg hname]
      split
      · rw [member?_cons, if_neg hname, ih]
      · exact ih

theorem IsObject.filter {members : List (CodePoints × Json)} (h : IsObject members)
    (wanted : CodePoints → Bool) : IsObject (members.filter (wanted ·.1)) :=
  List.Nodup.sublist (List.filter_sublist.map _) h

theorem string?_eq_some {text : CodePoints} : value.string? = some text ↔ value = .string text := by
  cases value <;> simp [string?]

theorem integer?_eq_some {n : Int} : value.integer? = some n ↔ value = .integer n := by
  cases value <;> simp [integer?]

theorem mapM_string?_eq_some {items : List Json} {texts : List CodePoints}
    (h : items.mapM string? = some texts) : items = texts.map .string := by
  induction items generalizing texts with
  | nil =>
    cases h
    rfl
  | cons item rest ih =>
    simp only [List.mapM_cons, Option.bind_eq_bind, Option.bind_eq_some_iff] at h
    obtain ⟨text, hitem, texts, hrest, heq⟩ := h
    cases heq
    rw [string?_eq_some.mp hitem, ih hrest, List.map_cons]

end Json

namespace Settings

open Json Files

variable {s : Settings} {merged merged' : List (CodePoints × Json)}
  {layers : List (List (CodePoints × Json))}

def entries (s : Settings) : List (CodePoints × Json) :=
  [("var_prefix", .string s.naming.variablePrefix),
    ("boolean_prefix", .string s.naming.booleanPrefix),
    ("hash_multiplier", .integer s.hashMultiplier), ("getters", s.getters),
    ("setters", s.setters), ("copy_constructor", s.copyConstructor),
    ("equals_hash", s.equalsHash), ("indent_size", .integer s.indentSize),
    ("add_comments", s.comments), ("immutable_types", .array (s.immutables.map .string))]

theorem entries_default : default.entries = builtIn := rfl

theorem isObject_builtIn : IsObject builtIn := by decide

theorem isObject_entries (s : Settings) : IsObject s.entries := isObject_builtIn

theorem entries_injective : Function.Injective entries := by
  intro s s' h
  obtain ⟨⟨_, _⟩, _, _, _, _, _, _, _, _⟩ := s
  obtain ⟨⟨_, _⟩, _, _, _, _, _, _, _, _⟩ := s'
  simp only [entries, List.cons.injEq, Prod.mk.injEq, true_and, and_true, Json.string.injEq,
    Json.integer.injEq, Json.array.injEq, CodePoints.ofString_inj] at h
  obtain ⟨rfl, rfl, rfl, rfl, rfl, rfl, rfl, rfl, rfl, himmutables⟩ := h
  rw [List.map_injective_iff.mpr (fun _ _ ↦ Json.string.inj) himmutables]

def isKnown (name : CodePoints) : Bool := (names builtIn).contains name

def known (layer : List (CodePoints × Json)) : List (CodePoints × Json) := layer.filter (isKnown ·.1)

theorem booleanPrefix?_eq_some {value : Json} {text : String}
    (h : booleanPrefix? value = some text) : value = .string text := by
  rw [booleanPrefix?] at h
  exact string?_eq_some.mp (eq_of_beq (List.find?_some h :))

theorem positive?_eq_some {value : Json} {n : Int} (h : positive? value = some n) :
    value = .integer n :=
  integer?_eq_some.mp (Option.filter_eq_some_iff.mp h).1

/-- Settings hold the values that they are made from. -/
theorem entries_of_ofMerged (h : ofMerged merged = .ok s) :
    s.entries = builtIn.map fun (name, _) ↦ (name, (member? name merged).getD .null) := by
  rw [ofMerged] at h
  dsimp only at h
  split at h
  · cases h
  · next types htypes =>
    split at h
    · next variablePrefix booleanPrefix multiplier indent immutables hv hb hm hi him =>
      cases h
      simp only [entries, builtIn, List.map_cons, List.map_nil, htypes, mapM_string?_eq_some him,
        string?_eq_some.mp hv, booleanPrefix?_eq_some hb, positive?_eq_some hm,
        positive?_eq_some hi]
    · cases h
  · cases h

theorem ofMerged_congr
    (h : ∀ name, isKnown name = true → member? name merged = member? name merged') :
    ofMerged merged = ofMerged merged' := by
  simp only [ofMerged, h "var_prefix" (by decide), h "boolean_prefix" (by decide),
    h "hash_multiplier" (by decide), h "getters" (by decide), h "setters" (by decide),
    h "copy_constructor" (by decide), h "equals_hash" (by decide), h "indent_size" (by decide),
    h "add_comments" (by decide), h "immutable_types" (by decide)]

theorem ofMerged_known (h : ∀ layer ∈ layers, IsObject layer) :
    ofMerged (merge (layers.map known)) = ofMerged (merge layers) := by
  refine ofMerged_congr fun name hname ↦ ?_
  rw [merge, merge, member?_foldl_overlay h, member?_foldl_overlay, ← List.map_reverse,
    List.findSome?_map]
  · congr 2
    exact funext fun layer ↦ member?_filter hname layer
  · simpa [known] using fun layer hlayer ↦ (h layer hlayer).filter isKnown

/-- Each setting has the value of the topmost layer that has one, or the one it has anyway. -/
theorem entries_of_merge (h : ∀ layer ∈ layers, IsObject layer)
    (hs : ofMerged (merge layers) = .ok s) :
    s.entries = builtIn.map fun (name, value) ↦
      (name, (layers.reverse.findSome? (member? name)).getD value) := by
  rw [entries_of_ofMerged hs]
  refine List.map_congr_left fun (name, value) hmem ↦ ?_
  have hvalue : member? name builtIn = some value := member?_of_mem isObject_builtIn hmem
  simp only [merge, member?_foldl_overlay h, hvalue, Option.or_some, Option.getD_some]

theorem member?_entries {name : CodePoints} {value : Json} (h : ∀ layer ∈ layers, IsObject layer)
    (hs : ofMerged (merge layers) = .ok s) (hmem : (name, value) ∈ builtIn) :
    member? name s.entries = some ((layers.reverse.findSome? (member? name)).getD value) := by
  refine member?_of_mem s.isObject_entries ?_
  rw [entries_of_merge h hs]
  exact List.mem_map.mpr ⟨_, hmem, rfl⟩

/-- The names in layers that are no setting's, each where it appears first. -/
def unknownNames (layers : List (List (CodePoints × Json))) : List CodePoints :=
  ((layers.flatMap names).filter (!isKnown ·)).eraseDups

theorem unknownKeys_merge (layers : List (List (CodePoints × Json))) :
    unknownKeys (merge layers) = unknownNames layers := by
  have hten : names builtIn = (names builtIn).eraseDups := by decide
  calc unknownKeys (merge layers)
      = (names (merge layers)).filter (!isKnown ·) :=
      List.filter_congr fun name _ ↦ by simp [isKnown, names]
    _ = (names builtIn).filter (!isKnown ·) ++
          (((layers.flatMap names).removeAll (names builtIn)).eraseDups).filter (!isKnown ·) := by
      rw [merge, names_foldl_overlay hten, List.eraseDups_append, ← hten, List.filter_append]
    _ = ((layers.flatMap names).removeAll (names builtIn)).eraseDups := by
      rw [List.filter_eq_nil_iff.mpr, List.nil_append, List.filter_eq_self.mpr]
      · intro name hname
        rw [List.mem_eraseDups, List.removeAll, List.mem_filter] at hname
        simpa [isKnown] using hname.2
      · simp [isKnown]
    _ = unknownNames layers := by simp [unknownNames, List.removeAll, isKnown]

theorem nodup_unknownNames (layers : List (List (CodePoints × Json))) :
    (unknownNames layers).Nodup :=
  unknownKeys_merge layers ▸ List.Nodup.filter _ (isObject_builtIn.foldl_overlay layers)

def unknownRecord (name : CodePoints) : Log.Record :=
  configRecord .warning (.ofString "Ignoring unknown configuration key: " ++ name)

theorem records_merge (layers : List (List (CodePoints × Json))) :
    records (merge layers) = (unknownNames layers).map unknownRecord :=
  congrArg (List.map unknownRecord) (unknownKeys_merge layers)

variable {limits : Limits} {t : Tree} {file : String} {defaults members custom : List (CodePoints × Json)}
  {logged : List Log.Record}

theorem loadFile_eq_ok_iff {p : Path} :
    loadFile limits t p = .ok members ↔
      t.exists? p = .ok true ∧ p.hasSuffix ".json" = true ∧
        ∃ text, t.readText p = .ok (.ok text) ∧
          Json.read limits text.toList = .ok (.object members) := by
  constructor
  · intro h
    rw [loadFile] at h
    split at h
    · cases h
    · cases h
    · next hexists =>
      split at h
      · cases h
      · next hsuffix =>
        split at h
        · cases h
        · cases h
        · next text htext =>
          split at h
          · cases h
          · cases h
          · cases h
          · next hread =>
            cases h
            exact ⟨hexists, by simpa using hsuffix, text, htext, hread⟩
          · cases h
  · rintro ⟨hexists, hsuffix, text, htext, hread⟩
    simp only [loadFile, hexists, hsuffix, htext, hread, Bool.not_true, Bool.false_eq_true,
      if_false]

/-- The members that the file of a name has; without a name there is none. -/
def FileHolds (limits : Limits) (t : Tree) (file : String) (members : List (CodePoints × Json)) : Prop :=
  if file = "" then members = [] else loadFile limits t (.ofString file) = .ok members

theorem FileHolds.isObject (h : FileHolds limits t file members) : IsObject members := by
  rw [FileHolds] at h
  split at h
  · subst h
    exact isObject_nil
  · obtain ⟨-, -, text, -, hread⟩ := loadFile_eq_ok_iff.mp h
    exact isObject_of_read hread

def fileRecords (file : String) : List Log.Record :=
  if file = "" then []
  else [configRecord .debug ("Loaded configuration file " ++ (Path.ofString file).text)]

theorem load_eq_ok_iff :
    load limits t defaults file custom = (.ok s, logged) ↔
      ∃ members, FileHolds limits t file members ∧ ofMerged (merge [defaults, members, custom]) = .ok s ∧
        logged = fileRecords file ++
          (unknownNames [defaults, members, custom]).map unknownRecord := by
  have hfinish (merged : List (CodePoints × Json)) (before : List Log.Record) :
      ((ofMerged merged).mapError LoadError.settings, before ++ records merged) =
        (.ok s, logged) ↔ ofMerged merged = .ok s ∧ logged = before ++ records merged := by
    cases ofMerged merged <;> simp [Except.mapError, eq_comm]
  by_cases hfile : file = ""
  · have hmerge : merge [defaults, [], custom] = merge [defaults, custom] := rfl
    simp only [load, FileHolds, fileRecords, if_pos hfile, hfinish, exists_eq_left, hmerge,
      ← records_merge]
  · simp only [load, FileHolds, fileRecords, if_neg hfile]
    cases loadFile limits t (.ofString file) with
    | error e => simp
    | ok members => simp only [hfinish, Except.ok.injEq, exists_eq_left', ← records_merge]

end Settings

end Boilerplate
