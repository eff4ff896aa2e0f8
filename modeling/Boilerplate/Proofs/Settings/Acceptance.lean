import Boilerplate.Proofs.Json.Display
import Boilerplate.Proofs.Lists
import Boilerplate.Proofs.Settings.Layers

namespace Boilerplate

open Text (CodePoints)

namespace Json

variable {v : Json} {items : List Json}

def IsText (v : Json) : Prop := ∃ text, v = .string text

/-- An integer above zero. Truth values and floating-point numbers are no integers. -/
def IsPositive (v : Json) : Prop := ∃ n : Int, v = .integer n ∧ 0 < n

def IsBooleanPrefix (v : Json) : Prop := v = .string "is" ∨ v = .string "get"

theorem isSome_string?_iff : v.string?.isSome = true ↔ v.IsText := by
  simp only [Option.isSome_iff_exists, string?_eq_some, IsText]

theorem isSome_positive?_iff : (Settings.positive? v).isSome = true ↔ v.IsPositive := by
  simp only [Option.isSome_iff_exists, Settings.positive?, Option.filter_eq_some_iff,
    integer?_eq_some, decide_eq_true_eq, IsPositive]

theorem isSome_booleanPrefix?_iff :
    (Settings.booleanPrefix? v).isSome = true ↔ v.IsBooleanPrefix := by
  rw [Settings.booleanPrefix?, List.find?_isSome]
  simp only [List.mem_cons, List.not_mem_nil, or_false, beq_iff_eq, exists_eq_or_imp, exists_eq_left,
    string?_eq_some, IsBooleanPrefix]

theorem isSome_mapM_string?_iff :
    (items.mapM string?).isSome = true ↔ ∀ item ∈ items, item.IsText := by
  induction items with
  | nil => simp
  | cons item items ih =>
    rw [List.forall_mem_cons, ← ih, ← isSome_string?_iff, List.mapM_cons]
    cases item.string? with
    | none => simp
    | some text => cases items.mapM string? <;> simp

instance : DecidablePred IsText := fun _ ↦ decidable_of_iff _ isSome_string?_iff

instance : DecidablePred IsPositive := fun _ ↦ decidable_of_iff _ isSome_positive?_iff

instance : DecidablePred IsBooleanPrefix := fun _ ↦ decidable_of_iff _ isSome_booleanPrefix?_iff

end Json

namespace Complaint

variable {limits : Limits} {complaint : Complaint}

def value? : Complaint → Option Json
  | variablePrefix value => some value
  | booleanPrefix value => some value
  | hashMultiplier value => some value
  | indentSize value => some value
  | immutables => none

/-- The value that a complaint names is within the bounds for a display. -/
def IsSayable (limits : Limits) (complaint : Complaint) : Prop :=
  ∀ value, complaint.value? = some value → value.Within limits limits.depth

theorem exists_message_iff :
    (∃ text, complaint.message limits = .ok text) ↔ complaint.IsSayable limits := by
  cases complaint <;>
    simp [message, IsSayable, value?, Json.exists_map_eq_ok_iff, Json.display,
      Json.exists_displayWithin_iff]

end Complaint

namespace Settings

open Json Files

variable {merged : List (CodePoints × Json)} {types : List Json} {s : Settings}

def valueIn (merged : List (CodePoints × Json)) (name : CodePoints) : Json :=
  (member? name merged).getD .null

/-- What a value has to be, and the complaint that it draws otherwise. -/
structure Demand where
  isMet : Bool
  complaint : Complaint

def demands (value : CodePoints → Json) (types : List Json) : List Demand :=
  [⟨decide (value "var_prefix").IsText, .variablePrefix (value "var_prefix")⟩,
    ⟨decide (value "boolean_prefix").IsBooleanPrefix, .booleanPrefix (value "boolean_prefix")⟩,
    ⟨decide (value "hash_multiplier").IsPositive, .hashMultiplier (value "hash_multiplier")⟩,
    ⟨decide (value "indent_size").IsPositive, .indentSize (value "indent_size")⟩,
    ⟨types.all fun type ↦ decide type.IsText, .immutables⟩]

def unmet (ds : List Demand) : List Complaint := (ds.filter (!·.isMet)).map (·.complaint)

def switches : List CodePoints := ["getters", "setters", "copy_constructor", "equals_hash"]

section Demands

variable {value : CodePoints → Json}

theorem unmet_cons (d : Demand) (ds : List Demand) :
    unmet (d :: ds) = (if d.isMet then [] else [d.complaint]) ++ unmet ds := by
  cases hd : d.isMet <;> simp [unmet, hd]

theorem complaintUnless_eq {α : Type} (check : Option α) (complaint : Complaint) :
    complaintUnless check complaint = if check.isSome then [] else [complaint] := by
  cases check <;> rfl

theorem demands_eq (value : CodePoints → Json) (types : List Json) : demands value types =
    [⟨(value "var_prefix").string?.isSome, .variablePrefix (value "var_prefix")⟩,
      ⟨(booleanPrefix? (value "boolean_prefix")).isSome, .booleanPrefix (value "boolean_prefix")⟩,
      ⟨(positive? (value "hash_multiplier")).isSome, .hashMultiplier (value "hash_multiplier")⟩,
      ⟨(positive? (value "indent_size")).isSome, .indentSize (value "indent_size")⟩,
      ⟨(types.mapM string?).isSome, .immutables⟩] := by
  have htypes : (types.all fun type ↦ decide type.IsText) = (types.mapM string?).isSome := by
    rw [Bool.eq_iff_iff, isSome_mapM_string?_iff, List.all_eq_true]
    simp only [decide_eq_true_eq]
  rw [demands, htypes]
  simp only [← isSome_string?_iff, ← isSome_booleanPrefix?_iff, ← isSome_positive?_iff,
    Bool.decide_eq_true]

theorem ofMerged_of_array (h : valueIn merged "immutable_types" = .array types) :
    ((∀ d ∈ demands (valueIn merged) types, d.isMet = true) ∧ ∃ s, ofMerged merged = .ok s) ∨
      ¬(∀ d ∈ demands (valueIn merged) types, d.isMet = true) ∧
        ofMerged merged = .error (.invalid (unmet (demands (valueIn merged) types))) := by
  rw [demands_eq]
  simp only [valueIn] at h
  simp only [ofMerged, h, List.forall_mem_cons, unmet_cons, ← complaintUnless_eq, valueIn]
  split
  · next hv hb hm hi him =>
    refine .inl ⟨?_, _, rfl⟩
    simp [hv, hb, hm, hi, him]
  · next hnone =>
    refine .inr ⟨?_, by simp [unmet]⟩
    rintro ⟨hv, hb, hm, hi, him, -⟩
    rw [Option.isSome_iff_exists] at hv hb hm hi him
    obtain ⟨⟨_, hv⟩, ⟨_, hb⟩, ⟨_, hm⟩, ⟨_, hi⟩, ⟨_, him⟩⟩ := hv, hb, hm, hi, him
    exact hnone _ _ _ _ _ hv hb hm hi him

theorem forall_isMet_iff : (∀ d ∈ demands value types, d.isMet = true) ↔
    (value "var_prefix").IsText ∧ (value "boolean_prefix").IsBooleanPrefix ∧
      (value "hash_multiplier").IsPositive ∧ (value "indent_size").IsPositive ∧
      ∀ type ∈ types, type.IsText := by
  simp [demands]

end Demands

theorem exists_ofMerged_of_null (h : valueIn merged "immutable_types" = .null) :
    ∃ complaints, ofMerged merged = .error (.nullImmutables complaints) := by
  rw [valueIn] at h
  simp only [ofMerged, h]
  exact ⟨_, rfl⟩

theorem ofMerged_of_other (hnull : valueIn merged "immutable_types" ≠ .null)
    (harray : ∀ types, valueIn merged "immutable_types" ≠ .array types) :
    ofMerged merged = .error (.invalid [.immutables]) := by
  rw [ofMerged]
  dsimp only
  split
  · next h => exact absurd h hnull
  · next types h => exact absurd h (harray types)
  · rfl

def free : List CodePoints := "add_comments" :: switches

theorem valueIn_setMember {name other : CodePoints} (v : Json) (h : other ≠ name) :
    valueIn (setMember name v merged) other = valueIn merged other := by
  rw [valueIn, valueIn, member?_setMember, if_neg h]

/-- What is not demanded changes nothing about the outcome of the check. -/
theorem map_ofMerged_setMember {name : CodePoints} (h : name ∈ free) (v : Json) :
    (ofMerged (setMember name v merged)).map (fun _ ↦ ()) =
      (ofMerged merged).map fun _ ↦ () := by
  have hother (other : CodePoints) (hmem : other ∉ free) :
      (member? other (setMember name v merged)).getD .null = valueIn merged other :=
    valueIn_setMember v fun heq ↦ hmem (heq ▸ h)
  simp only [ofMerged, hother "var_prefix" (by decide), hother "boolean_prefix" (by decide),
    hother "hash_multiplier" (by decide), hother "indent_size" (by decide),
    hother "immutable_types" (by decide)]
  simp only [valueIn]
  split
  · rfl
  · split <;> rfl
  · rfl

theorem exists_ofMerged_setMember_iff {name : CodePoints} (h : name ∈ free) (v : Json) :
    (∃ s, ofMerged (setMember name v merged) = .ok s) ↔ ∃ s, ofMerged merged = .ok s := by
  have hsame : (ofMerged (setMember name v merged)).map (fun _ ↦ ()) =
      (ofMerged merged).map fun _ ↦ () := map_ofMerged_setMember h v
  cases hset : ofMerged (setMember name v merged) <;> cases hold : ofMerged merged <;>
    simp [hset, hold, Except.map] at hsame ⊢

/-- The report of an error is made of complaints, in order. There is none if a complaint cannot be put
into words. -/
structure IsReportOf (limits : Limits) (e : SettingsError) (complaints : List Complaint) : Prop where
  report_eq_ok : (∀ complaint ∈ complaints, complaint.IsSayable limits) →
    ∃ texts, complaints.mapM (Complaint.message limits) = .ok texts ∧
      e.report limits = .ok ("; ".intercalate texts)
  report_eq_error : ∀ complaint ∈ complaints, ¬complaint.IsSayable limits →
    ∃ fault, e.report limits = .error (.display fault)

theorem isReportOf_invalid (limits : Limits) (complaints : List Complaint) :
    IsReportOf limits (.invalid complaints) complaints := by
  have hsaid : (∃ texts, complaints.mapM (Complaint.message limits) = .ok texts) ↔
      ∀ complaint ∈ complaints, complaint.IsSayable limits := by
    simp only [exists_mapM_eq_ok_iff, Complaint.exists_message_iff]
  constructor
  · intro hsayable
    obtain ⟨texts, htexts⟩ := hsaid.mpr hsayable
    exact ⟨texts, htexts, by rw [SettingsError.report, htexts]; rfl⟩
  · intro complaint hmem hnot
    cases hm : complaints.mapM (Complaint.message limits) with
    | ok texts => exact absurd (hsaid.mp ⟨texts, hm⟩ complaint hmem) hnot
    | error fault => exact ⟨fault, by rw [SettingsError.report, hm]; rfl⟩

theorem outcome_of_array (limits : Limits)
    (h : valueIn merged "immutable_types" = .array types) :
    ((∃ s, ofMerged merged = .ok s) ↔
      (valueIn merged "var_prefix").IsText ∧ (valueIn merged "boolean_prefix").IsBooleanPrefix ∧
        (valueIn merged "hash_multiplier").IsPositive ∧
        (valueIn merged "indent_size").IsPositive ∧ ∀ type ∈ types, type.IsText) ∧
    ((¬∃ s, ofMerged merged = .ok s) → ∃ e, ofMerged merged = .error e ∧
      IsReportOf limits e (unmet (demands (valueIn merged) types))) := by
  rw [← forall_isMet_iff]
  rcases ofMerged_of_array h with ⟨hmet, hok⟩ | ⟨hmet, herror⟩
  · exact ⟨iff_of_true hok hmet, fun hnot ↦ absurd hok hnot⟩
  · refine ⟨iff_of_false ?_ hmet, fun _ ↦ ⟨_, herror, isReportOf_invalid limits _⟩⟩
    rintro ⟨s, hok⟩
    cases hok.symm.trans herror

theorem anyEnabled_iff (h : ofMerged merged = .ok s) :
    s.anyEnabled = true ↔ ∃ name ∈ switches, (valueIn merged name).isTruthy = true := by
  have hentries := entries_of_ofMerged h
  simp only [entries, builtIn, List.map_cons, List.map_nil, List.cons.injEq, Prod.mk.injEq,
    true_and] at hentries
  obtain ⟨-, -, -, hg, hs, hc, he, -⟩ := hentries
  simp only [anyEnabled, hg, hs, hc, he, switches, valueIn, List.exists_mem_cons_iff,
    Bool.or_eq_true, or_assoc, List.not_mem_nil, false_and, exists_false, or_false]

section Loading

variable {limits : Limits} {t : Tree} {file : String} {defaults members custom : List (CodePoints × Json)}

theorem load_fst (h : FileHolds limits t file members) :
    (load limits t defaults file custom).1 =
      (ofMerged (merge [defaults, members, custom])).mapError .settings := by
  rw [FileHolds] at h
  split at h
  · next hfile =>
    subst h
    simp only [load, if_pos hfile]
    rfl
  · next hfile => simp only [load, if_neg hfile, h]

theorem mem_names_merge {name : CodePoints} (h : name ∈ names builtIn)
    (layers : List (List (CodePoints × Json))) : name ∈ names (merge layers) := by
  have hten : names builtIn = (names builtIn).eraseDups := by decide
  rw [merge, names_foldl_overlay hten, List.mem_eraseDups]
  exact List.mem_append_left _ h

theorem member?_merge {name : CodePoints} (h : name ∈ names builtIn)
    (layers : List (List (CodePoints × Json))) :
    member? name (merge layers) = some (valueIn (merge layers) name) := by
  obtain ⟨v, hv⟩ := Option.isSome_iff_exists.mp (isSome_member?_iff.mpr (mem_names_merge h layers))
  rw [valueIn, hv, Option.getD_some]

end Loading

section Report

variable {limits : Limits} {layers : List (List (CodePoints × Json))}

def AreRead (limits : Limits) (layers : List (List (CodePoints × Json))) : Prop :=
  ∀ layer ∈ layers, ∃ text, Json.read limits text = .ok (.object layer)

theorem valueIn_merge_of_areRead (hd : limits.nesting ≤ limits.depth) (h : AreRead limits layers)
    {name : CodePoints} {value : Json} (hmem : (name, value) ∈ builtIn) :
    valueIn (merge layers) name = value ∨
      (valueIn (merge layers) name).Within limits limits.depth := by
  have hlayers : ∀ layer ∈ layers, IsObject layer := fun layer hlayer ↦
    (h layer hlayer).elim fun _ ↦ isObject_of_read
  rw [valueIn, merge, member?_foldl_overlay hlayers, member?_of_mem isObject_builtIn hmem]
  cases hfound : layers.reverse.findSome? (member? name) with
  | none => exact .inl rfl
  | some found =>
    obtain ⟨layer, hlayer, hvalue⟩ := List.exists_of_findSome?_eq_some hfound
    obtain ⟨text, hread⟩ := h layer (List.mem_reverse.mp hlayer)
    cases within_of_read hread with
    | object hwithin => exact .inr ((hwithin _ (mem_of_member? hvalue)).mono hd)

def Demand.IsSettled (limits : Limits) (d : Demand) : Prop :=
  d.isMet = true ∨ d.complaint.IsSayable limits

theorem isSettled_of_within {d : Demand} {v builtIn : Json}
    (h : v = builtIn ∨ v.Within limits limits.depth) (hmet : v = builtIn → d.isMet = true)
    (hvalue : d.complaint.value? = some v) : d.IsSettled limits := by
  refine h.imp hmet fun hwithin value hsome ↦ ?_
  obtain rfl : v = value := Option.some.inj (hvalue.symm.trans hsome)
  exact hwithin

theorem isSayable_of_areRead (hd : limits.nesting ≤ limits.depth) (h : AreRead limits layers)
    (types : List Json) :
    ∀ complaint ∈ unmet (demands (valueIn (merge layers)) types), complaint.IsSayable limits := by
  have hvalue (name : CodePoints) (value : Json) (hmem : (name, value) ∈ builtIn) :=
    valueIn_merge_of_areRead hd h hmem
  have hsettled : ∀ d ∈ demands (valueIn (merge layers)) types, d.IsSettled limits := by
    simp only [demands, List.forall_mem_cons]
    refine ⟨isSettled_of_within (hvalue "var_prefix" (.string "") ?_) ?_ rfl,
      isSettled_of_within (hvalue "boolean_prefix" (.string "is") ?_) ?_ rfl,
      isSettled_of_within (hvalue "hash_multiplier" (.integer 31) ?_) ?_ rfl,
      isSettled_of_within (hvalue "indent_size" (.integer 4) ?_) ?_ rfl,
      .inr fun _ hnone ↦ absurd hnone (Option.some_ne_none _).symm, nofun⟩
    all_goals
      first
      | (intro heq; rw [heq]; decide)
      | simp [builtIn]
  intro complaint hcomplaint
  rw [unmet] at hcomplaint
  obtain ⟨d, hunmet, rfl⟩ := List.mem_map.mp hcomplaint
  obtain ⟨hmem, hnot⟩ := List.mem_filter.mp hunmet
  exact (hsettled d hmem).resolve_left (by simpa using hnot)

end Report

/-- Settings are the outcome of one check of the values that the layers come to, and every setting
has a value there. If the immutable types are a list, settings are made exactly if the five demands
are met, and otherwise the report is made of the complaints about all that are not, in order; there
is no report if a value that is complained about cannot be displayed, and values of layers that are
read always can. If the immutable types are null, nothing is made, and if they are anything else,
that alone is reported. The switches and the comments hold any value, and something is enabled if a
switch counts as true. -/
theorem acceptance_exact (limits : Limits) (merged : List (CodePoints × Json)) :
    (∀ t defaults file custom members, FileHolds limits t file members →
      merged = merge [defaults, members, custom] →
      (load limits t defaults file custom).1 = (ofMerged merged).mapError .settings) ∧
    (∀ layers, merged = merge layers →
      (∀ name ∈ names builtIn, member? name merged = some (valueIn merged name)) ∧
      (limits.nesting ≤ limits.depth → AreRead limits layers →
        ∀ types, ∀ complaint ∈ unmet (demands (valueIn merged) types),
          complaint.IsSayable limits)) ∧
    (∀ types, valueIn merged "immutable_types" = .array types →
      ((∃ s, ofMerged merged = .ok s) ↔
        (valueIn merged "var_prefix").IsText ∧
          (valueIn merged "boolean_prefix").IsBooleanPrefix ∧
          (valueIn merged "hash_multiplier").IsPositive ∧
          (valueIn merged "indent_size").IsPositive ∧ ∀ type ∈ types, type.IsText) ∧
      ((¬∃ s, ofMerged merged = .ok s) → ∃ e, ofMerged merged = .error e ∧
        IsReportOf limits e (unmet (demands (valueIn merged) types)))) ∧
    (valueIn merged "immutable_types" ≠ .null →
      (∀ types, valueIn merged "immutable_types" ≠ .array types) →
      ∃ e, ofMerged merged = .error e ∧
        e.report limits = .ok "immutable_types must be a list of type names") ∧
    (valueIn merged "immutable_types" = .null → ∀ s, ofMerged merged ≠ .ok s) ∧
    (∀ name ∈ free, ∀ v,
      (∃ s, ofMerged (setMember name v merged) = .ok s) ↔ ∃ s, ofMerged merged = .ok s) ∧
    ∀ s, ofMerged merged = .ok s →
      s.entries = builtIn.map (fun (name, _) ↦ (name, valueIn merged name)) ∧
      (s.anyEnabled = true ↔ ∃ name ∈ switches, (valueIn merged name).isTruthy = true) := by
  refine ⟨?_, ?_, fun types ↦ outcome_of_array limits, fun hnull harray ↦ ?_, fun hnull s hs ↦ ?_,
    fun name hname v ↦ exists_ofMerged_setMember_iff hname v,
    fun s hs ↦ ⟨entries_of_ofMerged hs, anyEnabled_iff hs⟩⟩
  · rintro t defaults file custom members hfile rfl
    exact load_fst hfile
  · rintro layers rfl
    exact ⟨fun name hname ↦ member?_merge hname layers, fun hd hread ↦ isSayable_of_areRead hd hread⟩
  · exact ⟨_, ofMerged_of_other hnull harray, rfl⟩
  · obtain ⟨complaints, herror⟩ := exists_ofMerged_of_null hnull
    cases hs.symm.trans herror

/-- Five wrong values at once, a value that is read, a text in the place of the list, null there, and
a switch that is an empty list beside one that is a text. -/
theorem acceptance_exact_sample :
    let noFiles : Tree := { directories := [], files := [] }
    let outcome (custom : List (CodePoints × Json)) := (load .usual noFiles [] "" custom).1
    let wrong : List (CodePoints × Json) :=
      [("var_prefix", .null), ("boolean_prefix", .string "are"), ("hash_multiplier", .bool true),
        ("indent_size", .integer (-2)), ("immutable_types", .array [.string "Url", .array []])]
    let plural : List (CodePoints × Json) := [("boolean_prefix", .string "are")]
    let text : List (CodePoints × Json) := [("immutable_types", .string "Url")]
    let null : List (CodePoints × Json) := [("immutable_types", .null)]
    let switched : List (CodePoints × Json) := [("getters", .array []), ("setters", .string "no")]
    (∃ e, outcome wrong = .error (.settings e) ∧ e.report .usual = .ok
      ("var_prefix must be a string: None; Invalid boolean_prefix: 'are' (expected one of: is, " ++
        "get); hash_multiplier must be a positive integer: True; indent_size must be a positive " ++
        "integer: -2; immutable_types must be a list of type names")) ∧
    (AreRead .usual [plural] ∧ ∃ e, ofMerged (merge [plural]) = .error e ∧
      e.report .usual = .ok "Invalid boolean_prefix: 'are' (expected one of: is, get)") ∧
    (∃ e, outcome (wrong ++ text) = .error (.settings e) ∧
      e.report .usual = .ok "immutable_types must be a list of type names") ∧
    (∀ s, outcome null ≠ .ok s) ∧
    ∃ s, outcome switched = .ok s ∧ s.anyEnabled = true := by
  intro noFiles outcome wrong plural text null switched
  have houtcome (custom : List (CodePoints × Json)) :
      outcome custom = (ofMerged (merge [[], [], custom])).mapError .settings :=
    (acceptance_exact .usual _).1 noFiles [] "" custom [] rfl rfl
  simp only [houtcome]
  have hread : AreRead .usual [plural] := by
    intro layer hlayer
    obtain rfl := List.mem_singleton.mp hlayer
    exact ⟨"\x7b\"boolean_prefix\": \"are\"\x7d".toList, by cbv⟩
  refine ⟨?_, ⟨hread, ?_⟩, ?_, fun s ↦ ?_, ?_⟩
  · obtain ⟨-, -, harray, -⟩ := acceptance_exact .usual (merge [[], [], wrong])
    obtain ⟨hiff, hreport⟩ := harray [.string "Url", .array []] rfl
    obtain ⟨e, herror, htext⟩ := hreport fun hok ↦ absurd (hiff.mp hok) (by decide)
    have hwords : (unmet (demands (valueIn (merge [[], [], wrong]))
        [.string "Url", .array []])).mapM (Complaint.message .usual) =
        .ok ["var_prefix must be a string: None",
          "Invalid boolean_prefix: 'are' (expected one of: is, get)",
          "hash_multiplier must be a positive integer: True",
          "indent_size must be a positive integer: -2",
          "immutable_types must be a list of type names"] := by
      decide +kernel
    have hsayable := exists_mapM_eq_ok_iff.mp ⟨_, hwords⟩
    simp only [Complaint.exists_message_iff] at hsayable
    obtain ⟨texts, htexts, hsaid⟩ := htext.report_eq_ok hsayable
    obtain rfl := Except.ok.inj (htexts.symm.trans hwords)
    refine ⟨e, by rw [herror]; rfl, hsaid.trans ?_⟩
    decide +kernel
  · obtain ⟨-, hlayers, harray, -⟩ := acceptance_exact .usual (merge [plural])
    obtain ⟨hiff, hreport⟩ := harray _ rfl
    obtain ⟨e, herror, htext⟩ := hreport fun hok ↦ absurd (hiff.mp hok) (by decide)
    obtain ⟨texts, htexts, hsaid⟩ :=
      htext.report_eq_ok ((hlayers [plural] rfl).2 (by decide) hread _)
    have hown : texts = ["Invalid boolean_prefix: 'are' (expected one of: is, get)"] :=
      Except.ok.inj (htexts.symm.trans (by decide +kernel))
    exact ⟨e, herror, by rw [hsaid, hown]; rfl⟩
  · have hvalue : valueIn (merge [[], [], wrong ++ text]) "immutable_types" = .string "Url" := rfl
    obtain ⟨-, -, -, hother, -⟩ := acceptance_exact .usual (merge [[], [], wrong ++ text])
    obtain ⟨e, herror, htext⟩ := hother (by simp [hvalue]) (by simp [hvalue])
    exact ⟨e, by rw [herror]; rfl, htext⟩
  · obtain ⟨-, -, -, -, hnone, -⟩ := acceptance_exact .usual (merge [[], [], null])
    cases hmade : ofMerged (merge [[], [], null]) with
    | error e => simp [Except.mapError]
    | ok s => exact absurd hmade (hnone rfl s)
  · obtain ⟨-, -, -, -, -, -, hmade⟩ := acceptance_exact .usual (merge [[], [], switched])
    have hok : ofMerged (merge [[], [], switched]) = .ok _ := rfl
    exact ⟨_, by rw [hok]; rfl, (hmade _ hok).2.mpr ⟨"setters", by decide, by decide⟩⟩

/-- A multiplier that is no positive integer is not reported if it is too long to be written. -/
theorem report_fails_long :
    let long : List (CodePoints × Json) := [("hash_multiplier", .integer (-Limits.leastBeyond 4300))]
    (∃ types, valueIn (merge [long]) "immutable_types" = .array types) ∧
      ∃ e, ofMerged (merge [long]) = .error e ∧
        e.report .usual = .error (.display (.longInteger 4300)) := by
  intro long
  have htypes : valueIn (merge [long]) "immutable_types" =
      .array (TypeKind.defaultImmutables.map fun name ↦ .string (.ofString name)) := rfl
  rcases ofMerged_of_array htypes with ⟨hmet, -⟩ | ⟨-, herror⟩
  · exact absurd (forall_isMet_iff.mp hmet).2.2.1 (by decide +kernel)
  · exact ⟨⟨_, htypes⟩, _, herror, by decide +kernel⟩

end Settings

end Boilerplate
