import Boilerplate.Naming
import Mathlib.Data.List.Basic

namespace Boilerplate

namespace Text

variable {c d : Char} {s t : String}

def startsSmall (s : String) : Bool := s.toList.head?.any Char.isLower

def startsCapital (s : String) : Bool := s.toList.head?.any Char.isUpper

theorem bounds_of_isLower (h : c.isLower = true) : 'a'.val ≤ c.val ∧ c.val ≤ 'z'.val :=
  (Bool.and_eq_true_iff.mp h).imp of_decide_eq_true of_decide_eq_true

theorem val_toUpper (h : c.isLower = true) : c.toUpper.val = c.val + ('A'.val - 'a'.val) := by
  unfold Char.toUpper
  rw [dif_pos (bounds_of_isLower h)]

theorem toUpper_inj (hc : c.isLower = true) (hd : d.isLower = true) :
    c.toUpper = d.toUpper ↔ c = d := by
  rw [Char.ext_iff, val_toUpper hc, val_toUpper hd, UInt32.add_left_inj, Char.ext_iff]

theorem isUpper_toUpper (h : c.isLower = true) : c.toUpper.isUpper = true := by
  have hval := congrArg UInt32.toNat (val_toUpper h)
  obtain ⟨hlow, hhigh⟩ := bounds_of_isLower h
  rw [UInt32.toNat_add] at hval
  rw [UInt32.le_iff_toNat_le] at hlow hhigh
  have hshift : ('A'.val - 'a'.val).toNat = 2 ^ 32 - 32 := by decide
  have hbounds : 'a'.val.toNat = 97 ∧ 'z'.val.toNat = 122 ∧ 'A'.val.toNat = 65 ∧
      'Z'.val.toNat = 90 := by decide
  have hcapital : 'A'.val ≤ c.toUpper.val ∧ c.toUpper.val ≤ 'Z'.val := by
    rw [UInt32.le_iff_toNat_le, UInt32.le_iff_toNat_le]
    omega
  exact decide_eq_true hcapital

theorem exists_of_startsSmall (h : startsSmall s = true) : ∃ c rest, s.toList = c :: rest ∧
    c.isLower = true ∧ (capitalizeFirst s).toList = c.toUpper :: rest := by
  cases hs : s.toList with
  | nil => simp [startsSmall, hs] at h
  | cons c rest =>
    have hc : c.isLower = true := by simpa [startsSmall, hs] using h
    refine ⟨c, rest, rfl, hc, ?_⟩
    simp [capitalizeFirst, hs, uppercase, hc]

theorem capitalizeFirst_inj (hs : startsSmall s = true) (ht : startsSmall t = true) :
    capitalizeFirst s = capitalizeFirst t ↔ s = t := by
  obtain ⟨c, rest, hsl, hc, hsc⟩ := exists_of_startsSmall hs
  obtain ⟨d, more, htl, hd, htc⟩ := exists_of_startsSmall ht
  rw [← String.toList_inj, ← String.toList_inj, hsc, htc, hsl, htl, List.cons_eq_cons,
    List.cons_eq_cons, toUpper_inj hc hd]

theorem startsCapital_capitalizeFirst (h : startsSmall s = true) :
    startsCapital (capitalizeFirst s) = true := by
  obtain ⟨c, rest, -, hc, hcapital⟩ := exists_of_startsSmall h
  simp [startsCapital, hcapital, isUpper_toUpper hc]

end Text

open Text (startsSmall startsCapital capitalizeFirst capitalizeFirst_inj)

section Getters

variable {name other rest : String}

theorem readsAsGetter_append (rest : String) :
    readsAsGetter ("is" ++ rest) = startsCapital rest := by
  have hlist : ("is" ++ rest).toList = 'i' :: 's' :: rest.toList := String.toList_append
  rw [readsAsGetter, hlist, startsCapital]
  cases rest.toList <;> rfl

theorem readsAsGetter_iff : readsAsGetter name = true ↔
    ∃ rest, name = "is" ++ rest ∧ startsCapital rest = true := by
  constructor
  · intro h
    rw [readsAsGetter] at h
    split at h
    · next c more hname =>
      refine ⟨String.ofList (c :: more), ?_, by simpa [startsCapital] using h⟩
      rw [← String.toList_inj, hname]
      simp
    · cases h
  · rintro ⟨rest, rfl, h⟩
    rwa [readsAsGetter_append]

/-- Whether a name is `is` and a capitalized word, which another name, not of this form itself,
gives when it is capitalized. -/
def IsNamedGetter (name other : String) : Prop :=
  ∃ word, name = "is" ++ word ∧ startsCapital word = true ∧
    (¬∃ word', other = "is" ++ word' ∧ startsCapital word' = true) ∧ capitalizeFirst other = word

theorem isNamedGetter_iff (h : startsSmall other = true) : IsNamedGetter name other ↔
    readsAsGetter other = false ∧ name = "is" ++ capitalizeFirst other := by
  rw [IsNamedGetter, ← readsAsGetter_iff, Bool.not_eq_true]
  constructor
  · rintro ⟨word, hname, -, hother, rfl⟩
    exact ⟨hother, hname⟩
  · rintro ⟨hother, hname⟩
    exact ⟨_, hname, Text.startsCapital_capitalizeFirst h, hother, rfl⟩

theorem readsAsGetter_capitalizeFirst (h : startsSmall other = true) :
    readsAsGetter ("is" ++ capitalizeFirst other) = true :=
  (readsAsGetter_append _).trans (Text.startsCapital_capitalizeFirst h)

theorem get_append_ne (word rest : String) : "get" ++ word ≠ "is" ++ rest := by
  intro h
  simpa using congrArg (·.toList.head?) h

theorem get_append_ne_of_readsAsGetter (h : readsAsGetter name = true) (word : String) :
    "get" ++ word ≠ name := by
  obtain ⟨rest, rfl, -⟩ := readsAsGetter_iff.mp h
  exact get_append_ne word rest

end Getters

namespace Naming

variable {n : Naming} {f h : Field}

/-- A prefix that leaves nothing of a name is that name, and so holds no surrogates. -/
theorem variablePrefix_eq_name (h : n.plainName f = "") : n.variablePrefix = f.name := by
  rw [plainName, stripStart] at h
  split at h
  · next hstart =>
    obtain ⟨rest, hrest⟩ := List.isPrefixOf_iff_prefix.mp hstart
    have hlength : n.variablePrefix.length + rest.length = f.name.toList.length := by
      rw [← List.length_append, hrest, Text.CodePoints.ofString, Text.CodePoints.ofChars, List.length_map]
    have hdrop : f.name.toList.length ≤ n.variablePrefix.length := by
      rw [← List.drop_eq_nil_iff, ← String.ofList_eq_empty_iff, h]
    obtain rfl : rest = [] := List.eq_nil_of_length_eq_zero (by omega)
    rw [← hrest, List.append_nil]
  · exact absurd h f.name_ne_empty

section Unprefixed

theorem plainName_eq_name (hv : n.variablePrefix = []) (f : Field) : n.plainName f = f.name := by
  simp [plainName, stripStart, hv]

theorem setterName_eq (hv : n.variablePrefix = []) (f : Field) :
    n.setterName f = "set" ++ capitalizeFirst f.name := by
  rw [setterName, plainName_eq_name hv]

theorem getterName_of_not_isBoolean (hv : n.variablePrefix = []) (hb : f.isBoolean = false) :
    n.getterName f = "get" ++ capitalizeFirst f.name := by
  simp [getterName, fragment, hb, plainName_eq_name hv]

theorem getterName_of_readsAsGetter (hv : n.variablePrefix = []) (hb : f.isBoolean = true)
    (hr : readsAsGetter f.name = true) : n.getterName f = f.name := by
  simp [getterName, hb, hr, plainName_eq_name hv]

theorem getterName_of_isBoolean (hv : n.variablePrefix = []) (hb : f.isBoolean = true)
    (hr : readsAsGetter f.name = false) :
    n.getterName f = n.booleanPrefix ++ capitalizeFirst f.name := by
  simp [getterName, fragment, hb, hr, plainName_eq_name hv]

theorem getterName_get (hv : n.variablePrefix = []) (hg : n.booleanPrefix = "get") (f : Field) :
    n.getterName f = "get" ++ capitalizeFirst f.name ∨
      readsAsGetter f.name = true ∧ n.getterName f = f.name := by
  cases hb : f.isBoolean with
  | false => exact .inl (getterName_of_not_isBoolean hv hb)
  | true =>
    cases hr : readsAsGetter f.name with
    | false => exact .inl (hg ▸ getterName_of_isBoolean hv hb hr)
    | true => exact .inr ⟨rfl, getterName_of_readsAsGetter hv hb hr⟩

end Unprefixed

section Pairs

variable (hv : n.variablePrefix = []) (hne : f.name ≠ h.name)
  (hf : startsSmall f.name = true) (hh : startsSmall h.name = true)

include hv hne hf hh

theorem setterName_ne : n.setterName f ≠ n.setterName h := by
  rw [setterName_eq hv, setterName_eq hv, Ne, String.append_right_inj, capitalizeFirst_inj hf hh]
  exact hne

theorem getterName_ne_of_get (hg : n.booleanPrefix = "get") :
    n.getterName f ≠ n.getterName h := by
  rcases getterName_get hv hg f with hgf | ⟨hrf, hgf⟩ <;>
    rcases getterName_get hv hg h with hgh | ⟨hrh, hgh⟩ <;> rw [hgf, hgh]
  · rwa [Ne, String.append_right_inj, capitalizeFirst_inj hf hh]
  · exact get_append_ne_of_readsAsGetter hrh _
  · exact (get_append_ne_of_readsAsGetter hrf _).symm
  · exact hne

theorem getterName_eq_iff_of_isBoolean (hi : n.booleanPrefix = "is") (hbf : f.isBoolean = true)
    (hbh : h.isBoolean = true) : n.getterName f = n.getterName h ↔
      IsNamedGetter f.name h.name ∨ IsNamedGetter h.name f.name := by
  rw [isNamedGetter_iff hh, isNamedGetter_iff hf]
  cases hrf : readsAsGetter f.name with
  | false =>
    have hnamed : f.name ≠ "is" ++ capitalizeFirst h.name := by
      intro he
      rw [he, readsAsGetter_capitalizeFirst hh] at hrf
      cases hrf
    rw [getterName_of_isBoolean hv hbf hrf, hi]
    cases hrh : readsAsGetter h.name with
    | false =>
      have hnamed' : h.name ≠ "is" ++ capitalizeFirst f.name := by
        intro he
        rw [he, readsAsGetter_capitalizeFirst hf] at hrh
        cases hrh
      rw [getterName_of_isBoolean hv hbh hrh, hi, String.append_right_inj,
        capitalizeFirst_inj hf hh]
      simp [hne, hnamed, hnamed']
    | true =>
      rw [getterName_of_readsAsGetter hv hbh hrh]
      simp [eq_comm]
  | true =>
    rw [getterName_of_readsAsGetter hv hbf hrf]
    cases hrh : readsAsGetter h.name with
    | false =>
      rw [getterName_of_isBoolean hv hbh hrh, hi]
      simp
    | true =>
      rw [getterName_of_readsAsGetter hv hbh hrh]
      simp [hne]

theorem getterName_ne_of_not_isBoolean (hi : n.booleanPrefix = "is") (hbf : f.isBoolean = false) :
    n.getterName f ≠ n.getterName h := by
  rw [getterName_of_not_isBoolean hv hbf]
  cases hbh : h.isBoolean with
  | false =>
    rwa [getterName_of_not_isBoolean hv hbh, Ne, String.append_right_inj,
      capitalizeFirst_inj hf hh]
  | true =>
    cases hrh : readsAsGetter h.name with
    | false =>
      rw [getterName_of_isBoolean hv hbh hrh, hi]
      exact get_append_ne _ _
    | true =>
      rw [getterName_of_readsAsGetter hv hbh hrh]
      exact get_append_ne_of_readsAsGetter hrh _

/-- Which accessors of two fields with different names can share a name. -/
theorem accessors_clash_iff :
    (n.booleanPrefix = "get" → n.getterName f ≠ n.getterName h) ∧
      (n.booleanPrefix = "is" → (n.getterName f = n.getterName h ↔
        f.isBoolean = true ∧ h.isBoolean = true ∧
          (IsNamedGetter f.name h.name ∨ IsNamedGetter h.name f.name))) ∧
      n.setterName f ≠ n.setterName h := by
  refine ⟨getterName_ne_of_get hv hne hf hh, fun hi ↦ ?_, setterName_ne hv hne hf hh⟩
  cases hbf : f.isBoolean with
  | false =>
    have hdiffer := getterName_ne_of_not_isBoolean hv hne hf hh hi hbf
    simp [hdiffer]
  | true =>
    cases hbh : h.isBoolean with
    | false =>
      have hdiffer := getterName_ne_of_not_isBoolean hv hne.symm hh hf hi hbh
      simp [hdiffer.symm]
    | true => simpa using getterName_eq_iff_of_isBoolean hv hne hf hh hi hbf hbh

end Pairs

/-- A boolean field that has the name of the getter of another one. -/
theorem accessors_clash_iff_isReady :
    let isReady : Field := ⟨"boolean", "isReady", 1, by decide, by decide,
      Text.isBlank_eq_false_of_any (by decide)⟩
    let ready : Field := ⟨"Boolean", "ready", 2, by decide, by decide,
      Text.isBlank_eq_false_of_any (by decide)⟩
    isReady.name ≠ ready.name ∧ startsSmall isReady.name = true ∧ startsSmall ready.name = true ∧
      Naming.default.getterName isReady = Naming.default.getterName ready ∧
      (⟨"", "get"⟩ : Naming).getterName isReady ≠ (⟨"", "get"⟩ : Naming).getterName ready ∧
      Naming.default.setterName isReady ≠ Naming.default.setterName ready := by
  intro isReady ready
  have hne : isReady.name ≠ ready.name := by decide
  have hsmall : startsSmall isReady.name = true := by decide
  have hsmall' : startsSmall ready.name = true := by decide
  have hnamed : IsNamedGetter isReady.name ready.name :=
    (isNamedGetter_iff hsmall').mpr (by decide)
  obtain ⟨-, hi, hset⟩ := accessors_clash_iff (n := .default) rfl hne hsmall hsmall'
  obtain ⟨hg, -, -⟩ := accessors_clash_iff (n := ⟨"", "get"⟩) rfl hne hsmall hsmall'
  exact ⟨hne, hsmall, hsmall', (hi rfl).mpr ⟨by decide, by decide, .inl hnamed⟩, hg rfl, hset⟩

end Naming

end Boilerplate
