import Boilerplate.Proofs.Generation.History
import Mathlib.Data.Finset.Card
import Mathlib.Data.Finset.Dedup

namespace Boilerplate

section Places

variable {α : Type} [DecidableEq α] {β : Type}

/-- The elements of a list, each with `before` and what stands in front of it in the list. -/
def withEarlier (before : List β) : List β → List (List β × β)
  | [] => []
  | x :: xs => (before, x) :: withEarlier (before ++ [x]) xs

/-- The elements whose key an earlier one has, each with those in front of it. -/
def repeaters (key : β → α) (before xs : List β) : List (List β × β) :=
  (withEarlier before xs).filter fun (earlier, x) ↦ key x ∈ earlier.map key

theorem repeaters_cons (key : β → α) (before xs : List β) (x : β) :
    repeaters key before (x :: xs) = (if key x ∈ before.map key then [(before, x)] else []) ++
      repeaters key (before ++ [x]) xs := by
  rw [repeaters, withEarlier, List.filter_cons]
  by_cases hx : key x ∈ before.map key
  · rw [if_pos hx, if_pos (decide_eq_true hx)]
    rfl
  · rw [if_neg hx, if_neg (by simpa using hx)]
    rfl

theorem repeaters_append (key : β → α) (before xs ys : List β) :
    repeaters key before (xs ++ ys) =
      repeaters key before xs ++ repeaters key (before ++ xs) ys := by
  induction xs generalizing before with
  | nil => simp [repeaters, withEarlier]
  | cons x xs ih => simp [repeaters_cons, ih]

theorem length_repeaters (key : β → α) (xs : List β) :
    (repeaters key [] xs).length + (xs.map key).toFinset.card = xs.length := by
  induction xs using List.reverseRecOn with
  | nil => rfl
  | append_singleton xs x ih =>
    have hlast : (repeaters key xs [x]).length = if key x ∈ xs.map key then 1 else 0 := by
      rw [repeaters_cons, List.length_append]
      split <;> rfl
    have hkeys : ((xs ++ [x]).map key).toFinset = insert (key x) (xs.map key).toFinset := by
      simp
    rw [repeaters_append, List.length_append, List.nil_append, hlast, hkeys, List.length_append,
      List.length_singleton]
    by_cases hx : key x ∈ xs.map key
    · rw [if_pos hx, Finset.insert_eq_of_mem (by simpa using hx)]
      omega
    · rw [if_neg hx, Finset.card_insert_of_notMem (by simpa using hx)]
      omega

end Places

def Settings.usesGetters (s : Settings) : Bool := s.getters.isTruthy || s.equalsHash.isTruthy

theorem Session.validate_after (limits : Limits) (s : Settings) (hasTemplates : Bool)
    (history : List Request) (c : ClassOutline) :
    (((start (.ofSettings limits s hasTemplates)).after history).generator.validate c).1 =
      Validation.warnings s c (Generator.directProperties s c) := by
  have hfresh : (start (.ofSettings limits s hasTemplates)).generator.cache.Sound s.naming := .empty
  obtain ⟨-, hsettings, -⟩ := after_settings (start (.ofSettings limits s hasTemplates)) history
  rw [Generator.validate_fst (hsettings ▸ after_sound hfresh history), hsettings]
  rfl

namespace Validation

variable {s : Settings} {n : Naming} {c : ClassOutline} {before fs : List Field} {f : Field}

def namedFields (n : Naming) (fs : List Field) : List Field :=
  fs.filter (n.plainName · ≠ "")

def sharedGetter (other name getter : String) : String :=
  "Fields " ++ other ++ " and " ++ name ++ " both resolve to getter " ++ getter ++ "()"

/-- A warning that a field has the getter of an earlier one; it names the nearest of those. -/
def IsGetterWarning (n : Naming) (place : List Field × Field) (warning : String) : Prop :=
  ∃ first other between, place.1 = first ++ other :: between ∧
    n.getterName other = n.getterName place.2 ∧
    (∀ h ∈ between, n.getterName h ≠ n.getterName place.2) ∧
    warning = sharedGetter other.name place.2.name (n.getterName place.2)

def isAboutTwo (warning : String) : Bool := "Fields ".toList.isPrefixOf warning.toList

section Kinds

variable {ps earlier : List Property} {p : Property} {w : String}

theorem isAboutTwo_of_mem_repeatedNames {seen : List String} (h : w ∈ repeatedNames seen fs) :
    isAboutTwo w = false := by
  induction fs generalizing seen with
  | nil => cases h
  | cons f fs ih =>
    rw [repeatedNames, List.mem_append] at h
    rcases h with h | h
    · split at h
      · obtain rfl := List.mem_singleton.mp h
        simp [isAboutTwo, List.isPrefixOf]
      · cases h
    · exact ih h

theorem isAboutTwo_of_mem_classNameWarnings {name : Option String}
    (h : w ∈ classNameWarnings name) : isAboutTwo w = false := by
  rw [classNameWarnings] at h
  split at h
  · cases h
  · obtain ⟨fault, -, rfl⟩ := List.mem_map.mp h
    simp [isAboutTwo, List.isPrefixOf]

theorem isAboutTwo_of_mem_setterWarnings (h : w ∈ setterWarnings p) : isAboutTwo w = false := by
  obtain ⟨fault, -, rfl⟩ := List.mem_map.mp h
  simp [isAboutTwo, List.isPrefixOf]

theorem isAboutTwo_sharedGetter (other name getter : String) :
    isAboutTwo (sharedGetter other name getter) = true := by
  simp [isAboutTwo, sharedGetter, List.isPrefixOf]

theorem isAboutTwo_of_mem_getterWarnings (h : w ∈ getterWarnings earlier p) :
    isAboutTwo w = true := by
  rw [getterWarnings] at h
  split at h
  · obtain rfl := List.mem_singleton.mp h
    exact isAboutTwo_sharedGetter _ _ _
  · cases h

theorem filter_isAboutTwo_warnings (s : Settings) (c : ClassOutline) (ps : List Property) :
    (warnings s c ps).filter isAboutTwo = (nameWarnings s [] ps).filter isAboutTwo := by
  have hrepeated : (repeatedNames [] c.fields).filter isAboutTwo = [] :=
    List.filter_eq_nil_iff.mpr fun w hw ↦ by simp [isAboutTwo_of_mem_repeatedNames hw]
  have hclass : (classNameWarnings c.className).filter isAboutTwo = [] :=
    List.filter_eq_nil_iff.mpr fun w hw ↦ by simp [isAboutTwo_of_mem_classNameWarnings hw]
  have hempty : (if c.className.getD "" = "" then ["Class name is empty"] else []).filter
      isAboutTwo = [] := by
    split <;> rfl
  simp only [warnings, List.filter_append, hrepeated, hclass, hempty, List.nil_append]

theorem filter_isAboutTwo_nameWarnings_cons (s : Settings) (earlier ps : List Property)
    (p : Property) : (nameWarnings s earlier (p :: ps)).filter isAboutTwo =
      if p.names.plain = "" then (nameWarnings s earlier ps).filter isAboutTwo
      else (if s.usesGetters then getterWarnings earlier p else []) ++
        (nameWarnings s (p :: earlier) ps).filter isAboutTwo := by
  rw [nameWarnings]
  split
  · rw [List.filter_cons_of_neg (by simp [isAboutTwo, List.isPrefixOf])]
  · have hsetters :
        (if s.setters.isTruthy then setterWarnings p else []).filter isAboutTwo = [] := by
      refine List.filter_eq_nil_iff.mpr fun w hw ↦ ?_
      split at hw
      · simp [isAboutTwo_of_mem_setterWarnings hw]
      · cases hw
    have hgetters : (if s.usesGetters then getterWarnings earlier p else []).filter isAboutTwo =
        if s.usesGetters then getterWarnings earlier p else [] := by
      refine List.filter_eq_self.mpr fun w hw ↦ ?_
      split at hw
      · exact isAboutTwo_of_mem_getterWarnings hw
      · cases hw
    rw [List.filter_append, List.filter_append, hsetters, List.nil_append]
    exact congrArg (· ++ _) hgetters

end Kinds

section Scan

/-- The fields in front, the last of them first, as the scan keeps them. -/
def scanned (n : Naming) (before : List Field) : List Property := (before.map n.property).reverse

theorem scanned_concat (n : Naming) (before : List Field) (f : Field) :
    scanned n (before ++ [f]) = n.property f :: scanned n before := by
  simp [scanned]

theorem lastWithGetter?_eq_none_iff (earlier : List Property) (getter : String) :
    lastWithGetter? earlier getter = none ↔ getter ∉ earlier.map (·.names.getter) := by
  rw [lastWithGetter?, List.find?_eq_none]
  simp

theorem mem_getters_scanned {getter : String} :
    getter ∈ (scanned n before).map (·.names.getter) ↔ getter ∈ before.map n.getterName := by
  rw [scanned, List.map_reverse, List.mem_reverse, List.map_map]
  rfl

theorem exists_of_lastWithGetter? {getter : String} {p : Property}
    (h : lastWithGetter? (scanned n before) getter = some p) :
    ∃ first between, before = first ++ p.field :: between ∧ n.getterName p.field = getter ∧
      ∀ h ∈ between, n.getterName h ≠ getter := by
  rw [lastWithGetter?, scanned, ← List.map_reverse, List.find?_map, Option.map_eq_some_iff] at h
  obtain ⟨other, hfind, rfl⟩ := h
  obtain ⟨hgetter, between, first, hsplit, hbetween⟩ := List.find?_eq_some_iff_append.mp hfind
  refine ⟨first.reverse, between.reverse, ?_, beq_iff_eq.mp hgetter, ?_⟩
  · rw [← List.reverse_inj, hsplit]
    simp [Naming.property]
  · intro h hh
    simpa [Naming.property, Naming.names] using hbetween h (List.mem_reverse.mp hh)

theorem getterWarnings_scanned (n : Naming) (before : List Field) (f : Field) :
    (n.getterName f ∉ before.map n.getterName ∧
        getterWarnings (scanned n before) (n.property f) = []) ∨
      n.getterName f ∈ before.map n.getterName ∧
        ∃ w, getterWarnings (scanned n before) (n.property f) = [w] ∧
          IsGetterWarning n (before, f) w := by
  rw [getterWarnings]
  cases hlast : lastWithGetter? (scanned n before) (n.property f).names.getter with
  | none =>
    refine .inl ⟨?_, rfl⟩
    rw [← mem_getters_scanned]
    exact (lastWithGetter?_eq_none_iff ..).mp hlast
  | some p =>
    obtain ⟨first, between, hsplit, hgetter, hbetween⟩ := exists_of_lastWithGetter? hlast
    have hmem : p.field ∈ before := hsplit ▸ List.mem_append_right _ (.head _)
    exact .inr ⟨List.mem_map.mpr ⟨p.field, hmem, hgetter⟩, _, rfl, first, p.field, between, hsplit,
      hgetter, hbetween, rfl⟩

/-- The scan warns of just the fields whose getter an earlier one has. -/
theorem forall₂_nameWarnings (hs : s.usesGetters = true) (before fs : List Field) :
    List.Forall₂ (IsGetterWarning s.naming)
      (repeaters s.naming.getterName before (namedFields s.naming fs))
      ((nameWarnings s (scanned s.naming before) (fs.map s.naming.property)).filter
        isAboutTwo) := by
  induction fs generalizing before with
  | nil => exact .nil
  | cons f fs ih =>
    rw [List.map_cons, filter_isAboutTwo_nameWarnings_cons, namedFields]
    change List.Forall₂ _ _ (if s.naming.plainName f = "" then _ else _)
    by_cases hplain : s.naming.plainName f = ""
    · rw [if_pos hplain, List.filter_cons_of_neg (by simp [hplain])]
      exact ih before
    rw [if_neg hplain, if_pos hs, List.filter_cons_of_pos (by simp [hplain]), repeaters_cons,
      ← scanned_concat]
    rcases getterWarnings_scanned s.naming before f with ⟨hnew, hnone⟩ | ⟨hold, w, hone, hw⟩
    · rw [if_neg hnew, hnone]
      exact ih (before ++ [f])
    · rw [if_pos hold, hone]
      exact .cons hw (ih (before ++ [f]))

theorem filter_isAboutTwo_nameWarnings_of_not_usesGetters (hs : s.usesGetters = false)
    (earlier ps : List Property) : (nameWarnings s earlier ps).filter isAboutTwo = [] := by
  induction ps generalizing earlier with
  | nil => rfl
  | cons p ps ih =>
    rw [filter_isAboutTwo_nameWarnings_cons, hs, ih, ih]
    split <;> rfl

end Scan

/-- Where getters are used, the warnings about two fields are one for each field whose getter an
earlier one has; else there are none. -/
theorem getterWarnings_exact (limits : Limits) (s : Settings) (hasTemplates : Bool)
    (history : List Request) (c : ClassOutline) :
    let g := ((Session.start (.ofSettings limits s hasTemplates)).after history).generator
    let named := namedFields s.naming c.fields
    let about := (g.validate c).1.filter isAboutTwo
    (∀ other name getter, sharedGetter other name getter ∈ (g.validate c).1 →
        sharedGetter other name getter ∈ about) ∧
      (s.usesGetters = true →
        List.Forall₂ (IsGetterWarning s.naming) (repeaters s.naming.getterName [] named) about ∧
          about.length + (named.map s.naming.getterName).toFinset.card = named.length) ∧
      (s.usesGetters = false → about = []) := by
  intro g named about
  have habout : about = (nameWarnings s [] (c.fields.map s.naming.property)).filter isAboutTwo := by
    rw [← filter_isAboutTwo_warnings s c, ← Generator.directProperties,
      ← Session.validate_after limits s hasTemplates history]
  refine ⟨fun other name getter hw ↦ ?_, ?_⟩
  · exact List.mem_filter.mpr ⟨hw, isAboutTwo_sharedGetter other name getter⟩
  rw [habout]
  refine ⟨fun hs ↦ ?_, fun hs ↦ filter_isAboutTwo_nameWarnings_of_not_usesGetters hs _ _⟩
  have hscan := forall₂_nameWarnings hs [] c.fields
  exact ⟨hscan, hscan.length_eq ▸ length_repeaters s.naming.getterName named⟩

theorem getterWarnings_exact_lamp :
    let limits := Limits.usual
    let s := { Settings.default with equalsHash := .bool true }
    let field (type name : String) := (Field.make? type name 1).toOption.toList
    let lamp : ClassOutline :=
      ⟨some "Lamp", field "boolean" "on" ++ field "boolean" "isOn" ++ field "Boolean" "On", 0⟩
    let about := (((Generator.ofSettings limits s true).validate lamp).1).filter isAboutTwo
    Settings.ofMerged (Settings.merge [[("equals_hash", .bool true)]]) = .ok s ∧
      about.length + 1 = 3 ∧
      about = [sharedGetter "on" "isOn" "isOn", sharedGetter "isOn" "On" "isOn"] := by
  intro limits s field lamp about
  obtain ⟨-, hused, -⟩ := getterWarnings_exact limits s true [] lamp
  obtain ⟨-, hcount⟩ := hused rfl
  have hfields : (namedFields s.naming lamp.fields).length = 3 := by decide +kernel
  have hgetters :
      ((namedFields s.naming lamp.fields).map s.naming.getterName).toFinset.card = 1 := by
    decide +kernel
  rw [hfields, hgetters] at hcount
  exact ⟨rfl, hcount, by decide +kernel⟩

end Validation

end Boilerplate
