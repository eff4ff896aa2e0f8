import Boilerplate.Proofs.Generation.GetterWarnings

namespace Boilerplate

section Keys

variable {α : Type} {key : α} {keys seen : List α}

/-- Keys that occur neither twice nor among those seen before. -/
def IsFresh (seen keys : List α) : Prop := keys.Nodup ∧ ∀ key ∈ keys, key ∉ seen

theorem isFresh_nil : IsFresh seen [] := ⟨.nil, nofun⟩

theorem isFresh_cons :
    IsFresh seen (key :: keys) ↔ key ∉ seen ∧ IsFresh (key :: seen) keys := by
  rw [IsFresh, IsFresh, List.nodup_cons, List.forall_mem_cons]
  constructor
  · rintro ⟨⟨hkey, hnodup⟩, hseen, hrest⟩
    refine ⟨hseen, hnodup, fun other hother ↦ ?_⟩
    exact List.not_mem_cons_of_ne_of_not_mem (fun he ↦ hkey (he ▸ hother)) (hrest other hother)
  · rintro ⟨hseen, hnodup, hrest⟩
    refine ⟨⟨fun hkey ↦ hrest key hkey (.head _), hnodup⟩, hseen, fun other hother ↦ ?_⟩
    exact List.not_mem_of_not_mem_cons (hrest other hother)

theorem isFresh_nil_left : IsFresh [] keys ↔ keys.Nodup := by
  simp [IsFresh]

theorem ne_of_nodup_map {β : Type} {f : β → α} {x y : β} {xs : List β} (h : [x, y].Sublist xs)
    (hxs : (xs.map f).Nodup) : f x ≠ f y := by
  have hpair : [f x, f y].Nodup := (h.map f).nodup hxs
  simpa using hpair

end Keys

theorem Naming.getterName_eq_of_setterName_eq {n : Naming} {f h : Field} (ht : f.type = h.type)
    (hb : f.isBoolean = false) (hs : n.setterName f = n.setterName h) :
    n.getterName f = n.getterName h := by
  have hb' : h.isBoolean = false := by rwa [Field.isBoolean, ← ht]
  rw [setterName, setterName, String.append_right_inj] at hs
  simp [getterName, fragment, hb, hb', hs]

namespace Validation

variable {s : Settings} {c : ClassOutline} {fs : List Field} {earlier : List Property}

structure Passes (s : Settings) (c : ClassOutline) : Prop where
  className : Identifier.faults (c.className.getD "") = []
  names_nodup : (c.fields.map Field.name).Nodup
  plainName_ne_empty : ∀ f ∈ c.fields, s.naming.plainName f ≠ ""
  parameters : s.setters.isTruthy = true →
    ∀ f ∈ c.fields, Identifier.faults (s.naming.plainName f) = []
  getters_nodup : s.usesGetters = true → (c.fields.map s.naming.getterName).Nodup

theorem repeatedNames_eq_nil_iff {seen : List String} :
    repeatedNames seen fs = [] ↔ IsFresh seen (fs.map Field.name) := by
  induction fs generalizing seen with
  | nil => simp [repeatedNames, isFresh_nil]
  | cons f fs ih =>
    rw [repeatedNames, List.append_eq_nil_iff, List.map_cons, isFresh_cons, ih]
    simp

theorem classNameWarnings_eq_nil_iff (name : Option String) :
    (if name.getD "" = "" then ["Class name is empty"] else []) ++ classNameWarnings name = [] ↔
      Identifier.faults (name.getD "") = [] := by
  by_cases hname : name.getD "" = ""
  · simp [hname, Identifier.faults]
  · rw [if_neg hname, List.nil_append, classNameWarnings]
    split
    · next he => exact absurd he hname
    · rw [List.map_eq_nil_iff]

theorem nameWarnings_eq_nil_iff : nameWarnings s earlier (fs.map s.naming.property) = [] ↔
    (∀ f ∈ fs, s.naming.plainName f ≠ "") ∧
      (s.setters.isTruthy = true → ∀ f ∈ fs, Identifier.faults (s.naming.plainName f) = []) ∧
      (s.usesGetters = true →
        IsFresh (earlier.map (·.names.getter)) (fs.map s.naming.getterName)) := by
  induction fs generalizing earlier with
  | nil => simp [nameWarnings, isFresh_nil]
  | cons f fs ih =>
    have hsetter : setterWarnings (s.naming.property f) = [] ↔
        Identifier.faults (s.naming.plainName f) = [] := List.map_eq_nil_iff
    have hgetter : getterWarnings earlier (s.naming.property f) = [] ↔
        s.naming.getterName f ∉ earlier.map (·.names.getter) := by
      rw [← lastWithGetter?_eq_none_iff, getterWarnings]
      cases h : lastWithGetter? earlier (s.naming.property f).names.getter with
      | none => exact ⟨fun _ ↦ h, fun _ ↦ rfl⟩
      | some p =>
        refine iff_of_false (List.cons_ne_nil _ _) fun hnone ↦ ?_
        exact Option.some_ne_none p (h.symm.trans hnone)
    have huses : (if s.getters.isTruthy || s.equalsHash.isTruthy then
        getterWarnings earlier (s.naming.property f) else []) = [] ↔ (s.usesGetters = true →
          s.naming.getterName f ∉ earlier.map (·.names.getter)) := by
      rw [← hgetter]
      exact ite_eq_right_iff
    have hparameters : (if s.setters.isTruthy then setterWarnings (s.naming.property f) else []) =
        [] ↔ (s.setters.isTruthy = true → Identifier.faults (s.naming.plainName f) = []) := by
      rw [← hsetter]
      exact ite_eq_right_iff
    rw [List.map_cons, nameWarnings, List.forall_mem_cons, List.map_cons]
    by_cases hplain : (s.naming.property f).names.plain = ""
    · rw [if_pos hplain]
      exact iff_of_false (List.cons_ne_nil _ _) fun hall ↦ hall.1.1 hplain
    rw [if_neg hplain, List.append_eq_nil_iff, List.append_eq_nil_iff, hparameters, huses, ih,
      List.map_cons]
    simp only [List.forall_mem_cons, isFresh_cons]
    constructor
    · rintro ⟨⟨hlegal, hnew⟩, hall, hlegals, hfresh⟩
      exact ⟨⟨hplain, hall⟩, fun hs ↦ ⟨hlegal hs, hlegals hs⟩, fun hs ↦ ⟨hnew hs, hfresh hs⟩⟩
    · rintro ⟨⟨-, hall⟩, hlegals, hfresh⟩
      exact ⟨⟨fun hs ↦ (hlegals hs).1, fun hs ↦ (hfresh hs).1⟩, hall, fun hs ↦ (hlegals hs).2,
        fun hs ↦ (hfresh hs).2⟩

theorem warnings_eq_nil_iff (s : Settings) (c : ClassOutline) :
    warnings s c (Generator.directProperties s c) = [] ↔ Passes s c := by
  have hclass := classNameWarnings_eq_nil_iff c.className
  rw [List.append_eq_nil_iff] at hclass
  simp only [warnings, List.append_eq_nil_iff, Generator.directProperties, nameWarnings_eq_nil_iff,
    repeatedNames_eq_nil_iff, List.map_nil, isFresh_nil_left]
  constructor
  · rintro ⟨⟨⟨hempty, hnodup⟩, hfaults⟩, hplain, hparameters, hgetters⟩
    exact ⟨hclass.mp ⟨hempty, hfaults⟩, hnodup, hplain, hparameters, hgetters⟩
  · intro h
    obtain ⟨hempty, hfaults⟩ := hclass.mpr h.className
    exact ⟨⟨⟨hempty, h.names_nodup⟩, hfaults⟩, h.plainName_ne_empty, h.parameters, h.getters_nodup⟩

/-- Of two fields with one getter there is a warning where getters are used. Of two fields of one
type with one setter there may be none: then their names differ and are legal parameters, and the
getters differ too if they are used, which takes a boolean type. -/
theorem duplicateAccessors_reported (limits : Limits) (s : Settings) (hasTemplates : Bool)
    (history : List Request) (c : ClassOutline) {f h : Field}
    (hfields : [f, h].Sublist c.fields) :
    let g := ((Session.start (.ofSettings limits s hasTemplates)).after history).generator
    (s.usesGetters = true → s.naming.getterName f = s.naming.getterName h →
        (g.validate c).1 ≠ []) ∧
      (s.setters.isTruthy = true → s.naming.setterName f = s.naming.setterName h →
        f.type = h.type → (g.validate c).1 ≠ [] ∨ f.name ≠ h.name ∧
          (∀ k ∈ [f, h], Identifier.faults (s.naming.plainName k) = []) ∧
          (s.usesGetters = true →
            f.isBoolean = true ∧ s.naming.getterName f ≠ s.naming.getterName h)) ∧
      ((g.validate c).1 = [] ↔ Passes s c) := by
  intro g
  have hpasses : (g.validate c).1 = [] ↔ Passes s c := by
    rw [Session.validate_after]
    exact warnings_eq_nil_iff s c
  have hgetters : (g.validate c).1 = [] → s.usesGetters = true →
      s.naming.getterName f ≠ s.naming.getterName h := fun hnone huses ↦
    ne_of_nodup_map hfields ((hpasses.mp hnone).getters_nodup huses)
  refine ⟨fun huses hsame hnone ↦ hgetters hnone huses hsame, fun hs hsetter htype ↦ ?_, hpasses⟩
  refine or_iff_not_imp_left.mpr fun hsilent ↦ ?_
  have hnone : (g.validate c).1 = [] := not_not.mp hsilent
  refine ⟨ne_of_nodup_map hfields (hpasses.mp hnone).names_nodup,
    fun k hk ↦ (hpasses.mp hnone).parameters hs k (hfields.subset hk), fun huses ↦ ?_⟩
  have hdiffer := hgetters hnone huses
  refine ⟨?_, hdiffer⟩
  by_contra hboolean
  exact hdiffer (Naming.getterName_eq_of_setterName_eq htype (by simpa using hboolean) hsetter)

section Sample

theorem duplicateAccessors_reported_car :
    let limits := Limits.usual
    let s := { Settings.default with getters := .bool true, setters := .bool true }
    let low : Field := ⟨"int", "speed", 1, by decide, by decide,
      Text.isBlank_eq_false_of_any (by decide)⟩
    let high : Field := ⟨"int", "Speed", 2, by decide, by decide,
      Text.isBlank_eq_false_of_any (by decide)⟩
    let car : ClassOutline := ⟨some "Car", [low, high], 0⟩
    [low, high].Sublist car.fields ∧
      (((Session.start (.ofSettings limits s true)).after [.run car]).generator.validate car).1 ≠
        [] := by
  intro limits s low high car
  have hfields : [low, high].Sublist car.fields := .refl _
  exact ⟨hfields, (duplicateAccessors_reported limits s true [.run car] car hfields).1 rfl
    (by decide)⟩

/-- Two setters with one name and one type of parameter, and no warning. -/
theorem duplicateSetters_not_reported :
    let limits := Limits.usual
    let s := { Settings.default with setters := .bool true }
    let low : Field := ⟨"int", "speed", 1, by decide, by decide,
      Text.isBlank_eq_false_of_any (by decide)⟩
    let high : Field := ⟨"int", "Speed", 2, by decide, by decide,
      Text.isBlank_eq_false_of_any (by decide)⟩
    let car : ClassOutline := ⟨some "Car", [low, high], 0⟩
    Settings.ofMerged (Settings.merge [[("setters", .bool true)]]) = .ok s ∧
      s.setters.isTruthy = true ∧ [low, high].Sublist car.fields ∧
      s.naming.plainName low ≠ "" ∧ s.naming.plainName high ≠ "" ∧
      s.naming.setterName low = s.naming.setterName high ∧ low.type = high.type ∧
      ((Generator.ofSettings limits s true).validate car).1 = [] := by
  intro limits s low high car
  exact ⟨rfl, rfl, .refl _, by decide, by decide, by decide, rfl, by decide +kernel⟩

end Sample

end Validation

end Boilerplate
