import Boilerplate.Generation.Session

namespace Boilerplate

theorem Naming.names_congr (n : Naming) {f f' : Field} (ht : f.type = f'.type)
    (hn : f.name = f'.name) : n.names f = n.names f' := by
  cases f
  cases f'
  subst ht hn
  rfl

namespace NameCache

variable {n : Naming} {c c' c'' : NameCache} {f : Field} {e : CachedNames}

def Holds (n : Naming) (e : CachedNames) : Prop :=
  ∃ f : Field, e.type = f.type ∧ e.name = f.name ∧ e.names = n.names f

structure Sound (n : Naming) (c : NameCache) : Prop where
  holds : ∀ e ∈ c.entries, Holds n e
  serial_lt : ∀ e ∈ c.entries, e.serial < c.issued

/-- What resolutions do to a cache: no entry is lost, and new ones have new numbers. -/
structure Grows (n : Naming) (c c' : NameCache) : Prop where
  kept : ∀ f e, c.find? f = some e → c'.find? f = some e
  issued_le : c.issued ≤ c'.issued
  added : ∀ e ∈ c'.entries,
    e ∈ c.entries ∨ c.issued ≤ e.serial ∧ e.serial < c'.issued ∧ Holds n e

theorem Holds.names_eq (h : Holds n e) (ht : e.type = f.type) (hn : e.name = f.name) :
    e.names = n.names f := by
  obtain ⟨f', ht', hn', hnames⟩ := h
  rw [hnames]
  exact n.names_congr (ht'.symm.trans ht) (hn'.symm.trans hn)

theorem Sound.empty : Sound n .empty := by
  constructor <;> intro e he <;> cases he

theorem Sound.clear : Sound n c.clear := by
  constructor <;> intro e he <;> cases he

theorem Grows.refl (n : Naming) (c : NameCache) : Grows n c c :=
  ⟨fun _ _ h ↦ h, Nat.le_refl _, fun _ h ↦ .inl h⟩

theorem Grows.trans (h : Grows n c c') (h' : Grows n c' c'') : Grows n c c'' := by
  refine ⟨fun f e he ↦ h'.kept f e (h.kept f e he), Nat.le_trans h.issued_le h'.issued_le, ?_⟩
  intro e he
  rcases h'.added e he with he | ⟨hle, hlt, hholds⟩
  · rcases h.added e he with he | ⟨hle, hlt, hholds⟩
    · exact .inl he
    · exact .inr ⟨hle, Nat.lt_of_lt_of_le hlt h'.issued_le, hholds⟩
  · exact .inr ⟨Nat.le_trans h.issued_le hle, hlt, hholds⟩

theorem Grows.sound (h : Grows n c c') (hs : Sound n c) : Sound n c' := by
  constructor
  · intro e he
    rcases h.added e he with he | ⟨-, -, hholds⟩
    · exact hs.holds e he
    · exact hholds
  · intro e he
    rcases h.added e he with he | ⟨-, hlt, -⟩
    · exact Nat.lt_of_lt_of_le (hs.serial_lt e he) h.issued_le
    · exact hlt

theorem Grows.clear (h : Grows n c c') : Grows n c.clear c'.clear := by
  refine ⟨?_, h.issued_le, ?_⟩
  · intro f e he
    cases he
  · intro e he
    cases he

theorem find?_spec (h : c.find? f = some e) :
    e ∈ c.entries ∧ e.type = f.type ∧ e.name = f.name := by
  refine ⟨List.mem_of_find?_eq_some h, ?_⟩
  have hkey := List.find?_some h
  simpa using hkey

theorem find?_congr {f' : Field} (ht : f.type = f'.type) (hn : f.name = f'.name) :
    c.find? f = c.find? f' := by
  rw [find?, find?, ht, hn]

theorem resolve_of_find? (h : c.find? f = some e) : c.resolve n f = (e, c) := by
  rw [resolve, h]

theorem resolve_of_find?_eq_none (h : c.find? f = none) :
    c.resolve n f = (⟨f.type, f.name, n.names f, c.issued⟩,
      ⟨⟨f.type, f.name, n.names f, c.issued⟩ :: c.entries, c.issued + 1⟩) := by
  rw [resolve, h]

theorem resolve_grows (n : Naming) (c : NameCache) (f : Field) :
    Grows n c (c.resolve n f).2 := by
  cases h : c.find? f with
  | some e =>
    rw [resolve_of_find? h]
    exact Grows.refl n c
  | none =>
    rw [resolve_of_find?_eq_none h]
    refine ⟨?_, Nat.le_succ _, ?_⟩
    · intro f' e he
      have hne : ¬(f.type = f'.type ∧ f.name = f'.name) := by
        intro hkey
        rw [find?_congr hkey.1 hkey.2, he] at h
        cases h
      rw [find?, List.find?_cons_of_neg (by simpa using hne)]
      exact he
    · intro e he
      rcases List.mem_cons.mp he with rfl | he
      · exact .inr ⟨Nat.le_refl _, Nat.lt_succ_self _, f, rfl, rfl, rfl⟩
      · exact .inl he

theorem find?_resolve (n : Naming) (c : NameCache) (f : Field) :
    (c.resolve n f).2.find? f = some (c.resolve n f).1 := by
  cases h : c.find? f with
  | some e => rw [resolve_of_find? h, h]
  | none =>
    rw [resolve_of_find?_eq_none h, find?, List.find?_cons_of_pos (by simp)]

theorem Sound.names_resolve (h : Sound n c) (f : Field) :
    (c.resolve n f).1.names = n.names f := by
  obtain ⟨hmem, ht, hn⟩ := find?_spec (find?_resolve n c f)
  exact (((resolve_grows n c f).sound h).holds _ hmem).names_eq ht hn

theorem properties_cons (n : Naming) (c : NameCache) (f : Field) (fs : List Field) :
    c.properties n (f :: fs) =
      (⟨f, (c.resolve n f).1.names⟩ :: ((c.resolve n f).2.properties n fs).1,
        ((c.resolve n f).2.properties n fs).2) := rfl

theorem properties_grows (n : Naming) (c : NameCache) (fs : List Field) :
    Grows n c (c.properties n fs).2 := by
  induction fs generalizing c with
  | nil => exact Grows.refl n c
  | cons f fs ih =>
    rw [properties_cons]
    exact (resolve_grows n c f).trans (ih _)

theorem Sound.properties_fst (h : Sound n c) (fs : List Field) :
    (c.properties n fs).1 = fs.map n.property := by
  induction fs generalizing c with
  | nil => rfl
  | cons f fs ih =>
    rw [properties_cons, List.map_cons, ih ((resolve_grows n c f).sound h), h.names_resolve f]
    rfl

end NameCache

namespace Generator

open Text (CodePoints)

variable {g : Generator} {s : Settings}

def directProperties (s : Settings) (c : ClassOutline) : List Property :=
  c.fields.map s.naming.property

theorem sections_of_not_usesNames (limits : Limits) (h : usesNames s = false) (c : ClassOutline)
    (ps : List Property) : sections limits s c ps = sections limits s c [] := by
  simp only [usesNames, Bool.or_eq_false_iff] at h
  simp [sections, h]

theorem generate_fst (g : Generator) (c : ClassOutline) :
    (g.generate c).1 =
      if g.hasTemplates then
        sectionsText? g.settings.indentSize
          (sections g.limits g.settings c (directProperties g.settings c))
      else .error (.missingTemplate Layout.methodTemplate) := by
  rw [generate]
  by_cases ht : g.hasTemplates = true
  · rw [if_pos ht, if_pos ht]
    by_cases hu : usesNames g.settings = true
    · simp only [hu, ↓reduceIte, NameCache.Sound.clear.properties_fst, directProperties]
    · rw [sections_of_not_usesNames g.limits (by simpa using hu) c (directProperties g.settings c)]
      simp only [hu, Bool.false_eq_true, ↓reduceIte]
  · rw [if_neg ht, if_neg ht]

theorem ofSettings_sound (limits : Limits) (s : Settings) (hasTemplates : Bool) :
    (ofSettings limits s hasTemplates).cache.Sound
      (ofSettings limits s hasTemplates).settings.naming := .empty

theorem validate_fst (h : g.cache.Sound g.settings.naming) (c : ClassOutline) :
    (g.validate c).1 = Validation.warnings g.settings c (directProperties g.settings c) := by
  simp only [validate, h.properties_fst, directProperties]

/-- The same generator with another cache, which comes from the given one by resolutions. -/
structure Moves (g : Generator) (c : NameCache) (g' : Generator) : Prop where
  limits_eq : g'.limits = g.limits
  settings_eq : g'.settings = g.settings
  hasTemplates_eq : g'.hasTemplates = g.hasTemplates
  grows : c.Grows g.settings.naming g'.cache

theorem Moves.refl (g : Generator) : g.Moves g.cache g := ⟨rfl, rfl, rfl, .refl _ _⟩

theorem validate_moves (g : Generator) (c : ClassOutline) : g.Moves g.cache (g.validate c).2 :=
  ⟨rfl, rfl, rfl, NameCache.properties_grows _ _ _⟩

theorem generate_moves (ht : g.hasTemplates = true) (c : ClassOutline) :
    g.Moves g.cache.clear (g.generate c).2 := by
  rw [generate, if_pos ht]
  by_cases hu : usesNames g.settings = true
  · simp only [hu, ↓reduceIte]
    exact ⟨rfl, rfl, rfl, NameCache.properties_grows _ _ _⟩
  · simp only [hu, Bool.false_eq_true, ↓reduceIte]
    exact ⟨rfl, rfl, rfl, .refl _ _⟩

theorem generate_snd (ht : g.hasTemplates = false) (c : ClassOutline) :
    (g.generate c).2 = g := by
  simp [generate, ht]

theorem run_of_informational {c : ClassOutline} {message : CodePoints}
    (h : informational? g.settings c = some message) :
    g.run c = (⟨message ++ [Text.lineFeed], [], some ⟨c.className, c.fields.length⟩, none⟩, g) := by
  simp only [run, h]

theorem run_snd {c : ClassOutline} (h : informational? g.settings c = none) :
    (g.run c).2 = ((g.validate c).2.generate c).2 := by
  simp only [run, h]
  split <;> next hg => rw [hg]

def resultOf (warnings : List String) (metadata : Metadata) :
    Except GenerationError String → Result
  | .error e => .failed e
  | .ok text => ⟨Text.tidy text, warnings.map .ofString, some metadata, none⟩

theorem run_fst {c : ClassOutline} (h : informational? g.settings c = none) :
    (g.run c).1 = resultOf (g.validate c).1 ⟨c.className, c.fields.length⟩
      ((g.validate c).2.generate c).1 := by
  simp only [run, h]
  split <;> next hg => simp only [hg, resultOf]

theorem run_fst_eq_fresh (h : g.cache.Sound g.settings.naming) (c : ClassOutline) :
    (g.run c).1 = ((ofSettings g.limits g.settings g.hasTemplates).run c).1 := by
  let fresh := ofSettings g.limits g.settings g.hasTemplates
  change (g.run c).1 = (fresh.run c).1
  cases hi : informational? g.settings c with
  | some message =>
    have hf : informational? fresh.settings c = some message := hi
    rw [run_of_informational hi, run_of_informational hf]
  | none =>
    have hf : informational? fresh.settings c = none := hi
    rw [run_fst hi, run_fst hf, validate_fst h, validate_fst (ofSettings_sound ..), generate_fst,
      generate_fst]
    rfl

end Generator

end Boilerplate
