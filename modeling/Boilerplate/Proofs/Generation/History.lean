import Boilerplate.Proofs.Generation.ResolvedNames

namespace Boilerplate

/-- What a reply says, apart from whether names come from the entry of an earlier resolution. -/
def Reply.content : Reply → Reply
  | .names given _ => .names given false
  | reply => reply

def Reply.ofText : Except GenerationError String → Reply
  | .ok code => .text code
  | .error e => .failed e

/-- Whether a request makes a generator forget the names that it has resolved. Writing code does,
unless the layouts are not at hand or there is nothing to write. -/
def Request.Forgets (s : Settings) (hasTemplates : Bool) : Request → Prop
  | .forgetNames => True
  | .generate _ => hasTemplates = true
  | .run c => hasTemplates = true ∧ Generator.informational? s c = none
  | _ => False

namespace NameCache

variable {n : Naming} {c c' : NameCache} {k : Nat}

def Since (k : Nat) (c : NameCache) : Prop := k ≤ c.issued ∧ ∀ e ∈ c.entries, k ≤ e.serial

theorem clear_since (h : k ≤ c.issued) : c.clear.Since k := by
  refine ⟨h, ?_⟩
  intro e he
  cases he

theorem Grows.since (h : Grows n c c') (hs : c.Since k) : c'.Since k := by
  refine ⟨Nat.le_trans hs.1 h.issued_le, ?_⟩
  intro e he
  rcases h.added e he with he | ⟨hle, -, -⟩
  · exact hs.2 e he
  · exact Nat.le_trans hs.1 hle

end NameCache

namespace Session

variable {s : Session} {r : Request} {rs : List Request}

def after (s : Session) (rs : List Request) : Session := rs.foldl (fun s r ↦ (s.answer r).2) s

def entryOf (s : Session) (f : Field) : CachedNames :=
  (s.generator.cache.resolve s.generator.settings.naming f).1

def Forgets (s : Session) (r : Request) : Prop :=
  r.Forgets s.generator.settings s.generator.hasTemplates

section Step

theorem answer_generate (s : Session) (c : ClassOutline) :
    s.answer (.generate c) =
      (.ofText (s.generator.generate c).1, { s with generator := (s.generator.generate c).2 }) := by
  simp only [answer]
  split <;> next hg => rw [hg, Reply.ofText]

theorem answer_moves (h : ¬s.Forgets r) :
    s.generator.Moves s.generator.cache (s.answer r).2.generator := by
  cases r with
  | resolve f => exact ⟨rfl, rfl, rfl, NameCache.resolve_grows _ _ _⟩
  | plainName | fragment | getterName | setterName | tidy => exact .refl _
  | forgetNames => exact absurd trivial h
  | validate c => exact Generator.validate_moves _ c
  | generate c =>
    have ht : s.generator.hasTemplates = false := by simpa [Forgets, Request.Forgets] using h
    simp only [answer_generate, Generator.generate_snd ht]
    exact .refl _
  | run c =>
    change s.generator.Moves s.generator.cache (s.generator.run c).2
    cases hi : Generator.informational? s.generator.settings c with
    | some message =>
      rw [Generator.run_of_informational hi]
      exact .refl _
    | none =>
      have ht : s.generator.hasTemplates = false := by
        simpa [Forgets, Request.Forgets, hi] using h
      have hv := Generator.validate_moves s.generator c
      rw [Generator.run_snd hi, Generator.generate_snd (hv.hasTemplates_eq.trans ht)]
      exact hv

theorem answer_moves_of_forgets (h : s.Forgets r) :
    s.generator.Moves s.generator.cache.clear (s.answer r).2.generator := by
  cases r with
  | resolve | plainName | fragment | getterName | setterName | tidy | validate => cases h
  | forgetNames => exact ⟨rfl, rfl, rfl, .refl _ _⟩
  | generate c =>
    rw [answer_generate]
    exact Generator.generate_moves h c
  | run c =>
    change s.generator.Moves s.generator.cache.clear (s.generator.run c).2
    have hv := Generator.validate_moves s.generator c
    have hg := Generator.generate_moves (hv.hasTemplates_eq.trans h.1) c
    rw [Generator.run_snd h.2]
    -- What the validation has resolved is forgotten as well; only its numbers stay used.
    exact ⟨hg.limits_eq.trans hv.limits_eq, hg.settings_eq.trans hv.settings_eq,
      hg.hasTemplates_eq.trans hv.hasTemplates_eq,
      hv.grows.clear.trans (hv.settings_eq ▸ hg.grows)⟩

theorem answer_settings (s : Session) (r : Request) :
    (s.answer r).2.generator.limits = s.generator.limits ∧
      (s.answer r).2.generator.settings = s.generator.settings ∧
      (s.answer r).2.generator.hasTemplates = s.generator.hasTemplates := by
  by_cases h : s.Forgets r
  · have hm := answer_moves_of_forgets h
    exact ⟨hm.limits_eq, hm.settings_eq, hm.hasTemplates_eq⟩
  · have hm := answer_moves h
    exact ⟨hm.limits_eq, hm.settings_eq, hm.hasTemplates_eq⟩

theorem answer_sound (h : s.generator.cache.Sound s.generator.settings.naming) (r : Request) :
    (s.answer r).2.generator.cache.Sound s.generator.settings.naming := by
  by_cases hr : s.Forgets r
  · exact (answer_moves_of_forgets hr).grows.sound .clear
  · exact (answer_moves hr).grows.sound h

theorem answer_since {k : Nat} (h : s.generator.cache.Since k) (r : Request) :
    (s.answer r).2.generator.cache.Since k := by
  by_cases hr : s.Forgets r
  · exact (answer_moves_of_forgets hr).grows.since (NameCache.clear_since h.1)
  · exact (answer_moves hr).grows.since h

theorem content_answer (h : s.generator.cache.Sound s.generator.settings.naming) (r : Request) :
    (s.answer r).1.content =
      ((start (.ofSettings s.generator.limits s.generator.settings
        s.generator.hasTemplates)).answer r).1 := by
  cases r with
  | resolve f =>
    have hempty := NameCache.Sound.empty (n := s.generator.settings.naming)
    simp only [answer, start, Generator.ofSettings, Reply.content, h.names_resolve,
      hempty.names_resolve, lastResolved?, List.find?_nil, Option.any_none]
  | plainName | fragment | getterName | setterName | tidy | forgetNames => rfl
  | validate c =>
    have hfresh := Generator.ofSettings_sound s.generator.limits s.generator.settings
      s.generator.hasTemplates
    simp only [answer, start, Generator.validate_fst h, Generator.validate_fst hfresh]
    rfl
  | generate c =>
    have hcontent (x : Except GenerationError String) : (Reply.ofText x).content = .ofText x := by
      cases x <;> rfl
    rw [answer_generate, answer_generate, hcontent, Generator.generate_fst, Generator.generate_fst]
    rfl
  | run c =>
    change Reply.content (.result (s.generator.run c).1) = _
    rw [Generator.run_fst_eq_fresh h]
    rfl

theorem lastResolved?_answer {f : Field}
    (h : ∀ f', r = .resolve f' → ¬(f'.type = f.type ∧ f'.name = f.name)) :
    (s.answer r).2.lastResolved? f = s.lastResolved? f := by
  cases r with
  | resolve f' =>
    obtain ⟨-, ht, hn⟩ := NameCache.find?_spec
      (NameCache.find?_resolve s.generator.settings.naming s.generator.cache f')
    have hne := h f' rfl
    rw [← ht, ← hn] at hne
    change (s.entryOf f' :: s.resolved).find? _ = _
    rw [List.find?_cons_of_neg (by simpa [entryOf] using hne)]
    rfl
  | plainName | fragment | getterName | setterName | tidy | forgetNames | validate | run => rfl
  | generate c =>
    rw [answer_generate]
    rfl

end Step

section Run

theorem after_cons (s : Session) (r : Request) (rs : List Request) :
    s.after (r :: rs) = (s.answer r).2.after rs := rfl

theorem after_settings (s : Session) (rs : List Request) :
    (s.after rs).generator.limits = s.generator.limits ∧
      (s.after rs).generator.settings = s.generator.settings ∧
      (s.after rs).generator.hasTemplates = s.generator.hasTemplates := by
  induction rs generalizing s with
  | nil => exact ⟨rfl, rfl, rfl⟩
  | cons r rs ih =>
    have h := answer_settings s r
    rw [after_cons, (ih _).1, (ih _).2.1, (ih _).2.2]
    exact h

theorem after_sound (h : s.generator.cache.Sound s.generator.settings.naming)
    (rs : List Request) : (s.after rs).generator.cache.Sound s.generator.settings.naming := by
  induction rs generalizing s with
  | nil => exact h
  | cons r rs ih =>
    have hr := answer_sound h r
    rw [← (answer_settings s r).2.1] at hr ⊢
    exact ih hr

theorem after_since {k : Nat} (h : s.generator.cache.Since k) (rs : List Request) :
    (s.after rs).generator.cache.Since k := by
  induction rs generalizing s with
  | nil => exact h
  | cons r rs ih => exact ih (answer_since h r)

theorem forgets_answer (s : Session) (r : Request) : (s.answer r).2.Forgets = s.Forgets := by
  funext r'
  rw [Forgets, Forgets, (answer_settings s r).2.1, (answer_settings s r).2.2]

theorem after_grows (h : ∀ r ∈ rs, ¬s.Forgets r) :
    s.generator.cache.Grows s.generator.settings.naming (s.after rs).generator.cache := by
  induction rs generalizing s with
  | nil => exact .refl _ _
  | cons r rs ih =>
    have hrs : ∀ r' ∈ rs, ¬(s.answer r).2.Forgets r' := by
      intro r' hr'
      rw [forgets_answer]
      exact h r' (.tail _ hr')
    exact (answer_moves (h r (.head _))).grows.trans ((answer_settings s r).2.1 ▸ ih hrs)

theorem after_since_of_forgets {k : Nat} (hk : k ≤ s.generator.cache.issued)
    (h : ∃ r ∈ rs, s.Forgets r) : (s.after rs).generator.cache.Since k := by
  induction rs generalizing s with
  | nil =>
    obtain ⟨r, hr, -⟩ := h
    cases hr
  | cons r rs ih =>
    rw [after_cons]
    by_cases hr : s.Forgets r
    · exact after_since ((answer_moves_of_forgets hr).grows.since (NameCache.clear_since hk)) rs
    · obtain ⟨r', hmem, hr'⟩ := h
      rcases List.mem_cons.mp hmem with rfl | hmem
      · exact absurd hr' hr
      · refine ih (Nat.le_trans hk (answer_moves hr).grows.issued_le) ⟨r', hmem, ?_⟩
        rwa [forgets_answer]

theorem lastResolved?_after {f : Field}
    (h : ∀ f', .resolve f' ∈ rs → ¬(f'.type = f.type ∧ f'.name = f.name)) :
    (s.after rs).lastResolved? f = s.lastResolved? f := by
  induction rs generalizing s with
  | nil => rfl
  | cons r rs ih =>
    rw [after_cons, ih fun f' hf' ↦ h f' (.tail _ hf')]
    exact lastResolved?_answer fun f' hr ↦ h f' (hr ▸ .head _)

/-- A later resolution finds the entry of an earlier one unless names were forgotten meanwhile. -/
theorem serial_entryOf_iff {f f' : Field}
    (hs : s.generator.cache.Sound s.generator.settings.naming) (ht : f.type = f'.type)
    (hn : f.name = f'.name) (rs : List Request) :
    ((s.after (.resolve f :: rs)).entryOf f').serial = (s.entryOf f).serial ↔
      ∀ r ∈ rs, ¬s.Forgets r := by
  have hfind := NameCache.find?_resolve s.generator.settings.naming s.generator.cache f
  have hforgets : (s.answer (.resolve f)).2.Forgets = s.Forgets := forgets_answer s _
  rw [after_cons]
  constructor
  · intro heq r hr hf
    have hlt := (answer_sound hs (.resolve f)).serial_lt _ (NameCache.find?_spec hfind).1
    have hsince := after_since_of_forgets (s := (s.answer (.resolve f)).2) (Nat.le_refl _)
      ⟨r, hr, hforgets ▸ hf⟩
    have hmem := NameCache.find?_resolve
      ((s.answer (.resolve f)).2.after rs).generator.settings.naming
      ((s.answer (.resolve f)).2.after rs).generator.cache f'
    have hle := ((NameCache.resolve_grows _ _ f').since hsince).2 _ (NameCache.find?_spec hmem).1
    exact absurd (heq ▸ hle) (Nat.not_le_of_lt hlt)
  · intro h
    rw [← hforgets] at h
    have hkept := (after_grows h).kept f _ hfind
    rw [NameCache.find?_congr ht hn] at hkept
    rw [entryOf, NameCache.resolve_of_find? hkept]
    rfl

theorem lastResolved?_resolve (s : Session) {f f' : Field} (ht : f.type = f'.type)
    (hn : f.name = f'.name) :
    (s.answer (.resolve f)).2.lastResolved? f' = some (s.entryOf f) := by
  obtain ⟨-, hte, hne⟩ := NameCache.find?_spec
    (NameCache.find?_resolve s.generator.settings.naming s.generator.cache f)
  change (s.entryOf f :: s.resolved).find? _ = _
  rw [List.find?_cons_of_pos]
  simp [entryOf, hte, hne, ht, hn]

/-- Whatever was asked before, a session replies as a fresh one does, and its cache holds what
follows from the fields. Two resolutions of the same type and name find the same entry exactly if no
request between them makes the generator forget, and the reply to the later one says which. -/
theorem answer_after_history (limits : Limits) (settings : Settings) (hasTemplates : Bool)
    (before : List Request) :
    let fresh := start (.ofSettings limits settings hasTemplates)
    let now := fresh.after before
    (∀ r, (now.answer r).1.content = (fresh.answer r).1) ∧
    (∀ e ∈ now.generator.cache.entries, ∀ f : Field, e.type = f.type → e.name = f.name →
      e.names = settings.naming.names f) ∧
    ∀ (f f' : Field) (between : List Request), f.type = f'.type → f.name = f'.name →
      let later := now.after (.resolve f :: between)
      ((later.entryOf f').serial = (now.entryOf f).serial ↔
        ∀ r ∈ between, ¬r.Forgets settings hasTemplates) ∧
      ((∀ other, .resolve other ∈ between → ¬(other.type = f.type ∧ other.name = f.name)) →
        ∃ same, (later.answer (.resolve f')).1 = .names (settings.naming.names f') same ∧
          (same = true ↔ ∀ r ∈ between, ¬r.Forgets settings hasTemplates)) := by
  intro fresh now
  have hfresh : fresh.generator.cache.Sound settings.naming := .empty
  obtain ⟨hlimits, hsettings, htemplates⟩ := after_settings fresh before
  have hsound : now.generator.cache.Sound now.generator.settings.naming :=
    hsettings ▸ after_sound hfresh before
  refine ⟨?_, ?_, ?_⟩
  · intro r
    rw [content_answer hsound r, hlimits, hsettings, htemplates]
    rfl
  · intro e he f ht hn
    rw [(hsound.holds e he).names_eq ht hn, hsettings]
    rfl
  intro f f' between ht hn later
  have hserial : (later.entryOf f').serial = (now.entryOf f).serial ↔
      ∀ r ∈ between, ¬r.Forgets settings hasTemplates := by
    have h := serial_entryOf_iff hsound ht hn between
    unfold Forgets at h
    rwa [hsettings, htemplates] at h
  refine ⟨hserial, ?_⟩
  intro hbetween
  have hlast : later.lastResolved? f' = some (now.entryOf f) := by
    rw [← lastResolved?_resolve now ht hn]
    exact lastResolved?_after fun other hmem ↦ ht ▸ hn ▸ hbetween other hmem
  have hnames : (later.entryOf f').names = settings.naming.names f' := by
    have hlater := (after_settings now (.resolve f :: between)).2.1
    rw [entryOf, hlater, (after_sound hsound _).names_resolve, hsettings]
    rfl
  refine ⟨(now.entryOf f).serial == (later.entryOf f').serial, ?_, ?_⟩
  · change Reply.names (later.entryOf f').names ((later.lastResolved? f').any
      (·.serial == (later.entryOf f').serial)) = _
    rw [hlast, hnames, Option.any_some]
  · rw [← hserial, beq_iff_eq, eq_comm]

theorem answer_after_history_door :
    let limits := Limits.usual
    let settings := { Settings.default with getters := .bool true }
    let opened : Field := ⟨"boolean", "isOpen", 3, by decide, by decide,
      Text.isBlank_eq_false_of_any (by decide)⟩
    let moved : Field := ⟨"boolean", "isOpen", 7, by decide, by decide,
      Text.isBlank_eq_false_of_any (by decide)⟩
    let door : ClassOutline := ⟨some "Door", [opened], 0⟩
    let now := (start (.ofSettings limits settings true)).after [.validate door, .resolve opened]
    let informational := [.validate door, .run { door with fields := [] }]
    ((now.after (.resolve opened :: informational)).entryOf moved).serial =
        (now.entryOf opened).serial ∧
      ((now.after [.resolve opened, .run door]).entryOf moved).serial ≠
        (now.entryOf opened).serial := by
  intro limits settings opened moved door now informational
  have h := (answer_after_history limits settings true [.validate door, .resolve opened]).2.2
    opened moved
  refine ⟨(h informational rfl rfl).1.mpr ?_, fun heq ↦ ?_⟩
  · intro r hr hf
    rcases List.mem_cons.mp hr with rfl | hr
    · exact hf
    · obtain rfl := List.mem_singleton.mp hr
      exact absurd hf.2 (by decide)
  · exact (h [.run door] rfl rfl).1.mp heq (.run door) (.head _) ⟨rfl, by decide⟩

end Run

end Session

end Boilerplate
