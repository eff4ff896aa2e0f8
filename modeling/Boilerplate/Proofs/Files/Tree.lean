import Boilerplate.Files.Tree

namespace Boilerplate.Files

namespace Place

def location? : Place → Option Location
  | file location _ => some location
  | vacant location => some location
  | _ => none

/-- A place whose way is barred counts as one, whatever bars it. -/
def settled : Place → Place
  | throughFile => noParent
  | place => place

def IsBarred (place : Place) : Prop := place = noParent ∨ place = throughFile

theorem eq_or_isBarred_of_settled {place place' : Place} (h : place.settled = place'.settled) :
    place = place' ∨ place.IsBarred ∧ place'.IsBarred := by
  cases place <;> cases place' <;> simp_all [settled, IsBarred]

/-- What a place is apart from the contents of files. -/
def outline : Place → Place
  | file location _ => vacant location
  | place => place.settled

theorem location?_outline (place : Place) : place.outline.location? = place.location? := by
  cases place <;> rfl

theorem outline_eq_settled {place : Place} (h : place.location? = none) :
    place.outline = place.settled := by
  cases place <;> first | rfl | cases h

end Place

namespace Tree

variable {t t' : Tree} {location other : Location} {content : List UInt8} {p : Path}

def location? (t : Tree) (p : Path) : Option Location := (t.locate p).location?

theorem find?_map_put (files : List (Location × List UInt8))
    (h : (files.find? (·.1 == location)).isSome = true) :
    (files.map fun file ↦ if file.1 = location then (location, content) else file).find?
      (·.1 == location) = some (location, content) := by
  induction files with
  | nil => cases h
  | cons file files ih =>
    rw [List.map_cons]
    by_cases hf : file.1 = location
    · rw [if_pos hf, List.find?_cons_of_pos (by simp)]
    · rw [List.find?_cons_of_neg (by simpa using hf)] at h
      rw [if_neg hf, List.find?_cons_of_neg (by simpa using hf)]
      exact ih h

theorem content?_put_self (t : Tree) (location : Location) (content : List UInt8) :
    (t.put location content).content? location = some content := by
  rw [content?, put]
  by_cases h : (t.content? location).isSome = true
  · rw [if_pos h, find?_map_put _ (by simpa [content?] using h)]
    rfl
  · have hnone : t.files.find? (·.1 == location) = none := by
      rw [content?, Option.isSome_map] at h
      exact Option.not_isSome_iff_eq_none.mp h
    rw [if_neg h, List.find?_append, hnone]
    simp

theorem content?_put_of_ne (h : other ≠ location) (content : List UInt8) :
    (t.put location content).content? other = t.content? other := by
  rw [content?, content?, put]
  split
  · congr 1
    induction t.files with
    | nil => rfl
    | cons file files ih =>
      rw [List.map_cons]
      by_cases hf : file.1 = location
      · have hne : file.1 ≠ other := fun he ↦ h (he.symm.trans hf)
        rw [if_pos hf, List.find?_cons_of_neg (by simpa using h.symm),
          List.find?_cons_of_neg (by simpa using hne), ih]
      · rw [if_neg hf, List.find?_cons, List.find?_cons, ih]
  · rw [List.find?_append]
    simp [h.symm]

/-- What two trees have in common that differ in the contents of files alone. -/
structure SameWays (t t' : Tree) : Prop where
  directories_eq : t.directories = t'.directories
  storage_eq : t.storage = t'.storage

namespace SameWays

theorem symm (h : SameWays t t') : SameWays t' t := ⟨h.directories_eq.symm, h.storage_eq.symm⟩

theorem trans {t'' : Tree} (h : SameWays t t') (h' : SameWays t' t'') : SameWays t t'' :=
  ⟨h.directories_eq.trans h'.directories_eq, h.storage_eq.trans h'.storage_eq⟩

theorem isDirectory_eq (h : SameWays t t') (l : Location) : t.isDirectory l = t'.isDirectory l := by
  rw [isDirectory, isDirectory, h.directories_eq]

theorem outline_walk (h : SameWays t t') (start : Location) (names : List String) :
    (t.walk start names).outline = (t'.walk start names).outline := by
  induction names generalizing start with
  | nil => rfl
  | cons name rest ih =>
    unfold walk
    simp only [h.isDirectory_eq, h.storage_eq]
    split
    · rfl
    split
    · rfl
    split
    · exact ih _
    · generalize t.content? (enter start name) = found
      generalize t'.content? (enter start name) = found'
      cases rest <;> cases found <;> cases found' <;> rfl

theorem outline_locate (h : SameWays t t') (p : Path) :
    (t.locate p).outline = (t'.locate p).outline := by
  rw [locate, locate]
  split
  · rfl
  split
  · rfl
  · exact h.outline_walk _ _

theorem location?_eq (h : SameWays t t') (p : Path) : t.location? p = t'.location? p := by
  rw [location?, location?, ← Place.location?_outline, h.outline_locate, Place.location?_outline]

end SameWays

def placeAt (t : Tree) (location : Location) : Place :=
  match t.content? location with
  | some content => .file location content
  | none => .vacant location

theorem walk_of_location? {start : Location} {names : List String}
    (h : (t.walk start names).location? = some location) :
    t.walk start names = t.placeAt location := by
  induction names generalizing start with
  | nil => cases h
  | cons name rest ih =>
    unfold walk at h ⊢
    dsimp only at h
    split at h
    · cases h
    next hclosed =>
    rw [if_neg hclosed]
    split at h
    · cases h
    next hlong =>
    rw [if_neg hlong]
    split at h
    · next hdirectory =>
      rw [if_pos hdirectory]
      exact ih h
    · next hdirectory =>
      rw [if_neg hdirectory]
      cases hc : t.content? (enter start name) <;> rw [hc] at h
      all_goals
        cases rest with
        | nil =>
          obtain rfl := Option.some.inj h
          simp only [placeAt, hc]
        | cons next rest => cases h

theorem locate_of_location? (h : t.location? p = some location) :
    t.locate p = t.placeAt location := by
  rw [location?, locate] at h
  rw [locate]
  split at h
  · cases h
  next hnull =>
  rw [if_neg hnull]
  split at h
  · cases h
  next hlong =>
  rw [if_neg hlong]
  exact walk_of_location? h

/-- What a path leads to is a matter of the directories and of the one file at its end. -/
theorem SameWays.settled_locate (h : SameWays t t')
    (hc : ∀ l, t.location? p = some l → t.content? l = t'.content? l) :
    (t.locate p).settled = (t'.locate p).settled := by
  cases hl : t.location? p with
  | some l =>
    rw [locate_of_location? hl, locate_of_location? ((h.location?_eq p).symm.trans hl), placeAt,
      placeAt, hc l hl]
  | none =>
    rw [← Place.outline_eq_settled hl, h.outline_locate,
      Place.outline_eq_settled ((h.location?_eq p).symm.trans hl)]

theorem openFor_eq_ok_iff : t.openFor p = .ok location ↔
    t.location? p = some location ∧ t.storage.writing location = none := by
  rw [openFor, location?]
  cases t.locate p with
  | file opened _ | vacant opened =>
    dsimp only
    rw [Place.location?, Option.some.injEq]
    cases hw : t.storage.writing opened with
    | none =>
      rw [Except.ok.injEq]
      exact ⟨fun h ↦ ⟨h, h ▸ hw⟩, And.left⟩
    | some error =>
      refine ⟨nofun, fun ⟨h, hnone⟩ ↦ ?_⟩
      rw [h, hnone] at hw
      cases hw
  | _ => simp [Place.location?]

theorem SameWays.openFor_eq_ok_iff (h : SameWays t t') :
    t.openFor p = .ok location ↔ t'.openFor p = .ok location := by
  rw [Tree.openFor_eq_ok_iff, Tree.openFor_eq_ok_iff, h.location?_eq, h.storage_eq]

end Tree

namespace Storage

variable {s : Storage} {location : Location} {content : List UInt8}

theorem taken_append (s : Storage) (location : Location) (before content more : List UInt8) :
    s.taken location before (content ++ more) =
      s.taken location before content ++
        s.taken location (before ++ s.taken location before content) more := by
  simp only [taken]
  split
  · next room error =>
    rw [List.take_append, List.length_append, List.length_take]
    congr 2
    omega
  · rfl

theorem taken_of_overflow? (h : s.overflow? location content.length = none) :
    s.taken location [] content = content := by
  rw [overflow?] at h
  rw [taken]
  cases hroom : s.room location with
  | none => rfl
  | some limit =>
    rw [hroom, Option.bind_some] at h
    dsimp only at h ⊢
    split at h
    · next hfits => exact List.take_of_length_le hfits
    · cases h

end Storage

namespace Tree

variable {t t' t'' : Tree} {location other : Location} {content : List UInt8} {p : Path}
  {text : Text.CodePoints}

/-- A tree in which one location holds something else, and nothing besides is another. -/
structure IsUpdate (t t' : Tree) (location : Location) (content : List UInt8) : Prop where
  sameWays : SameWays t' t
  content?_self : t'.content? location = some content
  content?_of_ne : ∀ other, other ≠ location → t'.content? other = t.content? other

theorem isUpdate_put (t : Tree) (location : Location) (content : List UInt8) :
    IsUpdate t (t.put location content) location content :=
  ⟨⟨rfl, rfl⟩, content?_put_self .., fun _ h ↦ content?_put_of_ne h _⟩

theorem isUpdate_append (t : Tree) (location : Location) (content : List UInt8) :
    IsUpdate t (t.append location content) location
      ((t.content? location).getD [] ++
        t.storage.taken location ((t.content? location).getD []) content) := isUpdate_put ..

theorem IsUpdate.trans {between : List UInt8} (h : IsUpdate t t' location between)
    (h' : IsUpdate t' t'' location content) : IsUpdate t t'' location content where
  sameWays := h'.sameWays.trans h.sameWays
  content?_self := h'.content?_self
  content?_of_ne other hne := (h'.content?_of_ne other hne).trans (h.content?_of_ne other hne)

theorem IsUpdate.locate (h : IsUpdate t t' location content) (hp : t.location? p = some location) :
    t'.locate p = .file location content := by
  rw [locate_of_location? ((h.sameWays.location?_eq p).trans hp), placeAt, h.content?_self]

/-- What a text leaves in a file that it is written to. -/
def written (t : Tree) (location : Location) (text : Text.CodePoints) : List UInt8 :=
  (text.string?.map fun s ↦ t.storage.taken location [] (Text.Utf8.encode s)).getD []

theorem isUpdate_writeText (h : t.openFor p = .ok location) (text : Text.CodePoints) :
    IsUpdate t (t.writeText p text).2 location (t.written location text) := by
  have htruncate := isUpdate_put t location []
  rw [writeText, h, written]
  dsimp only
  cases text.string? with
  | none => exact htruncate
  | some s =>
    have happend := isUpdate_append (t.truncate location) location (Text.Utf8.encode s)
    rw [truncate, htruncate.content?_self] at happend
    exact htruncate.trans happend

theorem writeText_of_error {fault : OpenFault} (h : t.openFor p = .error fault)
    (text : Text.CodePoints) : t.writeText p text = (some (.opening fault), t) := by
  rw [writeText, h]

/-- A text is written if its file can be opened, if bytes stand for it, and if there is room for
them. -/
theorem writeText_fst_eq_none_iff : (t.writeText p text).1 = none ↔
    ∃ location s, t.openFor p = .ok location ∧ text.string? = some s ∧
      t.storage.overflow? location (Text.Utf8.encode s).length = none := by
  rw [writeText]
  cases t.openFor p with
  | error fault => simp
  | ok location => cases text.string? <;> simp

theorem writeText_fst_eq_filling_iff {error : SystemError} :
    (t.writeText p text).1 = some (.filling error) ↔
      ∃ location s, t.openFor p = .ok location ∧ text.string? = some s ∧
        t.storage.overflow? location (Text.Utf8.encode s).length = some error := by
  rw [writeText]
  cases t.openFor p with
  | error fault => simp
  | ok location => cases text.string? <;> simp

theorem isUpdate_writeText_of_string? {s : String} (h : t.openFor p = .ok location)
    (hs : text.string? = some s) :
    IsUpdate t (t.writeText p text).2 location
      (t.storage.taken location [] (Text.Utf8.encode s)) := by
  have hupdate := isUpdate_writeText h text
  rwa [written, hs] at hupdate

end Tree

end Boilerplate.Files
