import Boilerplate.Text.Blank

namespace Boilerplate.Text

/-- A text that can hold surrogates, which no string can. -/
abbrev CodePoints := List Nat

def lineFeed : Nat := '\n'.toNat

def isSurrogate (n : Nat) : Bool := 0xD800 ≤ n && n ≤ 0xDFFF

def pairPoint (n m : Nat) : Nat := 0x10000 + (n - 0xD800) * 0x400 + (m - 0xDC00)

/-- A code point as a character. A surrogate is replaced by one that is no blank, no digit and no
part of a name either. -/
def pointChar (n : Nat) : Char := if isSurrogate n then Char.ofNat 0xFFFD else Char.ofNat n

namespace CodePoints

def ofChars (cs : List Char) : CodePoints := cs.map Char.toNat

def ofString (s : String) : CodePoints := ofChars s.toList

instance : Coe String CodePoints := ⟨ofString⟩

def char? (n : Nat) : Option Char := if n.isValidChar then some (Char.ofNat n) else none

/-- The string of the same code points, which there is unless a surrogate is among them. -/
def string? (ps : CodePoints) : Option String := (ps.mapM char?).map String.ofList

def chars (ps : CodePoints) : List Char := ps.map pointChar

def text (ps : CodePoints) : String := String.ofList ps.chars

/-- The surrogates, each with the number of code points that follow it. -/
def surrogates : CodePoints → List (Nat × Nat)
  | [] => []
  | n :: rest => if isSurrogate n then (rest.length, n) :: surrogates rest else surrogates rest

/-- Puts surrogates back in the places of the characters that replace them. -/
def restore (surrogates : List (Nat × Nat)) : List Char → CodePoints
  | [] => []
  | c :: rest => (surrogates.lookup rest.length).getD c.toNat :: restore surrogates rest

def trim (ps : CodePoints) : CodePoints :=
  ((ps.dropWhile isBlankPoint).reverse.dropWhile isBlankPoint).reverse

theorem isSurrogate_toNat (c : Char) : isSurrogate c.toNat = false := by
  have h : c.toNat < 0xD800 ∨ 0xDFFF < c.toNat ∧ c.toNat < 0x110000 := c.valid
  simp only [isSurrogate, Bool.and_eq_false_iff, decide_eq_false_iff_not]
  omega

theorem pointChar_toNat (c : Char) : pointChar c.toNat = c := by
  simp [pointChar, isSurrogate_toNat]

theorem toNat_pointChar {n : Nat} (hn : n < 0x110000) (h : isSurrogate n = false) :
    (pointChar n).toNat = n := by
  have hvalid : n.isValidChar := by
    simp only [isSurrogate, Bool.and_eq_false_iff, decide_eq_false_iff_not] at h
    unfold Nat.isValidChar
    omega
  rw [pointChar, h, if_neg Bool.false_ne_true, Char.ofNat, dif_pos hvalid]
  rfl

theorem chars_ofChars (cs : List Char) : chars (ofChars cs) = cs := by
  simp [chars, ofChars, Function.comp_def, pointChar_toNat]

@[simp] theorem chars_append (ps qs : CodePoints) : chars (ps ++ qs) = chars ps ++ chars qs :=
  List.map_append

@[simp] theorem length_chars (ps : CodePoints) : ps.chars.length = ps.length := List.length_map _

theorem surrogates_ofChars_append (cs : List Char) (ps : CodePoints) :
    surrogates (ofChars cs ++ ps) = surrogates ps := by
  induction cs with
  | nil => rfl
  | cons c cs ih => simpa [ofChars, surrogates, isSurrogate_toNat] using ih

theorem lookup_surrogates_of_le {ps : CodePoints} {left : Nat} (h : ps.length ≤ left) :
    ps.surrogates.lookup left = none := by
  induction ps with
  | nil => rfl
  | cons n rest ih =>
    have hlt : rest.length < left := h
    have hne : (left == rest.length) = false := beq_false_of_ne (Nat.ne_of_gt hlt)
    rw [surrogates]
    split
    · rw [List.lookup_cons, hne]
      exact ih (Nat.le_of_lt hlt)
    · exact ih (Nat.le_of_lt hlt)

theorem lookup_surrogates (before : CodePoints) (n : Nat) (after : CodePoints) :
    (surrogates (before ++ n :: after)).lookup after.length =
      if isSurrogate n then some n else none := by
  induction before with
  | nil =>
    rw [List.nil_append, surrogates]
    split
    · rw [List.lookup_cons_self]
    · exact lookup_surrogates_of_le (Nat.le_refl _)
  | cons m before ih =>
    have hne : (after.length == (before ++ n :: after).length) = false := by
      simp
      omega
    rw [List.cons_append, surrogates]
    split
    · rw [List.lookup_cons, hne]
      exact ih
    · exact ih

/-- The characters of a part of a text and the surrogates that stand there tell its code points. -/
theorem restore_chars {found : List (Nat × Nat)} (before : CodePoints) {own after : CodePoints}
    (hown : ∀ n ∈ own, n < 0x110000)
    (h : ∀ left < own.length,
      found.lookup left = (surrogates (before ++ own ++ after)).lookup (left + after.length)) :
    restore found own.chars = own := by
  induction own generalizing before with
  | nil => rfl
  | cons n own ih =>
    rw [List.forall_mem_cons] at hown
    have hlookup := lookup_surrogates before n (own ++ after)
    rw [List.length_append, ← List.cons_append, ← List.append_assoc, ← h own.length (by simp)]
      at hlookup
    rw [chars, List.map_cons, restore, List.length_map, hlookup]
    congr 1
    · cases hs : isSurrogate n with
      | true => rfl
      | false => exact toNat_pointChar hown.1 hs
    · refine ih (before ++ [n]) hown.2 fun left hleft ↦ ?_
      rw [h left (Nat.lt_succ_of_lt hleft), List.append_cons before n own]

theorem restore_surrogates {ps : CodePoints} (h : ∀ n ∈ ps, n < 0x110000) :
    restore ps.surrogates ps.chars = ps := by
  refine @restore_chars _ [] ps [] h fun left _ ↦ ?_
  simp

theorem text_ofString (s : String) : text (ofString s) = s := by
  simp [text, ofString, chars_ofChars]

theorem ofString_injective : Function.Injective ofString := fun s s' h ↦ by
  rw [← text_ofString s, h, text_ofString]

@[simp] theorem ofString_inj {s s' : String} : ofString s = ofString s' ↔ s = s' :=
  ofString_injective.eq_iff

@[simp] theorem ofString_empty : ofString "" = [] := rfl

@[simp] theorem ofString_append (s s' : String) : ofString (s ++ s') = ofString s ++ ofString s' := by
  simp [ofString, ofChars]

@[simp] theorem ofString_eq_nil {s : String} : ofString s = [] ↔ s = "" := by
  simp [ofString, ofChars]

theorem char?_eq_some_iff {n : Nat} {c : Char} : char? n = some c ↔ n = c.toNat := by
  rw [char?]
  split
  · next h =>
    rw [Option.some.injEq]
    constructor
    · rintro rfl
      rw [Char.ofNat, dif_pos h]
      rfl
    · rintro rfl
      exact Char.ofNat_toNat c
  · next h =>
    refine ⟨nofun, ?_⟩
    rintro rfl
    exact absurd c.valid h

theorem mapM_char?_eq_some_iff {ps : CodePoints} {cs : List Char} :
    ps.mapM char? = some cs ↔ ps = ofChars cs := by
  induction ps generalizing cs with
  | nil => cases cs <;> simp [ofChars]
  | cons n rest ih =>
    simp only [List.mapM_cons, Option.bind_eq_bind, Option.bind_eq_some_iff, char?_eq_some_iff, ih]
    cases cs with
    | nil => simp [ofChars]
    | cons c cs => simp [ofChars]

theorem string?_eq_some_iff {ps : CodePoints} {s : String} : string? ps = some s ↔ ps = s := by
  rw [string?, Option.map_eq_some_iff]
  simp only [mapM_char?_eq_some_iff]
  constructor
  · rintro ⟨cs, rfl, rfl⟩
    simp [ofString]
  · rintro rfl
    exact ⟨s.toList, rfl, String.ofList_toList⟩

@[simp] theorem string?_ofString (s : String) : string? s = some s := string?_eq_some_iff.mpr rfl

end CodePoints

end Boilerplate.Text
