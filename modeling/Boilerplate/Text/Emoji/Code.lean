import Boilerplate.Text.CodePoint
import Boilerplate.Text.Emoji.Table

namespace Boilerplate.Text.Emoji

def tones : List (String × Char) :=
  [("light", '🏻'), ("medium-light", '🏼'), ("medium", '🏽'), ("medium-dark", '🏾'), ("dark", '🏿')]

/-- A picture in a skin tone, which follows the first character in place of a selector. -/
def inTone (tone : Char) : List Char → List Char
  | [] => []
  | c :: '\ufe0f' :: rest => c :: tone :: rest
  | c :: rest => c :: tone :: rest

def toned? (name : String) : Option String :=
  tones.findSome? fun (toneName, tone) ↦
    (people.find? fun (_, names) ↦
        names.any fun person ↦ person ++ "_" ++ toneName ++ "_skin_tone" == name).map
      fun (picture, _) ↦ String.ofList (inTone tone picture.toList)

def tables : List Pictures :=
  [symbols, nature, things, signs, faces, transport, supplement, people]

def ofName? (name : String) : Option String :=
  match tables.findSome? fun pictures ↦ pictures.ofName? name with
  | some picture => some picture
  | none =>
    match flag? name with
    | some flag => some flag
    | none => toned? name

def lower (c : Char) : Char :=
  let n := c.toNat
  if ('A' ≤ c ∧ c ≤ 'Z') ∨ (0xC0 ≤ n ∧ n ≤ 0xDE ∧ n ≠ 0xD7) then Char.ofNat (n + 0x20)
  else if n = 0x212A then 'k'
  else if n = 0x212B then 'å'
  else c

/-- What a word at the end of a name asks for, as the selector behind the picture. -/
def variants : List (String × String) := [("-text", "\ufe0e"), ("-emoji", "\ufe0f")]

def splitVariant (name : List Char) : List Char × String :=
  match variants.find? fun (word, _) ↦ word.toList.isSuffixOf name with
  | some (word, selector) => (name.take (name.length - word.length), selector)
  | none => (name, "")

def picture? (code : CodePoints) : Option CodePoints :=
  let (name, selector) := splitVariant code.chars
  (ofName? (String.ofList (name.map lower))).map fun picture ↦ .ofString (picture ++ selector)

def colon : Nat := ':'.toNat

def code? (ps : CodePoints) : Option (CodePoints × CodePoints) :=
  let code := ps.takeWhile fun n ↦ n != colon && !isBlankPoint n
  match ps.drop code.length with
  | n :: rest => if n = colon then some (code, rest) else none
  | [] => none

theorem code?_length {ps code rest : CodePoints} (h : code? ps = some (code, rest)) :
    rest.length < ps.length := by
  unfold code? at h
  dsimp only at h
  split at h
  · next hd =>
    split at h
    · simp only [Option.some.injEq, Prod.mk.injEq] at h
      obtain ⟨-, rfl⟩ := h
      have := congrArg List.length hd
      simp only [List.length_drop, List.length_cons] at this
      omega
    · simp at h
  · simp at h

/-- A text with pictures in place of their codes. A code without a picture stays, and its second
colon starts no other one. -/
def expand (ps : CodePoints) : CodePoints :=
  match ps with
  | [] => []
  | n :: rest =>
    if n = colon then
      match h : code? rest with
      | some (code, after) =>
        have := code?_length h
        (picture? code).getD (colon :: code ++ [colon]) ++ expand after
      | none => n :: expand rest
    else n :: expand rest
termination_by ps.length
decreasing_by
  all_goals
    simp only [List.length_cons]
    omega

theorem expand_eq_self {ps : CodePoints} (h : colon ∉ ps) : expand ps = ps := by
  induction ps with
  | nil => rw [expand]
  | cons n rest ih =>
    obtain ⟨hn, hrest⟩ := not_or.mp (mt List.mem_cons.mpr h)
    rw [expand, if_neg fun e ↦ hn e.symm, ih hrest]

end Boilerplate.Text.Emoji
