import Boilerplate.Text.Emoji.Code
import Boilerplate.Text.Split
import Boilerplate.Text.Width

namespace Boilerplate.CommandLine.Markup

open Text (CodePoints lineFeed)

def openBracket : Nat := '['.toNat

def closeBracket : Nat := ']'.toNat

def backslash : Nat := '\\'.toNat

def space : Nat := ' '.toNat

def tab : Nat := '\t'.toNat

def startsTag (n : Nat) : Bool :=
  ('a'.toNat ≤ n && n ≤ 'z'.toNat) || n == '#'.toNat || n == '/'.toNat || n == '@'.toNat

def tag? : CodePoints → Option (CodePoints × CodePoints)
  | n :: rest =>
    let inner := rest.takeWhile fun m ↦ m != openBracket && m != closeBracket
    match rest.drop inner.length with
    | m :: after => if m = closeBracket ∧ startsTag n then some (n :: inner, after) else none
    | [] => none
  | [] => none

/-- Backslashes with a tag behind them: their number, the inside of the tag, and what follows. -/
def markedTag? : CodePoints → Option (Nat × CodePoints × CodePoints)
  | [] => none
  | n :: rest =>
    if n = backslash then
      (markedTag? rest).map fun (count, inner, after) ↦ (count + 1, inner, after)
    else if n = openBracket then (tag? rest).map fun (inner, after) ↦ (0, inner, after)
    else none

theorem tag?_length {ps inner after : CodePoints} (h : tag? ps = some (inner, after)) :
    after.length < ps.length := by
  unfold tag? at h
  split at h
  · next n rest =>
    dsimp only at h
    split at h
    · next hd =>
      split at h
      · simp only [Option.some.injEq, Prod.mk.injEq] at h
        obtain ⟨-, rfl⟩ := h
        have := congrArg List.length hd
        simp only [List.length_drop, List.length_cons] at this ⊢
        omega
      · simp at h
    · simp at h
  · simp at h

theorem markedTag?_length {ps inner after : CodePoints} {count : Nat}
    (h : markedTag? ps = some (count, inner, after)) : after.length < ps.length := by
  induction ps generalizing count with
  | nil => simp [markedTag?] at h
  | cons n rest ih =>
    unfold markedTag? at h
    split at h
    · simp only [Option.map_eq_some_iff, Prod.exists, Prod.mk.injEq] at h
      obtain ⟨k, i, a, hr, -, rfl, rfl⟩ := h
      have := ih hr
      simp only [List.length_cons]
      omega
    · split at h
      · simp only [Option.map_eq_some_iff, Prod.exists, Prod.mk.injEq] at h
        obtain ⟨i, a, hr, -, rfl, rfl⟩ := h
        have := tag?_length hr
        simp only [List.length_cons]
        omega
      · simp at h

def bracketed (inner : CodePoints) : CodePoints := openBracket :: inner ++ [closeBracket]

def escapeTags (ps : CodePoints) : CodePoints :=
  match ps with
  | [] => []
  | n :: rest =>
    match h : markedTag? (n :: rest) with
    | some (count, inner, after) =>
      have := markedTag?_length h
      List.replicate (2 * count + 1) backslash ++ bracketed inner ++ escapeTags after
    | none => n :: escapeTags rest
termination_by ps.length
decreasing_by
  all_goals
    simp only [List.length_cons] at *
    omega

/-- Text that shows literally. A single backslash at the end is doubled, so that it does not meet
a tag that follows. -/
def escape (ps : CodePoints) : CodePoints :=
  let escaped := escapeTags ps
  if (escaped.reverse.takeWhile (· == backslash)).length = 1 then escaped ++ [backslash]
  else escaped

def unescapeBrackets : CodePoints → CodePoints
  | [] => []
  | [n] => [n]
  | n :: m :: rest =>
    if n = backslash ∧ m = openBracket then openBracket :: unescapeBrackets rest
    else n :: unescapeBrackets (m :: rest)

def shownPlain (ps : CodePoints) : CodePoints := Text.Emoji.expand (unescapeBrackets ps)

/-- What markup shows; `plain` is the text since the last tag, in reverse. -/
def shown (plain : CodePoints) (ps : CodePoints) : CodePoints :=
  match ps with
  | [] => shownPlain plain.reverse
  | n :: rest =>
    match h : markedTag? (n :: rest) with
    | some (count, inner, after) =>
      have := markedTag?_length h
      shownPlain plain.reverse ++ List.replicate (count / 2) backslash ++
        (if count % 2 = 1 then shownPlain (bracketed inner) else []) ++ shown [] after
    | none => shown (n :: plain) rest
termination_by ps.length
decreasing_by
  all_goals
    simp only [List.length_cons] at *
    omega

def isDropped (n : Nat) : Bool := n == 0x7 || n == 0x8 || n == 0xB || n == 0xC || n == 0xD

/-- The parts of a line with spaces in place of the tabs between them. One space stands for the
tab, and more fill up to a column whose number is a multiple of eight. -/
def fillTabs (column : Nat) : List CodePoints → CodePoints
  | [] => []
  | [part] => part
  | part :: parts =>
    let column := column + Text.cellsFrom none (part ++ [space])
    let fill := (8 - column % 8) % 8
    part ++ List.replicate (fill + 1) space ++ fillTabs (column + fill) parts

def expandTabs (ps : CodePoints) : CodePoints :=
  List.intercalate [lineFeed]
    ((Text.split lineFeed ps).map fun line ↦ fillTabs 0 (Text.split tab line))

/-- The line that a console prints for markup. Tags style what follows them and are not shown. -/
def printed (markup : CodePoints) : CodePoints :=
  expandTabs ((shown [] markup).filter fun n ↦ !isDropped n) ++ [lineFeed]

end Boilerplate.CommandLine.Markup
