import Boilerplate.Source.CodeEscape
import Boilerplate.Source.TextBlock
import Mathlib.Data.List.TakeWhile

namespace Boilerplate.Source

section TextBlocks

variable {c : Char} {cs line rest : List Char}

theorem maskTextBlocks_of_none (h : textBlock? (c :: cs) = none) :
    maskTextBlocks (c :: cs) = c :: maskTextBlocks cs := by
  rw [maskTextBlocks]
  split
  · next hsome => simp [h] at hsome
  · rfl

theorem maskTextBlocks_of_some {feeds : Nat} (h : textBlock? (c :: cs) = some (feeds, rest)) :
    maskTextBlocks (c :: cs) =
      '"' :: '"' :: List.replicate feeds '\n' ++ maskTextBlocks rest := by
  rw [maskTextBlocks]
  split
  · next hsome =>
    obtain ⟨rfl, rfl⟩ := Prod.mk.inj (Option.some.inj (h.symm.trans hsome))
    rfl
  · next hnone => simp [h] at hnone

theorem textBlock?_eq_none (h : c ≠ '"') : textBlock? (c :: cs) = none := by
  have hc : ('"' == c) = false := beq_false_of_ne h.symm
  simp [textBlock?, afterBlockOpening?, tripleQuote, List.isPrefixOf, hc]

theorem maskTextBlocks_append (h : '"' ∉ cs) (rest : List Char) :
    maskTextBlocks (cs ++ rest) = cs ++ maskTextBlocks rest := by
  induction cs with
  | nil => rfl
  | cons c cs ih =>
    obtain ⟨hc, hcs⟩ := List.ne_and_not_mem_of_not_mem_cons h
    rw [List.cons_append, maskTextBlocks_of_none (textBlock?_eq_none hc.symm), ih hcs,
      List.cons_append]

theorem afterBlockOpening?_line (h : '\n' ∉ line) (rest : List Char) :
    afterBlockOpening? (line ++ '\n' :: rest) =
      (afterBlockOpening? (line ++ ['\n'])).map fun _ ↦ rest := by
  match line with
  | [] => rfl
  | [_] => simp [afterBlockOpening?, tripleQuote, List.isPrefixOf]
  | [_, _] => simp [afterBlockOpening?, tripleQuote, List.isPrefixOf]
  | a :: b :: c :: line =>
    have hline : '\n' ∉ line := fun hm ↦ h (.tail _ (.tail _ (.tail _ hm)))
    simp only [afterBlockOpening?, List.cons_append, List.drop_succ_cons, List.drop_zero,
      List.dropWhile_append, tripleQuote, List.isPrefixOf]
    split
    · cases hblank : line.dropWhile (fun c ↦ c == ' ' || c == '\t' || c == '\x0c') with
      | nil => rfl
      | cons d ds =>
        have hfeed : '\n' ∉ d :: ds := fun hm ↦
          hline ((List.dropWhile_sublist _).subset (hblank ▸ hm))
        by_cases hd : d = '\r'
        · subst hd
          cases ds with
          | nil => rfl
          | cons e ds =>
            simp only [List.isEmpty_cons, Bool.false_eq_true, if_false, List.cons_append]
            split <;> split <;> simp_all
        · simp only [List.isEmpty_cons, Bool.false_eq_true, if_false, List.cons_append]
          split <;> split <;> simp_all
    · rfl

def opensTextBlock : List Char → Bool
  | [] => false
  | c :: line => (afterBlockOpening? (c :: line ++ ['\n'])).isSome || opensTextBlock line

/-- What a line leaves of the text behind it: of a text block that it opens only the line feeds. -/
def leftBehind (line rest : List Char) : List Char :=
  if opensTextBlock line then
    match closeBlock? '\n' rest with
    | some (feeds, after) => List.replicate feeds '\n' ++ after
    | none => rest
  else rest

theorem exists_maskTextBlocks_line (h : '\n' ∉ line) (rest : List Char) :
    ∃ masked, (∀ c ∈ masked, c = '"' ∨ c ∈ line) ∧
      maskTextBlocks (line ++ '\n' :: rest) =
        masked ++ '\n' :: maskTextBlocks (leftBehind line rest) := by
  induction line with
  | nil =>
    refine ⟨[], nofun, ?_⟩
    exact maskTextBlocks_of_none (textBlock?_eq_none (by decide))
  | cons c line ih =>
    obtain ⟨masked, hmem, hmask⟩ := ih (List.ne_and_not_mem_of_not_mem_cons h).2
    have hblock : textBlock? (c :: (line ++ '\n' :: rest)) =
        (afterBlockOpening? (c :: line ++ ['\n'])).bind fun _ ↦
          (closeBlock? '\n' rest).map fun closed ↦ (closed.1 + 1, closed.2) := by
      rw [textBlock?, ← List.cons_append, afterBlockOpening?_line h, Option.bind_map]
      rfl
    have hkept (hnone : textBlock? (c :: (line ++ '\n' :: rest)) = none)
        (hleft : leftBehind (c :: line) rest = leftBehind line rest) :
        ∃ masked, (∀ d ∈ masked, d = '"' ∨ d ∈ c :: line) ∧
          maskTextBlocks (c :: (line ++ '\n' :: rest)) =
            masked ++ '\n' :: maskTextBlocks (leftBehind (c :: line) rest) := by
      refine ⟨c :: masked, ?_, ?_⟩
      · exact List.forall_mem_cons.mpr ⟨.inr (.head _), fun d hd ↦ (hmem d hd).imp_right (.tail _)⟩
      · rw [maskTextBlocks_of_none hnone, hmask, hleft, List.cons_append]
    rw [List.cons_append]
    cases hopens : afterBlockOpening? (c :: line ++ ['\n']) with
    | none =>
      rw [hopens] at hblock
      exact hkept hblock (by
        simp only [leftBehind, opensTextBlock, hopens, Option.isSome_none, Bool.false_or])
    | some body =>
      rw [hopens] at hblock
      cases hcloses : closeBlock? '\n' rest with
      | none =>
        rw [hcloses] at hblock
        exact hkept hblock (by simp only [leftBehind, hcloses, ite_self])
      | some closed =>
        obtain ⟨feeds, after⟩ := closed
        have hleft : leftBehind (c :: line) rest = List.replicate feeds '\n' ++ after := by
          simp only [leftBehind, opensTextBlock, hopens, Option.isSome_some, Bool.true_or, if_pos,
            hcloses]
        rw [hcloses] at hblock
        refine ⟨['"', '"'], by simp, ?_⟩
        rw [maskTextBlocks_of_some hblock, hleft, maskTextBlocks_append (by simp),
          List.replicate_succ]
        rfl

end TextBlocks

section Escapes

open Text (CodePoints)

variable {cs rest : List Char}

/-- The first escape of a text has no digits and runs to the end. -/
def endsInEscape : List Char → Bool
  | '\\' :: 'u' :: rest => (rest.dropWhile (· == 'u')).isEmpty
  | '\\' :: _ :: rest => endsInEscape rest
  | _ :: rest => endsInEscape rest
  | [] => false

theorem resolveEscapes_cons {c : Char} (hc : c ≠ '\\') (kept cs : List Char) :
    resolveEscapes kept (c :: cs) = (resolveEscapes (c :: kept) cs).map (c.toNat :: ·) := by
  rw [resolveEscapes]
  · exact fun _ he ↦ absurd he hc
  · exact fun _ _ he ↦ absurd he hc

/-- What follows the last escape counts where the text ends in an escape, and nowhere else. -/
theorem resolveEscapes_kept (h : endsInEscape cs = false) (kept kept' : List Char) :
    resolveEscapes kept cs = resolveEscapes kept' cs := by
  induction cs using endsInEscape.induct generalizing kept kept' with
  | case1 rest =>
    rw [endsInEscape] at h
    rw [resolveEscapes, resolveEscapes]
    split
    · next hnil => simp [hnil] at h
    · rfl
  | case2 c rest hc ih =>
    rw [endsInEscape] at h
    · rw [resolveEscapes, resolveEscapes, ih h]
      all_goals exact hc
    · exact hc
  | case3 c rest hu hc ih =>
    rw [endsInEscape] at h
    · rw [resolveEscapes, resolveEscapes, ih h]
      all_goals assumption
    all_goals assumption
  | case4 => rw [resolveEscapes, resolveEscapes]

theorem resolveEscapes_append (h : '\\' ∉ cs) (kept rest : List Char) :
    resolveEscapes kept (cs ++ rest) =
      (resolveEscapes (cs.reverse ++ kept) rest).map (CodePoints.ofChars cs ++ ·) := by
  induction cs generalizing kept with
  | nil =>
    cases hr : resolveEscapes kept rest <;> simp [hr, Except.map, CodePoints.ofChars]
  | cons c cs ih =>
    obtain ⟨hc, hcs⟩ := List.ne_and_not_mem_of_not_mem_cons h
    rw [List.cons_append, resolveEscapes_cons hc.symm, ih hcs, List.reverse_cons,
      List.append_assoc, List.singleton_append]
    cases resolveEscapes (cs.reverse ++ c :: kept) rest <;> rfl

theorem decodeEscapes_append (h : '\\' ∉ cs) (hrest : endsInEscape rest = false) :
    decodeEscapes (cs ++ rest) = (decodeEscapes rest).map (CodePoints.ofChars cs ++ ·) := by
  rw [decodeEscapes, resolveEscapes_append h, decodeEscapes, resolveEscapes_kept hrest]

end Escapes

end Boilerplate.Source
