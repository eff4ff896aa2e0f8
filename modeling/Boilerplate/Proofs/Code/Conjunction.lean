import Boilerplate.Code.Statement
import Mathlib.Data.List.Basic

namespace Boilerplate.Code

/-- What stands on a line behind the keyword, or behind the spaces that take its place. -/
def dropMargin (line : String) : String := String.ofList (line.toList.drop 7)

section Terms

variable {terms more : List String}

theorem continueTerms_cons (h : terms ≠ []) (term : String) :
    continueTerms (term :: terms) = (term ++ " &&") :: continueTerms terms := by
  cases terms with
  | nil => exact absurd rfl h
  | cons next terms => rfl

theorem continueTerms_eq_mapIdx (terms : List String) : continueTerms terms =
    terms.mapIdx fun i term ↦ term ++ if i + 1 = terms.length then ";" else " &&" := by
  induction terms with
  | nil => rfl
  | cons term terms ih =>
    by_cases hnil : terms = []
    · subst hnil
      rfl
    · have hlast : 0 + 1 ≠ terms.length + 1 := fun he ↦
        hnil (List.length_eq_zero_iff.mp (Nat.succ.inj he).symm)
      rw [continueTerms_cons hnil, ih, List.mapIdx_cons, List.length_cons, if_neg hlast]
      simp only [Nat.add_right_cancel_iff]

theorem length_continueTerms (terms : List String) :
    (continueTerms terms).length = terms.length := by
  rw [continueTerms_eq_mapIdx, List.length_mapIdx]

theorem joinTerms_cons (term : String) (terms : List String) : ∃ first rest,
    continueTerms (term :: terms) = first :: rest ∧
      joinTerms (term :: terms) = ("return " ++ first) :: rest.map (termIndent ++ ·) := by
  obtain ⟨first, rest, hlines⟩ := List.exists_cons_of_length_eq_add_one
    (length_continueTerms (term :: terms))
  exact ⟨first, rest, hlines, by rw [joinTerms, hlines]⟩

theorem joinTerms_eq_mapIdx (h : terms ≠ []) : joinTerms terms =
    terms.mapIdx fun i term ↦ (if i = 0 then "return " else termIndent) ++ term ++
      if i + 1 = terms.length then ";" else " &&" := by
  cases terms with
  | nil => exact absurd rfl h
  | cons term terms =>
    obtain ⟨first, rest, hlines, hjoin⟩ := joinTerms_cons term terms
    rw [continueTerms_eq_mapIdx, List.mapIdx_cons] at hlines
    obtain ⟨rfl, rfl⟩ := List.cons.inj hlines
    rw [hjoin, List.mapIdx_cons]
    simp [List.mapIdx_eq_zipIdx_map, Function.comp_def, String.append_assoc]

theorem dropMargin_append {margin : String} (h : margin.toList.length = 7) (text : String) :
    dropMargin (margin ++ text) = text := by
  rw [dropMargin, String.toList_append, ← h, List.drop_left, String.ofList_toList]

theorem map_dropMargin_joinTerms (h : terms ≠ []) :
    (joinTerms terms).map dropMargin = continueTerms terms := by
  cases terms with
  | nil => exact absurd rfl h
  | cons term terms =>
    obtain ⟨first, rest, hlines, hjoin⟩ := joinTerms_cons term terms
    have hrest : dropMargin ∘ (termIndent ++ ·) = id :=
      funext fun text ↦ dropMargin_append (by decide) text
    rw [hjoin, hlines, List.map_cons, dropMargin_append (by decide), List.map_map, hrest,
      List.map_id]

theorem intercalate_continueTerms (h : terms ≠ []) :
    " ".intercalate (continueTerms terms) = " && ".intercalate terms ++ ";" := by
  induction terms with
  | nil => exact absurd rfl h
  | cons term terms ih =>
    by_cases hnil : terms = []
    · subst hnil
      simp [continueTerms]
    · have hlines : continueTerms terms ≠ [] := fun he ↦
        hnil (List.length_eq_zero_iff.mp (by rw [← length_continueTerms, he, List.length_nil]))
      have hsign : " && " = " &&" ++ " " := by decide
      rw [continueTerms_cons hnil, String.intercalate_cons_of_ne_nil hlines, ih hnil,
        String.intercalate_cons_of_ne_nil hnil, hsign]
      simp only [String.append_assoc]

theorem continueTerms_inj (h : continueTerms terms = continueTerms more) : terms = more := by
  have hlength : terms.length = more.length := by
    rw [← length_continueTerms, h, length_continueTerms]
  rw [continueTerms_eq_mapIdx, continueTerms_eq_mapIdx, hlength] at h
  refine List.ext_getElem hlength fun i hi hi' ↦ ?_
  have hline := List.getElem_of_eq h (by rwa [List.length_mapIdx])
  rw [List.getElem_mapIdx, List.getElem_mapIdx] at hline
  exact (String.append_left_inj _).mp hline

theorem leading_spaces_of_mem_tail (h : ∀ term ∈ terms, ∃ c ∈ term.toList.head?, c ≠ ' ') :
    ∀ line ∈ (joinTerms terms).tail, (line.toList.takeWhile (· == ' ')).length = 7 := by
  intro line hline
  cases terms with
  | nil => cases hline
  | cons term terms =>
    rw [joinTerms_eq_mapIdx (by simp), List.mapIdx_cons, List.tail_cons, List.mem_mapIdx] at hline
    obtain ⟨i, hi, rfl⟩ := hline
    obtain ⟨c, hc, hspace⟩ := h terms[i] (.tail _ (List.getElem_mem hi))
    obtain ⟨rest, hterm⟩ := List.head?_eq_some_iff.mp hc
    have hindent : termIndent.toList.all (· == ' ') = true := by decide
    rw [if_neg (Nat.succ_ne_zero i), String.toList_append, String.toList_append, List.append_assoc,
      List.takeWhile_append_of_pos (List.all_eq_true.mp hindent), hterm, List.cons_append,
      List.takeWhile_cons_of_neg (by simpa using hspace)]
    decide

end Terms

/-- Every term has a line of its own, in their order. The first stands behind the keyword and each
other behind seven spaces. Read without them and one behind the other, the lines are all terms with
the sign of conjunction between them, and no other terms have these lines. -/
theorem conjunction_lines {terms : List String} (h : terms ≠ []) :
    (joinTerms terms).length = terms.length ∧
      joinTerms terms = (terms.mapIdx fun i term ↦
        (if i = 0 then "return " else String.ofList (List.replicate 7 ' ')) ++ term ++
          if i + 1 = terms.length then ";" else " &&") ∧
      ((∀ term ∈ terms, ∃ c ∈ term.toList.head?, c ≠ ' ') →
        ∀ line ∈ (joinTerms terms).tail, (line.toList.takeWhile (· == ' ')).length = 7) ∧
      " ".intercalate ((joinTerms terms).map dropMargin) = " && ".intercalate terms ++ ";" ∧
      ∀ more, more ≠ [] → joinTerms more = joinTerms terms → more = terms := by
  have hlines := joinTerms_eq_mapIdx h
  refine ⟨?_, hlines, leading_spaces_of_mem_tail, ?_, fun more hmore he ↦ ?_⟩
  · rw [hlines, List.length_mapIdx]
  · rw [map_dropMargin_joinTerms h, intercalate_continueTerms h]
  · apply continueTerms_inj
    rw [← map_dropMargin_joinTerms hmore, he, map_dropMargin_joinTerms h]

theorem conjunction_lines_three :
    let terms := ["a() == that.a()", "b && c", "d"]
    terms ≠ [] ∧
      joinTerms terms = ["return a() == that.a() &&", "       b && c &&", "       d;"] ∧
      (∀ line ∈ (joinTerms terms).tail, (line.toList.takeWhile (· == ' ')).length = 7) ∧
      " ".intercalate ((joinTerms terms).map dropMargin) = "a() == that.a() && b && c && d;" ∧
      joinTerms ["a() == that.a()", "b", "c", "d"] ≠ joinTerms terms := by
  intro terms
  have hne : terms ≠ [] := List.cons_ne_nil _ _
  obtain ⟨-, hlines, hspaces, hread, hinj⟩ := conjunction_lines hne
  exact ⟨hne, hlines.trans (by decide), hspaces (by simp [terms]), hread.trans (by decide),
    fun he ↦ absurd (hinj _ (List.cons_ne_nil _ _) he) (by decide)⟩

end Boilerplate.Code
