namespace Boilerplate.Text

variable {α : Type} [DecidableEq α]

/-- The parts of a text between the marks. A text without the mark is one part. -/
def split (mark : α) : List α → List (List α)
  | [] => [[]]
  | c :: rest =>
    if c = mark then [] :: split mark rest
    else
      match split mark rest with
      | [] => [[c]]
      | part :: parts => (c :: part) :: parts

theorem split_ne_nil (mark : α) (cs : List α) : split mark cs ≠ [] := by
  cases cs with
  | nil => simp [split]
  | cons c rest =>
    rw [split]
    split
    · simp
    · split <;> simp

theorem intercalate_split (mark : α) (cs : List α) :
    List.intercalate [mark] (split mark cs) = cs := by
  induction cs with
  | nil => rfl
  | cons c rest ih =>
    rw [split]
    split
    · next h =>
      subst h
      cases hr : split c rest with
      | nil => exact absurd hr (split_ne_nil c rest)
      | cons part parts => simp_all [List.intercalate]
    · cases hr : split mark rest with
      | nil => exact absurd hr (split_ne_nil mark rest)
      | cons part parts =>
        cases parts <;> simp_all [List.intercalate]

end Boilerplate.Text
