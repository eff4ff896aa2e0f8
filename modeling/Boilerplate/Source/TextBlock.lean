namespace Boilerplate.Source

def tripleQuote : List Char := ['"', '"', '"']

/-- What follows the opening of a text block: three quotes, blanks and the end of the line. -/
def afterBlockOpening? (cs : List Char) : Option (List Char) :=
  if tripleQuote.isPrefixOf cs then
    match (cs.drop 3).dropWhile fun c ↦ c == ' ' || c == '\t' || c == '\x0c' with
    | '\r' :: '\n' :: body => some body
    | '\n' :: body => some body
    | _ => none
  else none

/-- The line feeds before the closing quotes and what follows these. Quotes behind a backslash do
not close; `previous` is the character before the text. -/
def closeBlock? (previous : Char) : List Char → Option (Nat × List Char)
  | [] => none
  | c :: rest =>
    if previous ≠ '\\' ∧ tripleQuote.isPrefixOf (c :: rest) then some (0, rest.drop 2)
    else
      (closeBlock? c rest).map fun (feeds, after) ↦ (if c = '\n' then feeds + 1 else feeds, after)

def textBlock? (cs : List Char) : Option (Nat × List Char) :=
  (afterBlockOpening? cs).bind fun body ↦
    (closeBlock? '\n' body).map fun (feeds, after) ↦ (feeds + 1, after)

theorem afterBlockOpening?_length {cs body : List Char} (h : afterBlockOpening? cs = some body) :
    body.length < cs.length := by
  unfold afterBlockOpening? at h
  split at h
  · have le := (List.dropWhile_sublist (l := cs.drop 3)
      (fun c ↦ c == ' ' || c == '\t' || c == '\x0c')).length_le
    have := List.length_drop (i := 3) (l := cs)
    split at h
    · next hd =>
      simp only [hd, List.length_cons, Option.some.injEq] at le h
      subst h
      omega
    · next hd =>
      simp only [hd, List.length_cons, Option.some.injEq] at le h
      subst h
      omega
    · simp at h
  · simp at h

theorem closeBlock?_length {previous : Char} {cs after : List Char} {feeds : Nat}
    (h : closeBlock? previous cs = some (feeds, after)) : after.length ≤ cs.length := by
  induction cs generalizing previous feeds with
  | nil => simp [closeBlock?] at h
  | cons c rest ih =>
    rw [closeBlock?] at h
    split at h
    · simp only [Option.some.injEq, Prod.mk.injEq] at h
      obtain ⟨-, rfl⟩ := h
      simp only [List.length_drop, List.length_cons]
      omega
    · simp only [Option.map_eq_some_iff, Prod.exists, Prod.mk.injEq] at h
      obtain ⟨n, r, hr, -, rfl⟩ := h
      have := ih hr
      simp only [List.length_cons]
      omega

theorem textBlock?_length {cs after : List Char} {feeds : Nat}
    (h : textBlock? cs = some (feeds, after)) : after.length < cs.length := by
  simp only [textBlock?, Option.bind_eq_some_iff, Option.map_eq_some_iff, Prod.exists,
    Prod.mk.injEq] at h
  obtain ⟨body, hbody, n, r, hr, -, rfl⟩ := h
  have := afterBlockOpening?_length hbody
  have := closeBlock?_length hr
  omega

/-- Every text block becomes an empty literal followed by the line feeds of the block. -/
def maskTextBlocks (cs : List Char) : List Char :=
  match cs with
  | [] => []
  | c :: rest =>
    match h : textBlock? (c :: rest) with
    | some (feeds, after) =>
      have := textBlock?_length h
      '"' :: '"' :: List.replicate feeds '\n' ++ maskTextBlocks after
    | none => c :: maskTextBlocks rest
termination_by cs.length
decreasing_by
  all_goals
    simp only [List.length_cons] at *
    omega

end Boilerplate.Source
