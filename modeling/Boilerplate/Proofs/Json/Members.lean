import Boilerplate.Json.Reader
import Mathlib.Data.List.Nodup

namespace Boilerplate.Json

open Text (CodePoints)

variable {name : CodePoints} {value : Json} {members below above : List (CodePoints × Json)}

def names (members : List (CodePoints × Json)) : List CodePoints := members.map (·.1)

/-- Whether every name has one value. -/
def IsObject (members : List (CodePoints × Json)) : Prop := (names members).Nodup

instance (members : List (CodePoints × Json)) : Decidable (IsObject members) :=
  inferInstanceAs (Decidable (names members).Nodup)

@[simp] theorem names_nil : names [] = [] := rfl

@[simp] theorem names_cons (name : CodePoints) (value : Json) (members : List (CodePoints × Json)) :
    names ((name, value) :: members) = name :: names members := rfl

@[simp] theorem member?_nil (name : CodePoints) : member? name [] = none := rfl

theorem isObject_nil : IsObject [] := List.nodup_nil

theorem isSome_member?_iff : (member? name members).isSome = true ↔ name ∈ names members := by
  simp [names, member?]

theorem member?_eq_none (h : name ∉ names members) : member? name members = none := by
  rwa [← isSome_member?_iff, Option.not_isSome_iff_eq_none] at h

theorem member?_cons (other : CodePoints) :
    member? other ((name, value) :: members) =
      if name = other then some value else member? other members := by
  rw [member?, List.find?_cons]
  by_cases h : name = other <;> simp [h, member?]

theorem mem_of_member? (h : member? name members = some value) : (name, value) ∈ members := by
  obtain ⟨⟨other, _⟩, hfind, rfl⟩ := Option.map_eq_some_iff.mp h
  obtain rfl : other = name := by simpa using List.find?_some hfind
  exact List.mem_of_find?_eq_some hfind

theorem member?_of_mem (h : IsObject members) (hmem : (name, value) ∈ members) :
    member? name members = some value := by
  induction members with
  | nil => cases hmem
  | cons head rest ih =>
    obtain ⟨first, old⟩ := head
    obtain ⟨hfirst, hrest⟩ := List.nodup_cons.mp h
    rw [member?_cons]
    rcases List.mem_cons.mp hmem with heq | hmem
    · cases heq
      exact if_pos rfl
    · rw [if_neg, ih hrest hmem]
      rintro rfl
      exact hfirst (List.mem_map.mpr ⟨_, hmem, rfl⟩)

theorem member?_eq_some_iff (h : IsObject members) :
    member? name members = some value ↔ (name, value) ∈ members :=
  ⟨mem_of_member?, member?_of_mem h⟩

theorem names_setMember (name : CodePoints) (value : Json) (members : List (CodePoints × Json)) :
    names (setMember name value members) =
      if name ∈ names members then names members else names members ++ [name] := by
  induction members with
  | nil => rfl
  | cons head rest ih =>
    obtain ⟨other, old⟩ := head
    rw [setMember]
    by_cases h : other = name
    · subst h
      simp
    · rw [if_neg h, names_cons, names_cons, ih]
      by_cases hmem : name ∈ names rest <;> simp [hmem, Ne.symm h]

theorem IsObject.setMember (h : IsObject members) (name : CodePoints) (value : Json) :
    IsObject (setMember name value members) := by
  rw [IsObject, names_setMember]
  split
  · exact h
  · next hname => exact List.Nodup.append h (List.nodup_singleton name) (by simpa using hname)

theorem overlay_cons (below : List (CodePoints × Json)) (name : CodePoints) (value : Json)
    (above : List (CodePoints × Json)) :
    overlay below ((name, value) :: above) = overlay (setMember name value below) above := rfl

theorem IsObject.overlay (h : IsObject below) (above : List (CodePoints × Json)) :
    IsObject (overlay below above) := by
  induction above generalizing below with
  | nil => exact h
  | cons head rest ih => exact ih (h.setMember head.1 head.2)

theorem IsObject.foldl_overlay (h : IsObject below) (layers : List (List (CodePoints × Json))) :
    IsObject (layers.foldl Json.overlay below) := by
  induction layers generalizing below with
  | nil => exact h
  | cons layer rest ih => exact ih (h.overlay layer)

theorem member?_overlay (h : IsObject above) (name : CodePoints) (below : List (CodePoints × Json)) :
    member? name (overlay below above) = (member? name above).or (member? name below) := by
  induction above generalizing below with
  | nil => rfl
  | cons head rest ih =>
    obtain ⟨first, value⟩ := head
    obtain ⟨hfirst, hrest⟩ := List.nodup_cons.mp h
    rw [overlay_cons, ih hrest, member?_setMember, member?_cons]
    by_cases hname : first = name
    · subst hname
      rw [member?_eq_none hfirst, if_pos rfl, if_pos rfl]
      rfl
    · rw [if_neg hname, if_neg (Ne.symm hname)]

/-- Names stand in the order in which they first appear, the lower ones first. -/
theorem names_overlay {mentioned : List CodePoints} (h : names below = mentioned.eraseDups)
    (above : List (CodePoints × Json)) :
    names (overlay below above) = (mentioned ++ names above).eraseDups := by
  induction above generalizing below mentioned with
  | nil => simpa [overlay] using h
  | cons head rest ih =>
    obtain ⟨name, value⟩ := head
    have hnames : names (setMember name value below) = (mentioned ++ [name]).eraseDups := by
      rw [names_setMember, h, List.eraseDups_append]
      by_cases hname : name ∈ mentioned <;> simp [List.removeAll, hname, List.eraseDups_cons]
    rw [overlay_cons, ih hnames, List.append_assoc]
    rfl

theorem isObject_of_readMembers {limits : Limits} {room : Nat} {read : List (CodePoints × Json)} {cs rest : List Char}
    {lt : rest.length < cs.length} (h : readMembers limits room read cs = .ok ⟨(members, rest), lt⟩)
    (hread : IsObject read) : IsObject members := by
  induction hn : cs.length using Nat.strongRecOn generalizing read cs with
  | _ n ih =>
  unfold readMembers at h
  split at h
  · split at h
    · cases h
    · next name afterName ltName _ =>
      split at h
      · next afterColon hcolon =>
        split at h
        · cases h
        · next value afterValue ltValue _ =>
          split at h
          · cases h
            exact hread.setMember _ _
          · next more hcomma =>
            dsimp only at h
            generalize hnext : readMembers limits room (setMember name value read) (skipSpaces more) =
              next at h
            cases next with
            | error e => cases h
            | ok p =>
              obtain ⟨⟨_, _⟩, _⟩ := p
              cases h
              refine ih _ ?_ hnext (hread.setMember name value) rfl
              calc (skipSpaces more).length
                  ≤ more.length := skipSpaces_length more
                _ < afterValue.length := length_le_of_skipSpaces hcomma
                _ < (skipSpaces afterColon).length := ltValue
                _ ≤ afterColon.length := skipSpaces_length afterColon
                _ < afterName.length := length_le_of_skipSpaces hcolon
                _ < _ := ltName
                _ < n := by rw [← hn, List.length_cons]; exact Nat.lt_succ_self _
          · cases h
      · cases h
  · cases h

theorem readUnsigned_ne_object {limits : Limits} {negative : Bool} {cs rest : List Char} :
    readUnsigned limits negative cs ≠ .ok (some (.object members, rest)) := by
  unfold readUnsigned
  extract_lets whole
  split
  · simp
  · dsimp only
    split
    · split <;> simp
    · simp

theorem readScalar_ne_object {limits : Limits} {cs rest : List Char} :
    readScalar limits cs ≠ .ok (.object members, rest) := by
  intro h
  unfold readScalar at h
  split at h
  all_goals
    first
    | cases h
    | (split at h
       · cases h
       · cases h
       · next hnumber =>
         cases h
         exact readUnsigned_ne_object hnumber)

theorem isObject_of_readValue {limits : Limits} {room : Nat} {cs rest : List Char} {lt : rest.length < cs.length}
    (h : readValue limits room cs = .ok ⟨(.object members, rest), lt⟩) : IsObject members := by
  unfold readValue at h
  split at h
  · generalize readString _ _ _ = read at h
    cases read <;> cases h
  · split at h
    · cases h
    · split at h
      · cases h
      · dsimp only at h
        generalize readItems _ _ _ _ = read at h
        cases read <;> cases h
  · split at h
    · cases h
    · split at h
      · cases h
        exact isObject_nil
      · dsimp only at h
        generalize hread : readMembers _ _ _ _ = read at h
        cases read with
        | error e => cases h
        | ok p =>
          obtain ⟨⟨_, _⟩, _⟩ := p
          cases h
          exact isObject_of_readMembers hread isObject_nil
  · cases hscalar : readScalar limits cs with
    | error e => simp [hscalar, Except.bind] at h
    | ok p =>
      rw [hscalar, Except.bind, shortened] at h
      split at h
      · cases h
        exact absurd hscalar readScalar_ne_object
      · cases h

theorem isObject_of_read {limits : Limits} {cs : List Char}
    (h : Json.read limits cs = .ok (.object members)) : IsObject members := by
  unfold Json.read at h
  split at h
  · cases h
  · split at h
    · cases h
    · next value after _ hvalue =>
      split at h
      · cases h
        exact isObject_of_readValue hvalue
      · cases h

end Boilerplate.Json
