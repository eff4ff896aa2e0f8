import Boilerplate.Json.Display
import Boilerplate.Json.Reader
import Boilerplate.Proofs.Json.Members

namespace Boilerplate.Json

open Text (CodePoints)

/-- A value of at most `room` values one inside the other, of which no integer is too long. -/
inductive Within (limits : Limits) : Nat → Json → Prop where
  | null {room : Nat} : Within limits (room + 1) null
  | bool {room : Nat} (value : Bool) : Within limits (room + 1) (bool value)
  | integer {room : Nat} {n : Int} (h : limits.exceededBy? n = none) :
      Within limits (room + 1) (integer n)
  | number {room : Nat} (value : Decimal.Binary64) : Within limits (room + 1) (number value)
  | string {room : Nat} (value : CodePoints) : Within limits (room + 1) (string value)
  | array {room : Nat} {items : List Json} (h : ∀ item ∈ items, Within limits room item) :
      Within limits (room + 1) (array items)
  | object {room : Nat} {members : List (CodePoints × Json)}
      (h : ∀ member ∈ members, Within limits room member.2) : Within limits (room + 1) (object members)

variable {limits : Limits} {room more : Nat} {value : Json} {items read : List Json}
  {members earlier : List (CodePoints × Json)} {cs rest : List Char}

theorem Within.mono (h : Within limits room value) (hle : room ≤ more) :
    Within limits more value := by
  induction h generalizing more with
  | null | bool | number | string =>
    obtain ⟨more, rfl⟩ : ∃ m, more = m + 1 := ⟨more - 1, by omega⟩
    constructor
  | integer hn =>
    obtain ⟨more, rfl⟩ : ∃ m, more = m + 1 := ⟨more - 1, by omega⟩
    exact .integer hn
  | array _ ih =>
    obtain ⟨more, rfl⟩ : ∃ m, more = m + 1 := ⟨more - 1, by omega⟩
    exact .array fun item hitem ↦ ih item hitem (by omega)
  | object _ ih =>
    obtain ⟨more, rfl⟩ : ∃ m, more = m + 1 := ⟨more - 1, by omega⟩
    exact .object fun member hmember ↦ ih member hmember (by omega)

section Display

theorem entered_succ (room : Nat) (text : Except DisplayFault String) :
    entered (room + 1) text = text := if_neg (Nat.succ_ne_zero room)

theorem exists_displayItems_iff :
    (∃ texts, displayItems limits room items = .ok texts) ↔
      ∀ item ∈ items, ∃ text, displayWithin limits room item = .ok text := by
  induction items with
  | nil => simp [displayItems]
  | cons item items ih =>
    rw [List.forall_mem_cons, ← ih, displayItems]
    cases displayWithin limits room item <;> cases displayItems limits room items <;>
      simp [bind, Except.bind, pure, Except.pure]

theorem exists_displayMembers_iff :
    (∃ texts, displayMembers limits room members = .ok texts) ↔
      ∀ member ∈ members, ∃ text, displayWithin limits room member.2 = .ok text := by
  induction members with
  | nil => simp [displayMembers]
  | cons member members ih =>
    obtain ⟨name, value⟩ := member
    rw [List.forall_mem_cons, ← ih, displayMembers]
    cases displayWithin limits room value <;> cases displayMembers limits room members <;>
      simp [bind, Except.bind, pure, Except.pure]

theorem exists_map_eq_ok_iff {ε α β : Type} {x : Except ε α} {f : α → β} :
    (∃ b, x.map f = .ok b) ↔ ∃ a, x = .ok a := by
  cases x <;> simp [Except.map]

theorem exists_displayInteger_iff {n : Int} :
    (∃ text, displayInteger limits n = .ok text) ↔ limits.exceededBy? n = none := by
  rw [displayInteger]
  cases limits.exceededBy? n <;> simp

/-- A value has a text exactly if it is within the bounds. -/
theorem exists_displayWithin_iff :
    (∃ text, displayWithin limits room value = .ok text) ↔ Within limits room value := by
  induction room generalizing value with
  | zero =>
    constructor
    · rintro ⟨text, h⟩
      cases value <;> simp [displayWithin, entered] at h
    · intro h
      cases h
  | succ room ih =>
    cases value with
    | null => exact iff_of_true ⟨_, by rw [displayWithin, entered_succ]⟩ .null
    | bool value => exact iff_of_true ⟨_, by rw [displayWithin, entered_succ]⟩ (.bool value)
    | number value => exact iff_of_true ⟨_, by rw [displayWithin, entered_succ]⟩ (.number value)
    | string value => exact iff_of_true ⟨_, by rw [displayWithin, entered_succ]⟩ (.string value)
    | integer n =>
      simp only [displayWithin, entered_succ, exists_displayInteger_iff]
      exact ⟨.integer, fun h ↦ by cases h; assumption⟩
    | array items =>
      simp only [displayWithin, entered_succ, Nat.add_sub_cancel, exists_map_eq_ok_iff,
        exists_displayItems_iff, ih]
      exact ⟨.array, fun h ↦ by cases h; assumption⟩
    | object members =>
      simp only [displayWithin, entered_succ, Nat.add_sub_cancel, exists_map_eq_ok_iff,
        exists_displayMembers_iff, ih]
      exact ⟨.object, fun h ↦ by cases h; assumption⟩

end Display

section Read

theorem toNat_sub_le_of_isDigit {c : Char} (h : c.isDigit = true) : c.toNat - '0'.toNat ≤ 9 := by
  simp only [Char.isDigit, Bool.and_eq_true, decide_eq_true_eq, UInt32.le_iff_toNat_le] at h
  have hle : c.toNat ≤ 57 := h.2
  have hzero : '0'.toNat = 48 := rfl
  omega

theorem digitsValue_lt (h : ∀ c ∈ cs, c.isDigit = true) :
    digitsValue cs < Limits.leastBeyond cs.length := by
  suffices hfold : ∀ n, cs.foldl (fun n c ↦ n * 10 + (c.toNat - '0'.toNat)) n <
      (n + 1) * Limits.leastBeyond cs.length by
    simpa [digitsValue] using hfold 0
  induction cs with
  | nil => exact fun n ↦ by simp [Limits.leastBeyond]
  | cons c cs ih =>
    intro n
    obtain ⟨hc, hcs⟩ := List.forall_mem_cons.mp h
    have hdigit := toNat_sub_le_of_isDigit hc
    have hten : Limits.leastBeyond (c :: cs).length = Limits.leastBeyond cs.length * 10 := rfl
    calc (c :: cs).foldl (fun n c ↦ n * 10 + (c.toNat - '0'.toNat)) n
        < (n * 10 + (c.toNat - '0'.toNat) + 1) * Limits.leastBeyond cs.length := ih hcs _
      _ ≤ ((n + 1) * 10) * Limits.leastBeyond cs.length := Nat.mul_le_mul_right _ (by omega)
      _ = (n + 1) * Limits.leastBeyond (c :: cs).length := by
        rw [hten, Nat.mul_comm (Limits.leastBeyond cs.length), Nat.mul_assoc]

theorem exceededBy?_of_admitsDigits {count : Nat} {n : Int} (h : limits.admitsDigits count = true)
    (hn : n.natAbs < Limits.leastBeyond count) : limits.exceededBy? n = none := by
  rw [Limits.admitsDigits, Option.all_eq_true] at h
  cases hexceeded : limits.exceededBy? n with
  | none => rfl
  | some most =>
    obtain ⟨hmost, hle⟩ := Limits.of_exceededBy?_eq_some hexceeded
    have hcount : count ≤ most := of_decide_eq_true (h most hmost)
    have hpow : Limits.leastBeyond count ≤ Limits.leastBeyond most :=
      Nat.pow_le_pow_right (by decide) hcount
    omega

theorem within_of_readUnsigned {negative : Bool}
    (h : readUnsigned limits negative cs = .ok (some (value, rest))) :
    Within limits (room + 1) value := by
  unfold readUnsigned at h
  extract_lets whole at h
  have hdigits : ∀ c ∈ whole, c.isDigit = true := by
    intro c hc
    simp only [whole] at hc
    split at hc
    · obtain rfl := List.mem_singleton.mp hc
      rfl
    · exact List.all_eq_true.mp List.all_takeWhile c hc
  split at h
  · cases h
  · dsimp only at h
    split at h
    · split at h
      · next hadmits =>
        cases h
        refine .integer (exceededBy?_of_admitsDigits hadmits ?_)
        have hlt := digitsValue_lt hdigits
        split
        · rwa [Int.natAbs_neg]
        · exact hlt
      · cases h
    · cases h
      exact .number _

theorem within_of_readScalar (h : readScalar limits cs = .ok (value, rest)) :
    Within limits (room + 1) value := by
  unfold readScalar at h
  split at h
  all_goals
    first
    | (cases h; constructor)
    | (split at h
       · cases h
       · cases h
       · next hnumber =>
         cases h
         exact within_of_readUnsigned hnumber)

structure ReadsWithin (limits : Limits) (length : Nat) : Prop where
  value : ∀ {room cs v rest lt}, cs.length < length →
    readValue limits room cs = .ok ⟨(v, rest), lt⟩ → Within limits (room + 1) v
  items : ∀ {room read cs items rest lt}, cs.length < length →
    readItems limits room read cs = .ok ⟨(items, rest), lt⟩ →
      (∀ item ∈ read, Within limits (room + 1) item) → ∀ item ∈ items, Within limits (room + 1) item
  members : ∀ {room read cs members rest lt}, cs.length < length →
    readMembers limits room read cs = .ok ⟨(members, rest), lt⟩ →
      (∀ member ∈ read, Within limits (room + 1) member.2) →
        ∀ member ∈ members, Within limits (room + 1) member.2

theorem forall_mem_setMember {P : CodePoints × Json → Prop} (name : CodePoints)
    (h : ∀ member ∈ members, P member) (hnew : P (name, value)) :
    ∀ member ∈ setMember name value members, P member := by
  induction members with
  | nil => simpa [setMember] using hnew
  | cons head tail ih =>
    obtain ⟨hhead, htail⟩ := List.forall_mem_cons.mp h
    rw [setMember]
    split
    · exact List.forall_mem_cons.mpr ⟨hnew, htail⟩
    · exact List.forall_mem_cons.mpr ⟨hhead, ih htail⟩

namespace ReadsWithin

variable {lt : rest.length < cs.length}

theorem readValue (hs : ReadsWithin limits cs.length)
    (h : readValue limits room cs = .ok ⟨(value, rest), lt⟩) : Within limits (room + 1) value := by
  unfold Json.readValue at h
  split at h
  · generalize readString _ _ _ = read at h
    cases read <;> cases h
    exact .string _
  · next after =>
    split at h
    · cases h
    next hroom =>
    split at h
    · cases h
      exact .array (by simp)
    · dsimp only at h
      generalize hread : readItems _ _ _ _ = read at h
      cases read with
      | error e => cases h
      | ok p =>
        obtain ⟨⟨items, _⟩, _⟩ := p
        cases h
        have hitems := hs.items (Nat.lt_succ_of_le (skipSpaces_length after)) hread (by simp)
        rw [Nat.sub_add_cancel (Nat.pos_of_ne_zero hroom)] at hitems
        exact .array hitems
  · next after =>
    split at h
    · cases h
    next hroom =>
    split at h
    · cases h
      exact .object (by simp)
    · dsimp only at h
      generalize hread : readMembers _ _ _ _ = read at h
      cases read with
      | error e => cases h
      | ok p =>
        obtain ⟨⟨members, _⟩, _⟩ := p
        cases h
        have hmembers := hs.members (Nat.lt_succ_of_le (skipSpaces_length after)) hread (by simp)
        rw [Nat.sub_add_cancel (Nat.pos_of_ne_zero hroom)] at hmembers
        exact .object hmembers
  · cases hscalar : readScalar limits cs with
    | error e => simp [hscalar, Except.bind] at h
    | ok p =>
      rw [hscalar, Except.bind, shortened] at h
      split at h
      · cases h
        exact within_of_readScalar hscalar
      · cases h

theorem readItems (hs : ReadsWithin limits cs.length)
    (h : readItems limits room read cs = .ok ⟨(items, rest), lt⟩)
    (hread : ∀ item ∈ read, Within limits (room + 1) item) :
    ∀ item ∈ items, Within limits (room + 1) item := by
  unfold Json.readItems at h
  split at h
  · cases h
  next item afterItem ltItem hitem =>
  have hall : ∀ v ∈ item :: read, Within limits (room + 1) v :=
    List.forall_mem_cons.mpr ⟨hs.readValue hitem, hread⟩
  split at h
  · cases h
    exact fun v hv ↦ hall v (List.mem_reverse.mp hv)
  · next more hcomma =>
    dsimp only at h
    generalize hnext : Json.readItems _ _ _ _ = next at h
    cases next with
    | error e => cases h
    | ok p =>
      obtain ⟨⟨_, _⟩, _⟩ := p
      cases h
      refine hs.items ?_ hnext hall
      calc (skipSpaces more).length
          ≤ more.length := skipSpaces_length more
        _ < afterItem.length := length_le_of_skipSpaces hcomma
        _ < cs.length := ltItem
  · cases h

theorem readMembers (hs : ReadsWithin limits cs.length)
    (h : readMembers limits room earlier cs = .ok ⟨(members, rest), lt⟩)
    (hread : ∀ member ∈ earlier, Within limits (room + 1) member.2) :
    ∀ member ∈ members, Within limits (room + 1) member.2 := by
  unfold Json.readMembers at h
  split at h
  · split at h
    · cases h
    next name afterName ltName _ =>
    split at h
    · next afterColon hcolon =>
      split at h
      · cases h
      next value afterValue ltValue hvalue =>
      have hshort := calc (skipSpaces afterColon).length
          ≤ afterColon.length := skipSpaces_length afterColon
        _ < afterName.length := length_le_of_skipSpaces hcolon
        _ < _ := Nat.lt_succ_of_lt ltName
      have hall := forall_mem_setMember name hread (hs.value hshort hvalue)
      split at h
      · cases h
        exact hall
      · next more hcomma =>
        dsimp only at h
        generalize hnext : Json.readMembers _ _ _ _ = next at h
        cases next with
        | error e => cases h
        | ok p =>
          obtain ⟨⟨_, _⟩, _⟩ := p
          cases h
          refine hs.members ?_ hnext hall
          calc (skipSpaces more).length
              ≤ more.length := skipSpaces_length more
            _ < afterValue.length := length_le_of_skipSpaces hcomma
            _ < (skipSpaces afterColon).length := ltValue
            _ < _ := hshort
      · cases h
    · cases h
  · cases h

end ReadsWithin

theorem readsWithin (limits : Limits) (length : Nat) : ReadsWithin limits length := by
  induction length with
  | zero => exact ⟨fun h ↦ absurd h (Nat.not_lt_zero _), fun h ↦ absurd h (Nat.not_lt_zero _),
      fun h ↦ absurd h (Nat.not_lt_zero _)⟩
  | succ length ih =>
    have hshort (cs : List Char) (h : cs.length < length + 1) : ReadsWithin limits cs.length :=
      ⟨fun hlt ↦ ih.value (by omega), fun hlt ↦ ih.items (by omega), fun hlt ↦ ih.members (by omega)⟩
    exact ⟨fun h ↦ (hshort _ h).readValue, fun h ↦ (hshort _ h).readItems,
      fun h ↦ (hshort _ h).readMembers⟩

/-- A value that is read keeps to the bounds that hold for reading. -/
theorem within_of_read (h : Json.read limits cs = .ok value) :
    Within limits (limits.nesting + 1) value := by
  unfold Json.read at h
  split at h
  · cases h
  · split at h
    · cases h
    · next v after _ hvalue =>
      split at h
      · cases h
        exact (readsWithin limits _).readValue hvalue
      · cases h

end Read

end Boilerplate.Json
