import Boilerplate.Method.Accessor
import Boilerplate.Method.CopyConstructor
import Boilerplate.Method.Equality
import Boilerplate.Proofs.Code.OneLine

namespace Boilerplate

open Text (IsOneLine IsCodeLine)

section Characters

variable {c : Char}

theorem ofNat_ne_lineFeed {n : Nat} (h : 10 < n) : Char.ofNat n ≠ '\n' := by
  intro he
  by_cases hv : n.isValidChar
  · have hn : (Char.ofNat n).toNat = n := by
      rw [Char.ofNat, dif_pos hv]
      rfl
    rw [he] at hn
    have hfeed : '\n'.toNat = 10 := rfl
    omega
  · rw [Char.ofNat, dif_neg hv] at he
    exact absurd he (by decide)

theorem toUpper_ne_lineFeed (hc : c ≠ '\n') : c.toUpper ≠ '\n' := by
  have hall : ∀ n < 128, n ≠ 10 → (Char.ofNat n).toUpper ≠ '\n' := by decide +kernel
  by_cases h : c.toNat < 128
  · have hne : c.toNat ≠ 10 := fun he ↦ hc (Char.toNat_inj.mp he)
    have hupper := hall c.toNat h hne
    rwa [Char.ofNat_toNat] at hupper
  · have hupper : c.toUpper = c :=
      dif_neg fun hx ↦ h (Nat.lt_of_le_of_lt (UInt32.le_iff_toNat_le.mp hx.2) (by decide))
    rwa [hupper]

theorem not_mem_uppercase (hc : c ≠ '\n') : '\n' ∉ Text.uppercase c := by
  have hexpansions : ∀ e ∈ Text.uppercaseExpansions, ∀ code ∈ e.2, 10 < code := by
    decide +kernel
  have hshifts : ∀ e ∈ Text.uppercaseShifts, 10 < (e.1.first : Int) + e.2 := by decide +kernel
  rw [Text.uppercase]
  split
  · simpa using (toUpper_ne_lineFeed hc).symm
  split
  · simpa using hc.symm
  split
  · next e codes he =>
    intro hmem
    obtain ⟨code, hcode, hfeed⟩ := List.mem_map.mp hmem
    exact ofNat_ne_lineFeed (hexpansions _ (List.mem_of_find?_eq_some he) code hcode) hfeed
  split
  · next r shift he =>
    have hshift := hshifts _ (List.mem_of_find?_eq_some he)
    have hcontains := List.find?_some he
    simp only [Text.Stride.contains, Bool.and_eq_true, decide_eq_true_eq] at hcontains
    refine List.not_mem_cons_of_ne_of_not_mem (ofNat_ne_lineFeed ?_).symm List.not_mem_nil
    simp only at hshift
    omega
  · simpa using hc.symm

end Characters

section Names

variable {n : Naming} {f : Field} {s : String}

theorem isOneLine_capitalizeFirst (h : IsOneLine s) : IsOneLine (Text.capitalizeFirst s) := by
  rw [Text.capitalizeFirst]
  split
  · decide
  · next c rest hs =>
    rw [IsOneLine, hs, List.mem_cons, not_or] at h
    rw [Text.isOneLine_ofList, List.mem_append, not_or]
    exact ⟨not_mem_uppercase (Ne.symm h.1), h.2⟩

theorem Field.isOneLine_name (f : Field) : IsOneLine f.name := by
  intro h
  exact absurd (f.not_isBlank_of_mem_name _ h) (by decide)

theorem Naming.isOneLine_plainName (n : Naming) (f : Field) : IsOneLine (n.plainName f) := by
  rw [plainName, stripStart]
  split
  · rw [Text.isOneLine_ofList]
    exact fun h ↦ f.isOneLine_name (List.drop_subset _ _ h)
  · exact f.isOneLine_name

theorem Naming.isOneLine_fragment (n : Naming) (f : Field) : IsOneLine (n.fragment f) := by
  have hplain := n.isOneLine_plainName f
  rw [fragment]
  split
  · rw [Text.isOneLine_ofList]
    exact fun h ↦ hplain (List.drop_subset _ _ h)
  · exact isOneLine_capitalizeFirst hplain

theorem Naming.isOneLine_getterName (h : IsOneLine n.booleanPrefix) (f : Field) :
    IsOneLine (n.getterName f) := by
  rw [getterName]
  split
  · simp +decide [n.isOneLine_fragment f]
  split
  · exact n.isOneLine_plainName f
  · simp [h, n.isOneLine_fragment f]

theorem Naming.isOneLine_setterName (n : Naming) (f : Field) : IsOneLine (n.setterName f) := by
  have hcapitalized := isOneLine_capitalizeFirst (n.isOneLine_plainName f)
  simp +decide [setterName, hcapitalized]

end Names

structure Property.IsFlat (p : Property) : Prop where
  type : IsOneLine p.field.type
  plain : IsOneLine p.names.plain
  getter : IsOneLine p.names.getter
  setter : IsOneLine p.names.setter

theorem Naming.property_isFlat {n : Naming} {f : Field} (h : IsOneLine n.booleanPrefix)
    (hf : IsOneLine f.type) : (n.property f).IsFlat :=
  ⟨hf, n.isOneLine_plainName f, n.isOneLine_getterName h f, n.isOneLine_setterName f⟩

namespace Method

open Code Code.Expr

structure IsCode (m : Method) : Prop where
  signature : IsOneLine m.signature
  body : ∀ line ∈ m.body, IsCodeLine line
  doc : ∀ line ∈ m.doc, line = "" ∨ IsCodeLine line
  annotations : ∀ line ∈ m.annotations, IsCodeLine line

variable {comments : Bool} {immutables : List String} {c : ClassOutline} {p : Property}
  {ps : List Property}

theorem isCode_docLines {lines : List String} (h : ∀ line ∈ lines, line = "" ∨ IsCodeLine line) :
    ∀ line ∈ docLines comments lines, line = "" ∨ IsCodeLine line := by
  intro line hline
  rw [docLines] at hline
  split at hline
  · exact h line hline
  · cases hline

theorem getter_isCode (h : p.IsFlat) : (getter comments p).IsCode where
  signature := by
    change IsOneLine ("public " ++ p.field.type ++ " " ++ p.names.getter ++ "()")
    simp +decide [h.type, h.getter]
  body := isCodeLine_of_mem_lines <| by
    intro statement hstatement
    obtain rfl := List.mem_singleton.mp hstatement
    exact p.field.isOneLine_name
  doc := isCode_docLines <| by
    intro line hline
    obtain rfl := List.mem_singleton.mp hline
    right
    simp +decide [h.plain]
  annotations := fun _ hline ↦ absurd hline List.not_mem_nil

theorem setter_isCode (h : p.IsFlat) : (setter comments p).IsCode where
  signature := by
    change IsOneLine
      ("public void " ++ p.names.setter ++ "(" ++ p.field.type ++ " " ++ p.names.plain ++ ")")
    simp +decide [h.setter, h.type, h.plain]
  body := isCodeLine_of_mem_lines <| by
    intro statement hstatement
    obtain rfl := List.mem_singleton.mp hstatement
    exact ⟨⟨trivial, p.field.isOneLine_name⟩, h.plain⟩
  doc := isCode_docLines <| by
    intro line hline
    obtain rfl := List.mem_singleton.mp hline
    right
    simp +decide [h.plain]
  annotations := fun _ hline ↦ absurd hline List.not_mem_nil

theorem copyStatement_isFlat (kind : TypeKind) {f : Field} (hf : IsOneLine f.type) :
    (copyStatement kind f "other").IsFlat := by
  have hvalue : (member (var "other") f.name).IsFlat :=
    ⟨(by decide : IsOneLine "other"), f.isOneLine_name⟩
  refine ⟨⟨trivial, f.isOneLine_name⟩, ?_⟩
  cases kind with
  | array =>
    exact ⟨⟨hvalue, trivial⟩, trivial, hvalue, hvalue, (by decide : IsOneLine "length")⟩
  | object => exact ⟨⟨hvalue, trivial⟩, trivial, hf, hvalue⟩
  | _ => exact hvalue

theorem copyConstructor_isCode (hclass : IsOneLine c.displayName)
    (htypes : ∀ f ∈ c.fields, IsOneLine f.type) :
    (copyConstructor immutables comments c).IsCode where
  signature := by
    change IsOneLine ("public " ++ c.displayName ++ "(" ++ c.displayName ++ " other)")
    simp +decide [hclass]
  body := isCodeLine_of_mem_lines <| by
    intro statement hstatement
    obtain ⟨f, hf, rfl⟩ := List.mem_map.mp hstatement
    exact copyStatement_isFlat _ (htypes f hf)
  doc := isCode_docLines <| by
    intro line hline
    rcases List.mem_cons.mp hline with rfl | hline
    · right
      simp +decide [hclass]
    rcases List.mem_cons.mp hline with rfl | hline
    · exact .inl rfl
    · obtain rfl := List.mem_singleton.mp hline
      right
      simp +decide [hclass]
  annotations := fun _ hline ↦ absurd hline List.not_mem_nil

theorem equalityTerm_isFlat (kind : TypeKind) {getter : String} (f : Field)
    (h : IsOneLine getter) : (equalityTerm kind getter f).IsFlat := by
  have hthat : (callOn that getter).IsFlat := ⟨(by decide : IsOneLine "that"), h⟩
  cases kind with
  | integral | long | boolean | immutable | object | array => exact ⟨h, hthat⟩
  | float | double => exact ⟨⟨hthat, h⟩, trivial⟩

theorem equalsBody_isFlat (hclass : IsOneLine c.displayName) (h : ∀ p ∈ ps, p.IsFlat) :
    ∀ statement ∈ equalsBody immutables c.displayName ps, statement.IsFlat := by
  have hother : (var "o").IsFlat := (by decide : IsOneLine "o")
  have hgetClass : IsOneLine "getClass" := by decide
  intro statement hstatement
  rw [equalsBody] at hstatement
  rcases List.mem_append.mp hstatement with hstatement | hstatement
  · rcases List.mem_append.mp hstatement with hstatement | hstatement
    · rcases List.mem_cons.mp hstatement with rfl | hstatement
      · exact ⟨⟨trivial, hother⟩, trivial⟩
      · obtain rfl := List.mem_singleton.mp hstatement
        exact ⟨⟨⟨hother, trivial⟩, hgetClass, hother, hgetClass⟩, trivial⟩
    · split at hstatement
      · cases hstatement
      · obtain rfl := List.mem_singleton.mp hstatement
        exact ⟨hclass, by decide, hclass, hother⟩
  · obtain rfl := List.mem_singleton.mp hstatement
    intro term hterm
    obtain ⟨p, hp, rfl⟩ := List.mem_map.mp hterm
    exact equalityTerm_isFlat _ p.field (h p hp).getter

theorem equals_isCode (hclass : IsOneLine c.displayName) (h : ∀ p ∈ ps, p.IsFlat) :
    (equals immutables comments c ps).IsCode where
  signature := (by decide : IsOneLine "public boolean equals(Object o)")
  body := isCodeLine_of_mem_lines (equalsBody_isFlat hclass h)
  doc := isCode_docLines <| by
    intro line hline
    obtain rfl := List.mem_singleton.mp hline
    right
    simp +decide [hclass]
  annotations := (by decide : ∀ line ∈ ["@Override"], IsCodeLine line)

theorem hashSteps_isFlat (kind : TypeKind) {getter : String} (f : Field) {multiplier : Expr}
    (h : IsOneLine getter) (hm : multiplier.IsFlat) :
    ∀ statement ∈ hashSteps kind getter f multiplier, statement.IsFlat := by
  have hresult : hashVariable.IsFlat := (by decide : IsOneLine "result")
  have htemp : wideVariable.IsFlat := (by decide : IsOneLine "temp")
  have hint : IsOneLine "int" := by decide
  have haccumulate {value : Expr} (hv : value.IsFlat) : (accumulate multiplier value).IsFlat :=
    ⟨hresult, ⟨hm, hresult⟩, hv⟩
  have hfolded : foldedWide.IsFlat := ⟨hint, htemp, htemp, trivial⟩
  have hcall : (call getter).IsFlat := h
  cases kind with
  | integral => exact List.forall_mem_singleton.mpr (haccumulate ⟨hint, hcall⟩)
  | boolean => exact List.forall_mem_singleton.mpr (haccumulate ⟨hcall, trivial, trivial⟩)
  | long | double =>
    exact List.forall_mem_cons.mpr ⟨⟨htemp, hcall⟩,
      List.forall_mem_singleton.mpr (haccumulate hfolded)⟩
  | float | array => exact List.forall_mem_singleton.mpr (haccumulate hcall)
  | immutable | object =>
    exact List.forall_mem_singleton.mpr (haccumulate
      ⟨⟨hcall, trivial⟩, trivial, hcall, (by decide : IsOneLine "hashCode")⟩)

theorem hashBody_isFlat {multiplier : Expr} (hm : multiplier.IsFlat) (h : ∀ p ∈ ps, p.IsFlat) :
    ∀ statement ∈ hashBody immutables multiplier ps, statement.IsFlat := by
  intro statement hstatement
  rw [hashBody] at hstatement
  rcases List.mem_append.mp hstatement with hstatement | hstatement
  · rcases List.mem_append.mp hstatement with hstatement | hstatement
    · rcases List.mem_cons.mp hstatement with rfl | hstatement
      · exact ⟨by decide, by decide, trivial⟩
      · split at hstatement
        · obtain rfl := List.mem_singleton.mp hstatement
          exact ⟨by decide, by decide⟩
        · cases hstatement
    · obtain ⟨p, hp, hstep⟩ := List.mem_flatMap.mp hstatement
      exact hashSteps_isFlat _ p.field (h p hp).getter hm statement hstep
  · obtain rfl := List.mem_singleton.mp hstatement
    exact (by decide : IsOneLine "result")

theorem hashCode_isCode {multiplier : Expr} (hm : multiplier.IsFlat) (h : ∀ p ∈ ps, p.IsFlat) :
    (hashCode immutables multiplier comments ps).IsCode where
  signature := (by decide : IsOneLine "public int hashCode()")
  body := isCodeLine_of_mem_lines (hashBody_isFlat hm h)
  doc := isCode_docLines (by decide)
  annotations := (by decide : ∀ line ∈ ["@Override"], IsCodeLine line)

end Method

end Boilerplate
