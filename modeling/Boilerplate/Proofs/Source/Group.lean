import Boilerplate.Proofs.Source.TokenForm

namespace Boilerplate.Source

def countSymbol (mark : String) (ts : List Token) : Nat := ts.countP (·.isSymbol mark)

/-- A run from an opening symbol to the first place where the closing one is as frequent. -/
structure IsGroup (opening closing : String) (ts : List Token) : Prop where
  opens : ts.head?.any (·.isSymbol opening) = true
  balanced : countSymbol opening ts = countSymbol closing ts
  first : ∀ before, before ≠ [] → before <+: ts → before ≠ ts →
    countSymbol opening before ≠ countSymbol closing before

/-- Modifiers and annotations, with the words of the modifiers. -/
inductive ModifierRun : List String → List Token → Prop
  | nil : ModifierRun [] []
  | word {t : Token} {words : List String} {ts : List Token} :
      t.isWord = true → t.text ∈ fieldModifiers → ModifierRun words ts →
      ModifierRun (t.text :: words) (t :: ts)
  | bare {t : Token} {words : List String} {ts : List Token} :
      t.kind = .atName → ModifierRun words ts → ModifierRun words (t :: ts)
  | call {t : Token} {words : List String} {group ts : List Token} :
      t.kind = .atName → IsGroup "(" ")" group → ModifierRun words ts →
      ModifierRun words (t :: group ++ ts)

inductive DimensionRun : List Token → Prop
  | nil : DimensionRun []
  | pair {a b : Token} {ts : List Token} :
      a.isSymbol "[" = true → b.isSymbol "]" = true → DimensionRun ts →
      DimensionRun (a :: b :: ts)

def IsArgumentToken (t : Token) : Prop :=
  t.isWord = true ∨ ∃ mark ∈ typeArgumentSymbols, t.isSymbol mark = true

instance (t : Token) : Decidable (IsArgumentToken t) :=
  inferInstanceAs (Decidable (t.isWord = true ∨ ∃ mark ∈ typeArgumentSymbols, _))

def IsTypeStart (t : Token) : Prop :=
  t.isWord = true ∧ t.text ∉ fieldModifiers ∧ t.text ∉ classKeywords

def IsArgumentGroup (ts : List Token) : Prop :=
  ts = [] ∨ IsGroup "<" ">" ts ∧ ∀ t ∈ ts, IsArgumentToken t

def IsTypeRun (ts : List Token) : Prop :=
  ∃ start arguments dimensions, ts = start :: arguments ++ dimensions ∧ IsTypeStart start ∧
    IsArgumentGroup arguments ∧ DimensionRun dimensions

theorem Token.isSymbol_unique {t : Token} {a b : String} (ha : t.isSymbol a = true)
    (hb : t.isSymbol b = true) : a = b := by
  exact (isSymbol_iff.mp ha).2.symm.trans (isSymbol_iff.mp hb).2

theorem Token.isSymbol_eq_false {t : Token} {a b : String} (ha : t.isSymbol a = true)
    (hab : a ≠ b) : t.isSymbol b = false := by
  cases hb : t.isSymbol b
  · rfl
  · exact absurd (Token.isSymbol_unique ha hb) hab

section Groups

variable {opening closing : String} {depth : Nat} {t : Token} {ts rest : List Token}

theorem countSymbol_cons (mark : String) (t : Token) (ts : List Token) :
    countSymbol mark (t :: ts) = countSymbol mark ts + if t.isSymbol mark then 1 else 0 :=
  List.countP_cons

/-- A run that closes so many open groups with its last token and not before. -/
def Closes (opening closing : String) (depth : Nat) (ts : List Token) : Prop :=
  depth + countSymbol opening ts = countSymbol closing ts ∧
    ∀ before, before <+: ts → before ≠ ts →
      depth + countSymbol opening before ≠ countSymbol closing before

theorem closes_nil : Closes opening closing depth [] ↔ depth = 0 := by
  constructor
  · intro h
    simpa [countSymbol] using h.1
  · intro hx
    subst hx
    refine ⟨rfl, fun before hb hne ↦ absurd (List.prefix_nil.mp hb) hne⟩

theorem closes_zero_iff : Closes opening closing 0 ts ↔ ts = [] := by
  constructor
  · intro h
    by_contra hne
    exact h.2 [] (List.nil_prefix) (fun he ↦ hne he.symm) rfl
  · intro hx
    subst hx
    exact closes_nil.mpr rfl

theorem closes_cons {depth' : Nat} (hd : depth ≠ 0)
    (h : ∀ n m : Nat, depth + (n + if t.isSymbol opening then 1 else 0) =
      m + (if t.isSymbol closing then 1 else 0) ↔ depth' + n = m) :
    Closes opening closing depth (t :: ts) ↔ Closes opening closing depth' ts := by
  unfold Closes
  rw [countSymbol_cons, countSymbol_cons, h]
  refine and_congr_right fun _ ↦ ⟨fun hp before hb hne he ↦ ?_, fun hp before hb hne he ↦ ?_⟩
  · refine hp (t :: before) ((List.prefix_cons_inj t).mpr hb) (fun hc ↦ hne (List.cons.inj hc).2) ?_
    rwa [countSymbol_cons, countSymbol_cons, h]
  · cases before with
    | nil => exact hd he
    | cons u before =>
      obtain ⟨rfl, hbs⟩ := List.cons_prefix_cons.mp hb
      rw [countSymbol_cons, countSymbol_cons, h] at he
      exact hp before hbs (fun hc ↦ hne (by rw [hc])) he

theorem closes_cons_opening (hne : opening ≠ closing) (ht : t.isSymbol opening = true) :
    Closes opening closing (depth + 1) (t :: ts) ↔ Closes opening closing (depth + 2) ts := by
  refine closes_cons (by omega) fun n m ↦ ?_
  simp only [ht, Token.isSymbol_eq_false ht hne, ↓reduceIte, Bool.false_eq_true]
  omega

theorem closes_cons_closing (hne : opening ≠ closing) (ht : t.isSymbol closing = true) :
    Closes opening closing (depth + 1) (t :: ts) ↔ Closes opening closing depth ts := by
  refine closes_cons (by omega) fun n m ↦ ?_
  simp only [ht, Token.isSymbol_eq_false ht hne.symm, ↓reduceIte, Bool.false_eq_true]
  omega

theorem closes_cons_other (ho : t.isSymbol opening = false) (hc : t.isSymbol closing = false) :
    Closes opening closing (depth + 1) (t :: ts) ↔ Closes opening closing (depth + 1) ts := by
  refine closes_cons (by omega) fun n m ↦ ?_
  simp only [ho, hc, ↓reduceIte, Bool.false_eq_true]
  omega

theorem isGroup_cons_iff (hne : opening ≠ closing) (ht : t.isSymbol opening = true) :
    IsGroup opening closing (t :: ts) ↔ Closes opening closing 1 ts := by
  have hcount (us : List Token) : countSymbol opening (t :: us) = countSymbol closing (t :: us) ↔
      1 + countSymbol opening us = countSymbol closing us := by
    simp only [countSymbol_cons, ht, Token.isSymbol_eq_false ht hne, ↓reduceIte,
      Bool.false_eq_true]
    omega
  constructor
  · intro h
    refine ⟨(hcount ts).mp h.balanced, fun before hb hne he ↦ ?_⟩
    exact h.first (t :: before) (by simp) ((List.prefix_cons_inj t).mpr hb)
      (fun hc ↦ hne (List.cons.inj hc).2) ((hcount before).mpr he)
  · intro h
    refine ⟨by simp [ht], (hcount ts).mpr h.1, fun before hnil hb hne he ↦ ?_⟩
    cases before with
    | nil => exact hnil rfl
    | cons u before =>
      obtain ⟨rfl, hbs⟩ := List.cons_prefix_cons.mp hb
      exact h.2 before hbs (fun hc ↦ hne (by rw [hc])) ((hcount before).mp he)

theorem Closes.unique {run run' : List Token} (h : Closes opening closing depth run)
    (h' : Closes opening closing depth run') (hrun : run <+: ts) (hrun' : run' <+: ts) :
    run = run' := by
  by_contra hne
  rcases List.prefix_or_prefix_of_prefix hrun hrun' with hp | hp
  · exact h'.2 run hp hne h.1
  · exact h.2 run' hp (Ne.symm hne) h'.1

theorem IsGroup.exists_cons (h : IsGroup opening closing ts) :
    ∃ t rest, ts = t :: rest ∧ t.isSymbol opening = true := by
  cases ts with
  | nil => exact absurd h.opens (by simp)
  | cons t rest => exact ⟨t, rest, rfl, by simpa using h.opens⟩

end Groups

section Reading

variable {t : Token} {ts rest : List Token} {depth : Nat}

theorem afterGroup_append (hd : depth ≠ 0) {group : List Token}
    (h : Closes "(" ")" depth group) : afterGroup depth (group ++ rest) = rest := by
  induction group generalizing depth with
  | nil => exact absurd (closes_nil.mp h) hd
  | cons t group ih =>
    obtain ⟨d, rfl⟩ := Nat.exists_eq_succ_of_ne_zero hd
    rw [List.cons_append, afterGroup]
    by_cases ho : t.isSymbol "(" = true
    · rw [if_pos ho]
      exact ih (by omega) ((closes_cons_opening (by decide) ho).mp h)
    rw [if_neg ho]
    by_cases hc : t.isSymbol ")" = true
    · have h' := (closes_cons_closing (by decide) hc).mp h
      rw [if_pos hc]
      cases d with
      | zero =>
        obtain rfl := closes_zero_iff.mp h'
        simp
      | succ d => exact ih (by omega) h'
    · rw [if_neg hc]
      exact ih hd ((closes_cons_other (by simpa using ho) (by simpa using hc)).mp h)

/-- A group that is left again has an end; one that is not takes all tokens. -/
theorem exists_closes_of_afterGroup_ne_nil (hd : depth ≠ 0) (h : afterGroup depth ts ≠ []) :
    ∃ group, ts = group ++ afterGroup depth ts ∧ Closes "(" ")" depth group := by
  induction ts generalizing depth with
  | nil => simp [afterGroup] at h
  | cons t ts ih =>
    obtain ⟨d, rfl⟩ := Nat.exists_eq_succ_of_ne_zero hd
    rw [afterGroup] at h ⊢
    by_cases ho : t.isSymbol "(" = true
    · rw [if_pos ho] at h ⊢
      obtain ⟨group, hg, hc⟩ := ih (by omega) h
      exact ⟨t :: group, by rw [List.cons_append, ← hg],
        (closes_cons_opening (by decide) ho).mpr hc⟩
    rw [if_neg ho] at h ⊢
    by_cases hc : t.isSymbol ")" = true
    · rw [if_pos hc] at h ⊢
      cases d with
      | zero => exact ⟨[t], rfl, (closes_cons_closing (by decide) hc).mpr (closes_nil.mpr rfl)⟩
      | succ d =>
        obtain ⟨group, hg, hcl⟩ := ih (by omega) h
        exact ⟨t :: group, by rw [List.cons_append]; exact congrArg _ hg,
          (closes_cons_closing (by decide) hc).mpr hcl⟩
    · rw [if_neg hc] at h ⊢
      obtain ⟨group, hg, hcl⟩ := ih hd h
      exact ⟨t :: group, by rw [List.cons_append, ← hg],
        (closes_cons_other (by simpa using ho) (by simpa using hc)).mpr hcl⟩

theorem afterGroup_isGroup {group : List Token} (h : IsGroup "(" ")" group) :
    afterGroup 0 (group ++ rest) = rest := by
  obtain ⟨t, inner, rfl, ht⟩ := h.exists_cons
  rw [List.cons_append, afterGroup, if_pos ht]
  exact afterGroup_append (by omega) ((isGroup_cons_iff (by decide) ht).mp h)

theorem exists_isGroup_of_afterGroup_ne_nil (ht : ts.head?.any (·.isSymbol "(") = true)
    (h : afterGroup 0 ts ≠ []) :
    ∃ group, ts = group ++ afterGroup 0 ts ∧ IsGroup "(" ")" group := by
  cases ts with
  | nil => simp at ht
  | cons t ts =>
    simp only [List.head?_cons, Option.any_some] at ht
    rw [afterGroup, if_pos ht] at h ⊢
    obtain ⟨group, hg, hc⟩ := exists_closes_of_afterGroup_ne_nil (by omega) h
    exact ⟨t :: group, by rw [List.cons_append, ← hg], (isGroup_cons_iff (by decide) ht).mpr hc⟩

/-- The first token behind modifiers: neither an annotation nor a modifier, nor the parenthesis
of an annotation's arguments. -/
def EndsModifiers (ts : List Token) : Prop :=
  ∀ t ∈ ts.head?, t.kind ≠ .atName ∧ (t.isWord = true → t.text ∉ fieldModifiers) ∧
    t.isSymbol "(" = false

theorem Token.kind_ne_atName_of_isSymbol {mark : String} (h : t.isSymbol mark = true) :
    t.kind ≠ .atName := by
  simp [(isSymbol_iff.mp h).1]

theorem Token.isWord_eq_false_of_isSymbol {mark : String} (h : t.isSymbol mark = true) :
    t.isWord = false := by
  simp [Token.isWord, (isSymbol_iff.mp h).1]

theorem Token.isSymbol_eq_false_of_isWord (mark : String) (h : t.isWord = true) :
    t.isSymbol mark = false := by
  cases hs : t.isSymbol mark
  · rfl
  · rw [Token.isWord_eq_false_of_isSymbol hs] at h
    exact absurd h Bool.false_ne_true

theorem readModifiers_of_endsModifiers (h : EndsModifiers ts) : readModifiers ts = ([], ts) := by
  cases ts with
  | nil => rw [readModifiers]
  | cons t ts =>
    obtain ⟨hk, hw, -⟩ := h t rfl
    rw [readModifiers, if_neg hk, if_neg (fun hc ↦ hw hc.1 hc.2)]

theorem readModifiers_append {words : List String} {run : List Token} (h : ModifierRun words run)
    (hr : EndsModifiers rest) : readModifiers (run ++ rest) = (words, rest) := by
  induction h with
  | nil => exact readModifiers_of_endsModifiers hr
  | @word t words ts hw hm h ih =>
    have hk : t.kind ≠ .atName := Token.kind_ne_of_isWord hw (by decide)
    rw [List.cons_append, readModifiers, if_neg hk, if_pos ⟨hw, hm⟩, ih]
  | @bare t words ts hk h ih =>
    have hhead : ((ts ++ rest).head?.any (·.isSymbol "(")) = false := by
      cases h with
      | nil =>
        cases rest with
        | nil => rfl
        | cons u rest => simpa using (hr u rfl).2.2
      | word hw => simpa using Token.isSymbol_eq_false_of_isWord "(" hw
      | bare hk' | call hk' =>
        simp [Token.isSymbol, hk']
    rw [List.cons_append, readModifiers, if_pos hk, if_neg (Bool.not_eq_true _ ▸ hhead), ih]
  | @call t words group ts hk hg h ih =>
    obtain ⟨u, inner, rfl, hu⟩ := hg.exists_cons
    rw [List.cons_append, List.cons_append, readModifiers, if_pos hk, if_pos (by simp [hu]),
      List.append_assoc, afterGroup_isGroup hg, ih]

theorem exists_modifierRun (h : (readModifiers ts).2 ≠ []) :
    ∃ run, ts = run ++ (readModifiers ts).2 ∧ ModifierRun (readModifiers ts).1 run := by
  fun_induction readModifiers ts with
  | case1 => simp at h
  | case2 t ts hk hopen _ ih =>
    obtain ⟨run, hrun, hm⟩ := ih h
    have hne : afterGroup 0 ts ≠ [] := by
      intro he
      rw [he, readModifiers] at h
      exact h rfl
    obtain ⟨group, hg, hgroup⟩ := exists_isGroup_of_afterGroup_ne_nil hopen hne
    refine ⟨t :: group ++ run, ?_, .call hk hgroup hm⟩
    rw [List.cons_append, List.cons_append, List.append_assoc, ← hrun, ← hg]
  | case3 t ts hk _ ih =>
    obtain ⟨run, hrun, hm⟩ := ih h
    exact ⟨t :: run, by rw [List.cons_append, ← hrun], .bare hk hm⟩
  | case4 t ts _ hw ih =>
    obtain ⟨run, hrun, hm⟩ := ih h
    exact ⟨t :: run, by rw [List.cons_append, ← hrun], .word hw.1 hw.2 hm⟩
  | case5 t ts => exact ⟨[], rfl, .nil⟩

theorem readModifiers_head {t : Token} (h : (readModifiers ts).2.head? = some t) :
    t.kind ≠ .atName ∧ (t.isWord = true → t.text ∉ fieldModifiers) := by
  fun_induction readModifiers ts with
  | case1 => simp at h
  | case2 _ _ _ _ _ ih => exact ih h
  | case3 _ _ _ _ ih => exact ih h
  | case4 _ _ _ _ ih => exact ih h
  | case5 u us hk hw =>
    obtain rfl : u = t := by simpa using h
    exact ⟨hk, fun hword hmem ↦ hw ⟨hword, hmem⟩⟩

def EndsDimensions (ts : List Token) : Prop :=
  ∀ a b more, ts = a :: b :: more → a.isSymbol "[" = true → b.isSymbol "]" = false

theorem readDimensions_append {run : List Token} (h : DimensionRun run) (hr : EndsDimensions rest) :
    readDimensions (run ++ rest) = (run, rest) := by
  induction h with
  | nil =>
    rw [List.nil_append]
    cases rest with
    | nil => rw [readDimensions]; simp
    | cons a rest =>
      cases rest with
      | nil => rw [readDimensions]; simp
      | cons b rest =>
        have hab : ¬(a.isSymbol "[" = true ∧ b.isSymbol "]" = true) := by
          intro hx
          obtain ⟨ha, hb⟩ := hx
          rw [hr a b rest rfl ha] at hb
          exact absurd hb Bool.false_ne_true
        rw [readDimensions, if_neg hab]
  | @pair a b ts ha hb h ih =>
    rw [List.cons_append, List.cons_append, readDimensions, if_pos ⟨ha, hb⟩, ih]

theorem readDimensions_spec (ts : List Token) :
    ts = (readDimensions ts).1 ++ (readDimensions ts).2 ∧ DimensionRun (readDimensions ts).1 := by
  fun_induction readDimensions ts with
  | case1 a b rest h ih =>
    refine ⟨?_, .pair h.1 h.2 ih.2⟩
    rw [List.cons_append, List.cons_append, ← ih.1]
  | case2 => exact ⟨rfl, .nil⟩
  | case3 => exact ⟨rfl, .nil⟩

theorem isArgumentToken_iff (hwf : t.WellFormed) :
    IsArgumentToken t ↔
      t.kind ≠ .atName ∧ ¬(t.isWord = false ∧ t.text ∉ typeArgumentSymbols) := by
  constructor
  · intro hx
    rcases hx with hw | ⟨mark, hm, ht⟩
    · exact ⟨Token.kind_ne_of_isWord hw (by decide), by simp [hw]⟩
    · refine ⟨Token.kind_ne_atName_of_isSymbol ht, fun h ↦ h.2 ?_⟩
      rwa [(Token.isSymbol_iff.mp ht).2]
  · intro hx
    obtain ⟨hk, h⟩ := hx
    by_cases hw : t.isWord = true
    · exact .inl hw
    · have hw' : t.isWord = false := by simpa using hw
      have hm : t.text ∈ typeArgumentSymbols := by
        by_contra hm
        exact h ⟨hw', hm⟩
      refine .inr ⟨t.text, hm, ?_⟩
      simp [Token.isSymbol, hwf.kind_eq_symbol hw' hk hm]

theorem readTypeArguments_eq_ok_iff (hd : depth ≠ 0) (hwf : ∀ t ∈ ts, t.WellFormed)
    {run : List Token} : readTypeArguments depth ts = .ok (run, rest) ↔
      ts = run ++ rest ∧ Closes "<" ">" depth run ∧ ∀ t ∈ run, IsArgumentToken t := by
  induction ts generalizing depth run with
  | nil =>
    rw [readTypeArguments]
    simp only [reduceCtorEq, List.nil_eq, List.append_eq_nil_iff, false_iff]
    intro hx
    obtain ⟨⟨rfl, -⟩, hc, -⟩ := hx
    exact hd (closes_nil.mp hc)
  | cons t ts ih =>
    obtain ⟨d, rfl⟩ := Nat.exists_eq_succ_of_ne_zero hd
    have hts : ∀ u ∈ ts, u.WellFormed := fun u hu ↦ hwf u (by simp [hu])
    by_cases harg : IsArgumentToken t
    · obtain ⟨hk, hm⟩ := (isArgumentToken_iff (hwf t (by simp))).mp harg
      -- The first token joins what is read behind it, at the depth `d'` that it leaves.
      have hjoin {d' : Nat} (hd' : d' ≠ 0)
          (hcl : ∀ us, Closes "<" ">" (d + 1) (t :: us) ↔ Closes "<" ">" d' us) :
          (readTypeArguments d' ts).map (fun p ↦ (t :: p.1, p.2)) =
              .ok (run, rest) ↔
            t :: ts = run ++ rest ∧ Closes "<" ">" (d + 1) run ∧ ∀ t ∈ run, IsArgumentToken t := by
        rw [map_eq_ok_iff]
        constructor
        · intro hx
          obtain ⟨⟨read, after⟩, hr, he⟩ := hx
          obtain ⟨rfl, rfl⟩ := Prod.mk.inj he
          obtain ⟨hts', hc, hall⟩ := (ih hd' hts).mp hr
          exact ⟨by rw [hts', List.cons_append], (hcl read).mpr hc,
            List.forall_mem_cons.mpr ⟨harg, hall⟩⟩
        · intro hx
          obtain ⟨he, hc, hall⟩ := hx
          cases run with
          | nil => exact absurd (closes_nil.mp hc) hd
          | cons u read =>
            obtain ⟨rfl, hts'⟩ := List.cons.inj he
            exact ⟨(read, rest), (ih hd' hts).mpr
              ⟨hts', (hcl read).mp hc, (List.forall_mem_cons.mp hall).2⟩, rfl⟩
      rw [readTypeArguments, if_neg hk, if_neg hm]
      by_cases ho : t.isSymbol "<" = true
      · rw [if_pos ho]
        exact hjoin (by omega) fun us ↦ closes_cons_opening (by decide) ho
      rw [if_neg ho]
      by_cases hc : t.isSymbol ">" = true
      · cases d with
        | zero =>
          rw [if_pos ⟨hc, le_rfl⟩]
          simp only [Except.ok.injEq, Prod.mk.injEq]
          constructor
          · intro hx
            obtain ⟨rfl, rfl⟩ := hx
            refine ⟨rfl, (closes_cons_closing (by decide) hc).mpr (closes_nil.mpr rfl), ?_⟩
            simpa using harg
          · intro hx
            obtain ⟨he, hcl, -⟩ := hx
            cases run with
            | nil => exact absurd (closes_nil.mp hcl) hd
            | cons u read =>
              obtain ⟨rfl, rfl⟩ := List.cons.inj he
              obtain rfl := closes_zero_iff.mp ((closes_cons_closing (by decide) hc).mp hcl)
              exact ⟨rfl, rfl⟩
        | succ d =>
          rw [if_neg (by omega), if_pos hc]
          exact hjoin (by omega) fun us ↦ closes_cons_closing (by decide) hc
      · rw [if_neg (fun h ↦ hc h.1), if_neg hc]
        exact hjoin hd fun us ↦ closes_cons_other (by simpa using ho) (by simpa using hc)
    · have he : ∃ reason, readTypeArguments (d + 1) (t :: ts) = .error reason := by
        rw [isArgumentToken_iff (hwf t (by simp))] at harg
        rw [readTypeArguments]
        by_cases hk : t.kind = .atName
        · exact ⟨_, if_pos hk⟩
        · rw [if_neg hk, if_pos (not_not.mp fun hm ↦ harg ⟨hk, hm⟩)]
          exact ⟨_, rfl⟩
      obtain ⟨reason, he⟩ := he
      rw [he]
      simp only [reduceCtorEq, false_iff]
      intro hx
      obtain ⟨htr, hc, hall⟩ := hx
      cases run with
      | nil => exact hd (closes_nil.mp hc)
      | cons u read =>
        obtain ⟨rfl, -⟩ := List.cons.inj htr
        exact harg (hall t (by simp))

theorem endsDimensions_of_head (h : ∀ t ∈ ts.head?, t.isSymbol "[" = false) :
    EndsDimensions ts := by
  intro a b more he ha
  subst he
  rw [h a rfl] at ha
  exact absurd ha Bool.false_ne_true

theorem endsDimensions_of_isWord (hw : ∀ t ∈ ts.head?, t.isWord = true) : EndsDimensions ts :=
  endsDimensions_of_head fun t ht ↦ Token.isSymbol_eq_false_of_isWord "[" (hw t ht)

theorem readDimensions_of_head (h : ∀ t ∈ ts.head?, t.isSymbol "[" = false) :
    readDimensions ts = ([], ts) :=
  readDimensions_append .nil (endsDimensions_of_head h)

theorem readTypeArguments_opening (ht : t.isSymbol "<" = true) (depth : Nat) :
    readTypeArguments depth (t :: ts) =
      (readTypeArguments (depth + 1) ts).map fun p ↦ (t :: p.1, p.2) := by
  have hk := Token.kind_ne_atName_of_isSymbol ht
  have hmark : t.text ∈ typeArgumentSymbols := by
    rw [(Token.isSymbol_iff.mp ht).2]
    decide
  rw [readTypeArguments, if_neg hk, if_neg (fun hx ↦ hx.2 hmark), if_pos ht]

theorem readType_append {start : Token} {arguments dimensions : List Token}
    (ha : IsArgumentGroup arguments) (hd : DimensionRun dimensions)
    (hwf : ∀ t ∈ arguments ++ (dimensions ++ rest), t.WellFormed)
    (hr : ∀ t ∈ rest.head?, t.isSymbol "<" = false) (hrd : EndsDimensions rest) :
    readType start (arguments ++ (dimensions ++ rest)) =
      .ok (start :: arguments ++ dimensions, rest) := by
  rcases ha with rfl | ⟨hg, hall⟩
  · have hhead : ∀ t ∈ (dimensions ++ rest).head?, t.isSymbol "<" = false := by
      cases hd with
      | nil => exact hr
      | pair ha =>
        intro t ht
        obtain rfl := Option.some.inj ht
        exact Token.isSymbol_eq_false ha (by decide)
    rw [List.nil_append]
    cases hts : dimensions ++ rest with
    | nil =>
      obtain ⟨rfl, rfl⟩ := List.append_eq_nil_iff.mp hts
      rfl
    | cons t ts =>
      rw [readType, if_neg (by simp [hhead t (by simp [hts])]), ← hts,
        readDimensions_append hd hrd]
      rfl
  · obtain ⟨t, inner, rfl, ht⟩ := hg.exists_cons
    have hclose := (isGroup_cons_iff (by decide) ht).mp hg
    have hread : readTypeArguments 1 (inner ++ (dimensions ++ rest)) =
        .ok (inner, dimensions ++ rest) :=
      (readTypeArguments_eq_ok_iff (by omega) fun u hu ↦ hwf u (by simp_all)).mpr
        ⟨rfl, hclose, fun u hu ↦ hall u (by simp [hu])⟩
    rw [List.cons_append, readType, if_pos ht, readTypeArguments_opening ht, hread]
    simp only [Except.map, readDimensions_append hd hrd, List.cons_append]

theorem exists_of_readType {start : Token} {type : List Token}
    (h : readType start ts = .ok (type, rest)) (hwf : ∀ t ∈ ts, t.WellFormed) :
    ∃ arguments dimensions, type = start :: arguments ++ dimensions ∧
      ts = arguments ++ (dimensions ++ rest) ∧ IsArgumentGroup arguments ∧
      DimensionRun dimensions := by
  cases ts with
  | nil =>
    rw [readType] at h
    obtain ⟨rfl, rfl⟩ := Prod.mk.inj (Except.ok.inj h)
    exact ⟨[], [], rfl, rfl, .inl rfl, .nil⟩
  | cons t ts =>
    rw [readType] at h
    by_cases ht : t.isSymbol "<" = true
    · rw [if_pos ht, map_eq_ok_iff] at h
      obtain ⟨⟨arguments, after⟩, hargs, he⟩ := h
      obtain ⟨rfl, rfl⟩ := Prod.mk.inj he
      have harg : IsArgumentToken t := .inr ⟨"<", by decide, ht⟩
      rw [readTypeArguments_opening ht, map_eq_ok_iff] at hargs
      obtain ⟨⟨inner, after'⟩, hin, he⟩ := hargs
      obtain ⟨rfl, rfl⟩ := Prod.mk.inj he
      obtain ⟨hts, hclose, hall⟩ :=
        (readTypeArguments_eq_ok_iff (by omega) fun u hu ↦ hwf u (by simp [hu])).mp hin
      obtain ⟨hdims, hrun⟩ := readDimensions_spec after'
      refine ⟨t :: inner, (readDimensions after').1, rfl, ?_, .inr ⟨?_, ?_⟩, hrun⟩
      · rw [List.cons_append, ← hdims, ← hts]
      · exact (isGroup_cons_iff (by decide) ht).mpr hclose
      · exact List.forall_mem_cons.mpr ⟨harg, hall⟩
    · rw [if_neg ht] at h
      obtain ⟨rfl, rfl⟩ := Prod.mk.inj (Except.ok.inj h)
      obtain ⟨hdims, hrun⟩ := readDimensions_spec (t :: ts)
      exact ⟨[], (readDimensions (t :: ts)).1, rfl, hdims, .inl rfl, hrun⟩

end Reading

end Boilerplate.Source
