import Boilerplate.Method.Equality
import Boilerplate.Proofs.Code.Conjunction
import Boilerplate.Proofs.Lists

namespace Boilerplate

namespace Code

/-- A call of a method on this object, or on the one in a variable. -/
structure Call where
  receiver : Option String
  method : String
  deriving DecidableEq

def Call.text (c : Call) : String :=
  match c.receiver with
  | none => c.method ++ "()"
  | some name => name ++ "." ++ c.method ++ "()"

namespace Expr

/-- The calls in an expression, besides those on other values than this object and variables. -/
def calls : Expr → List Call
  | var _ | this | null | boolean _ | integer _ | verbatim _ => []
  | call method => [⟨none, method⟩]
  | callOn (var name) method => [⟨some name, method⟩]
  | member object _ | callOn object _ => object.calls
  | apply _ argument | construct _ argument | cast _ argument | parenthesized argument =>
    argument.calls
  | applyTwo _ first second | binary _ first second => first.calls ++ second.calls
  | conditional condition ifTrue ifFalse => condition.calls ++ ifTrue.calls ++ ifFalse.calls

def reads : Expr → List String
  | var name => [name]
  | this | null | boolean _ | integer _ | verbatim _ | call _ => []
  | member object _ | callOn object _ => object.reads
  | apply _ argument | construct _ argument | cast _ argument | parenthesized argument =>
    argument.reads
  | applyTwo _ first second | binary _ first second => first.reads ++ second.reads
  | conditional condition ifTrue ifFalse => condition.reads ++ ifTrue.reads ++ ifFalse.reads

end Expr

/-- The variables that a statement reads. One that is assigned is not read by that. -/
def Statement.reads : Statement → List String
  | declare _ _ => []
  | define _ _ value | result value | assign (.var _) value => value.reads
  | assign first second | returnIf first second => first.reads ++ second.reads
  | conjunction terms => terms.flatMap Expr.reads

def Occurs (part whole : String) : Prop := ∃ before after, whole = before ++ part ++ after

section Texts

variable {part whole : String}

theorem Occurs.rfl : Occurs part part := ⟨"", "", by simp⟩

theorem Occurs.append_left (h : Occurs part whole) (before : String) :
    Occurs part (before ++ whole) := by
  obtain ⟨first, last, rfl⟩ := h
  exact ⟨before ++ first, last, by simp only [String.append_assoc]⟩

theorem Occurs.append_right (h : Occurs part whole) (after : String) :
    Occurs part (whole ++ after) := by
  obtain ⟨first, last, rfl⟩ := h
  exact ⟨first, last ++ after, by simp only [String.append_assoc]⟩

theorem Expr.calls_callOn {object : Expr} {method : String} {c : Call}
    (h : c ∈ (callOn object method).calls) :
    (∃ name, object = var name ∧ c = ⟨some name, method⟩) ∨ c ∈ object.calls := by
  cases object with
  | var name => exact .inl ⟨name, rfl, List.mem_singleton.mp h⟩
  | _ => exact .inr h

theorem occurs_of_mem_calls {e : Expr} {c : Call} (h : c ∈ e.calls) : Occurs c.text e.text := by
  induction e with
  | var | this | null | boolean | integer | verbatim => cases h
  | call method =>
    obtain rfl := List.mem_singleton.mp h
    exact .rfl
  | callOn object method ih =>
    rcases Expr.calls_callOn h with ⟨name, rfl, rfl⟩ | h
    · exact .rfl
    · exact (((ih h).append_right _).append_right _).append_right _
  | member object name ih => exact ((ih h).append_right _).append_right _
  | apply function argument ih => exact ((ih h).append_left _).append_right _
  | construct type argument ih => exact ((ih h).append_left _).append_right _
  | cast type value ih => exact (ih h).append_left _
  | parenthesized inner ih => exact ((ih h).append_left _).append_right _
  | applyTwo function first second ih₁ ih₂ =>
    rcases List.mem_append.mp h with h | h
    · exact ((((ih₁ h).append_left _).append_right _).append_right _).append_right _
    · exact ((ih₂ h).append_left _).append_right _
  | binary operator left right ih₁ ih₂ =>
    rcases List.mem_append.mp h with h | h
    · exact ((((ih₁ h).append_right _).append_right _).append_right _).append_right _
    · exact (ih₂ h).append_left _
  | conditional condition ifTrue ifFalse ih₁ ih₂ ih₃ =>
    rcases List.mem_append.mp h with h | h
    · rcases List.mem_append.mp h with h | h
      · exact ((((ih₁ h).append_right _).append_right _).append_right _).append_right _
      · exact (((ih₂ h).append_left _).append_right _).append_right _
    · exact (ih₃ h).append_left _

end Texts

/-- Whether a value comes from a getter of this object and from nothing else. -/
structure ReadsThrough (getter : String) (value : Expr) : Prop where
  calls : ∀ c, c ∈ value.calls ↔ c = ⟨none, getter⟩
  reads : value.reads = []

/-- Whether a getter is called once on this object and once on the other one. -/
structure Compares (getter : String) (term : Expr) : Prop where
  calls : term.calls.Perm [⟨none, getter⟩, ⟨some "that", getter⟩]
  reads : term.reads = ["that"]

section Fields

variable {kind : TypeKind} {getter : String} {f : Field} {multiplier : Expr}

theorem compares_equalityTerm (kind : TypeKind) (getter : String) (f : Field) :
    Compares getter (equalityTerm kind getter f) := by
  cases kind with
  | float | double => exact ⟨.swap _ _ _, rfl⟩
  | _ => exact ⟨.refl _, rfl⟩

theorem exists_hashSteps (kind : TypeKind) (getter : String) (f : Field) (multiplier : Expr) :
    ∃ value, ReadsThrough getter value ∧ hashSteps kind getter f multiplier =
      if kind.isWide then [.assign wideVariable value, accumulate multiplier foldedWide]
      else [accumulate multiplier value] := by
  cases kind with
  | immutable | object =>
    refine ⟨_, ⟨fun c ↦ ?_, rfl⟩, rfl⟩
    simp [Expr.calls]
  | _ => exact ⟨_, ⟨fun c ↦ List.mem_singleton, rfl⟩, rfl⟩

theorem not_mem_reads_accumulate {name : String} {value : Expr} (hname : name ≠ "result")
    (hm : name ∉ multiplier.reads) (hv : value.reads = []) :
    name ∉ (accumulate multiplier value).reads := by
  simp [accumulate, hashVariable, Statement.reads, Expr.reads, hname, hm, hv]

theorem split_hashSteps (hm : "temp" ∉ multiplier.reads) {before after : List Statement}
    {st : Statement} (h : hashSteps kind getter f multiplier = before ++ st :: after)
    (hst : "temp" ∈ st.reads) :
    ∃ value, ReadsThrough getter value ∧ before = [.assign wideVariable value] ∧
      st = accumulate multiplier foldedWide := by
  obtain ⟨value, hvalue, hsteps⟩ := exists_hashSteps kind getter f multiplier
  rw [h] at hsteps
  split at hsteps
  · match before with
    | [] =>
      obtain ⟨rfl, -⟩ := List.cons.inj hsteps
      exact absurd hst (by simp [wideVariable, Statement.reads, hvalue.reads])
    | [first] =>
      obtain ⟨rfl, hrest⟩ := List.cons.inj hsteps
      exact ⟨value, hvalue, rfl, (List.cons.inj hrest).1⟩
    | first :: second :: more =>
      exact absurd (congrArg List.length hsteps) (by simp)
  · match before with
    | [] =>
      obtain ⟨rfl, -⟩ := List.cons.inj hsteps
      exact absurd hst (not_mem_reads_accumulate (by decide) hm hvalue.reads)
    | first :: more => exact absurd (congrArg List.length hsteps) (by simp)

end Fields

end Code

namespace Method

open Code Code.Expr

variable {immutables : List String} {ps : List Property}

section Hash

variable {multiplier : Expr}

def hashStart (immutables : List String) (ps : List Property) : List Statement :=
  .define "int" "result" (integer 1) ::
    if ps.any (TypeKind.ofField immutables ·.field |>.isWide) then [.declare "long" "temp"] else []

def hashFolds (immutables : List String) (multiplier : Expr) (ps : List Property) :
    List Statement :=
  ps.flatMap fun p ↦
    hashSteps (.ofField immutables p.field) p.names.getter p.field multiplier

theorem hashBody_eq (immutables : List String) (multiplier : Expr) (ps : List Property) :
    hashBody immutables multiplier ps =
      hashStart immutables ps ++ hashFolds immutables multiplier ps ++ [.result hashVariable] :=
  rfl

theorem not_mem_reads_hashStart {st : Statement} (h : st ∈ hashStart immutables ps) :
    "temp" ∉ st.reads := by
  rw [hashStart, List.mem_cons] at h
  rcases h with rfl | h
  · decide
  · split at h
    · obtain rfl := List.mem_singleton.mp h
      decide
    · cases h

theorem split_hashFolds (hm : "temp" ∉ multiplier.reads) {before after : List Statement}
    {st : Statement} (h : hashFolds immutables multiplier ps = before ++ st :: after)
    (hst : "temp" ∈ st.reads) :
    ∃ earlier p later value, ps = earlier ++ p :: later ∧ ReadsThrough p.names.getter value ∧
      before = hashFolds immutables multiplier earlier ++ [.assign wideVariable value] ∧
      st = accumulate multiplier foldedWide := by
  induction ps generalizing before with
  | nil => exact absurd h (by simp [hashFolds])
  | cons p ps ih =>
    rw [hashFolds, List.flatMap_cons] at h
    rcases append_eq_append_cons h with ⟨own, hown, -⟩ | ⟨skipped, rfl, hrest⟩
    · obtain ⟨value, hvalue, rfl, rfl⟩ := split_hashSteps hm hown hst
      exact ⟨[], p, ps, value, rfl, hvalue, rfl, rfl⟩
    · obtain ⟨earlier, q, later, value, rfl, hvalue, rfl, rfl⟩ := ih hrest
      exact ⟨p :: earlier, q, later, value, rfl, hvalue, by simp [hashFolds], rfl⟩

/-- The wide variable is read only right behind its assignment from the same field. -/
theorem split_hashBody (hm : "temp" ∉ multiplier.reads) {before after : List Statement}
    {st : Statement} (h : hashBody immutables multiplier ps = before ++ st :: after)
    (hst : "temp" ∈ st.reads) :
    ∃ earlier p later value, ps = earlier ++ p :: later ∧ ReadsThrough p.names.getter value ∧
      before = hashStart immutables ps ++ hashFolds immutables multiplier earlier ++
        [.assign wideVariable value] ∧
      st = accumulate multiplier foldedWide := by
  rw [hashBody_eq, List.append_assoc] at h
  rcases append_eq_append_cons h with ⟨rest, hstart, -⟩ | ⟨skipped, rfl, hrest⟩
  · have hmem : st ∈ hashStart immutables ps := by simp [hstart]
    exact absurd hst (not_mem_reads_hashStart hmem)
  · rcases append_eq_append_cons hrest with ⟨rest, hfolds, -⟩ | ⟨more, rfl, hresult⟩
    · obtain ⟨earlier, p, later, value, hps, hvalue, rfl, rfl⟩ := split_hashFolds hm hfolds hst
      exact ⟨earlier, p, later, value, hps, hvalue, (List.append_assoc ..).symm, rfl⟩
    · have hmem : st ∈ [.result hashVariable] := by simp [hresult]
      obtain rfl := List.mem_singleton.mp hmem
      exact absurd hst (by decide)

end Hash

/-- The lines that take one field into a hash code. -/
def IsFold (multiplier : Int) (wide : Bool) (getter : String) (block : List String) : Prop :=
  ∃ value, ReadsThrough getter value ∧ block =
    if wide then
      ["temp = " ++ value.text ++ ";",
        "result = " ++ toString multiplier ++ " * result + (int) (temp ^ (temp >>> 32));"]
    else ["result = " ++ toString multiplier ++ " * result + " ++ value.text ++ ";"]

/-- A line that compares two objects by one getter. -/
def IsComparison (getter line : String) : Prop :=
  ∃ start term stop, Compares getter term ∧ line = start ++ term.text ++ stop ∧
    (start = "return " ∨ start = termIndent) ∧ (stop = " &&" ∨ stop = ";")

section Lines

theorem lines_append (first second : List Statement) :
    lines (first ++ second) = lines first ++ lines second := List.flatMap_append

theorem lines_singleton (st : Statement) : lines [st] = st.lines := List.flatMap_singleton ..

theorem lines_hashStart (immutables : List String) (ps : List Property) :
    lines (hashStart immutables ps) =
      "int result = 1;" ::
        if ps.any (TypeKind.ofField immutables ·.field |>.isWide) then ["long temp;"] else [] := by
  rw [hashStart]
  split <;> rfl

theorem lines_accumulate (multiplier : Int) (value : Expr) :
    (accumulate (integer multiplier) value).lines =
      ["result = " ++ toString multiplier ++ " * result + " ++ value.text ++ ";"] := by
  simp [accumulate, hashVariable, Statement.lines, Expr.text, Operator.text, String.append_assoc]

theorem lines_accumulate_foldedWide (multiplier : Int) :
    (accumulate (integer multiplier) foldedWide).lines =
      ["result = " ++ toString multiplier ++ " * result + (int) (temp ^ (temp >>> 32));"] := by
  have hend : " * result + " ++ foldedWide.text ++ ";" =
      " * result + (int) (temp ^ (temp >>> 32));" := by
    decide
  rw [lines_accumulate, ← hend]
  simp only [String.append_assoc]

theorem isFold_hashSteps (kind : TypeKind) (getter : String) (f : Field) (multiplier : Int) :
    IsFold multiplier kind.isWide getter
      (lines (hashSteps kind getter f (integer multiplier))) := by
  obtain ⟨value, hvalue, hsteps⟩ := exists_hashSteps kind getter f (integer multiplier)
  refine ⟨value, hvalue, ?_⟩
  rw [hsteps]
  split
  · rw [lines, List.flatMap_cons, List.flatMap_singleton, lines_accumulate_foldedWide]
    rfl
  · rw [lines_singleton, lines_accumulate]

theorem forall₂_joinTerms {terms : List String} (h : terms ≠ []) :
    List.Forall₂ (fun term line ↦ ∃ start stop, line = start ++ term ++ stop ∧
      (start = "return " ∨ start = termIndent) ∧ (stop = " &&" ∨ stop = ";"))
      terms (joinTerms terms) := by
  rw [joinTerms_eq_mapIdx h, List.forall₂_iff_get]
  refine ⟨List.length_mapIdx.symm, fun i hi hi' ↦ ?_⟩
  rw [List.get_eq_getElem, List.get_eq_getElem, List.getElem_mapIdx]
  exact ⟨_, _, rfl, ite_eq_or_eq _ _ _, (ite_eq_or_eq _ _ _).symm⟩

theorem forall₂_equalityTerms (h : ps ≠ []) (immutables : List String) :
    List.Forall₂ (fun p line ↦ IsComparison p.names.getter line) ps
      (joinTerms ((equalityTerms immutables ps).map Expr.text)) := by
  have hterms : (equalityTerms immutables ps).map Expr.text ≠ [] := by
    simpa [equalityTerms] using h
  have hlines := forall₂_joinTerms hterms
  rw [equalityTerms, List.map_map, List.forall₂_map_left_iff] at hlines
  rw [equalityTerms, List.map_map]
  refine hlines.imp fun p line ⟨start, stop, hline, hstart, hstop⟩ ↦ ?_
  exact ⟨start, _, stop, compares_equalityTerm _ _ _, hline, hstart, hstop⟩

theorem lines_equalsBody (immutables : List String) (className : String) (ps : List Property) :
    lines (equalsBody immutables className ps) =
      ["if (this == o) return true;",
        "if (o == null || getClass() != o.getClass()) return false;"] ++
      (if ps.isEmpty then [] else [className ++ " that = (" ++ className ++ ") o;"]) ++
      joinTerms ((equalityTerms immutables ps).map Expr.text) := by
  have hdefine : (Statement.define className "that" (cast className (var "o"))).lines =
      [className ++ " that = (" ++ className ++ ") o;"] := by
    have hopen : " that = (" = " " ++ "that" ++ " = " ++ "(" := by decide
    have hclose : ") o;" = ") " ++ "o" ++ ";" := by decide
    rw [Statement.lines, Expr.text, Expr.text, hopen, hclose]
    simp only [String.append_assoc]
  rw [equalsBody, lines_append, lines_append, lines_singleton (.conjunction _)]
  congr 2
  split
  · rfl
  · rw [lines_singleton, hdefine]

theorem lines_hashFolds (immutables : List String) (multiplier : Int) (ps : List Property) :
    ∃ blocks,
      List.Forall₂ (fun p ↦ IsFold multiplier (TypeKind.ofField immutables p.field).isWide
        p.names.getter) ps blocks ∧
      lines (hashFolds immutables (integer multiplier) ps) = blocks.flatten := by
  refine ⟨ps.map fun p ↦ lines (hashSteps (.ofField immutables p.field) p.names.getter p.field
    (integer multiplier)), ?_, ?_⟩
  · rw [List.forall₂_map_right_iff, List.forall₂_same]
    exact fun p _ ↦ isFold_hashSteps _ _ _ _
  · rw [hashFolds, lines, List.flatMap_assoc]
    rfl

end Lines

theorem declares_temp_iff (immutables : List String) (multiplier : Expr) (ps : List Property) :
    (∃ type, .declare type "temp" ∈ hashBody immutables multiplier ps) ↔
      ∃ p ∈ ps, (TypeKind.ofField immutables p.field).isWide = true := by
  have hfolds (type : String) : .declare type "temp" ∉ hashFolds immutables multiplier ps := by
    rw [hashFolds, List.mem_flatMap]
    rintro ⟨p, -, hp⟩
    cases hk : TypeKind.ofField immutables p.field <;> simp [hk, hashSteps, accumulate] at hp
  rw [hashBody_eq, ← List.any_eq_true]
  simp only [List.mem_append, hfolds, or_false, hashStart]
  split <;> simp_all

theorem defines_that_iff (immutables : List String) (className : String) (ps : List Property) :
    (∃ type value, .define type "that" value ∈ equalsBody immutables className ps) ↔ ps ≠ [] := by
  cases ps <;> simp [equalsBody]

/-- A hash code starts at 1, has the wide variable exactly if a field is of 64 bits, and takes up
every field once and in order: by its getter, or by the wide variable right after that has got its
value from the getter. There is none only where a multiplier that is too long is to be written. A
comparison has one term for each field in the same order, which calls the same getter on both
objects, and names the other object exactly if there is a field. -/
theorem body_shape (limits : Limits) (immutables : List String) (n : Naming) (multiplier : Int)
    (comments : Bool) (c : ClassOutline) :
    let ps := c.fields.map n.property
    let isWide (f : Field) := (TypeKind.ofField immutables f).isWide
    (∀ m, hashCode? limits immutables multiplier comments ps = .ok m →
      m.body = lines (hashBody immutables (integer multiplier) ps)) ∧
    ((∃ m, hashCode? limits immutables multiplier comments ps = .ok m) ↔
      c.fields = [] ∨ limits.exceededBy? multiplier = none) ∧
    (∀ most, hashCode? limits immutables multiplier comments ps = .error most →
      limits.digits = some most ∧ Limits.leastBeyond most ≤ multiplier.natAbs) ∧
    (∃ blocks,
      List.Forall₂ (fun f ↦ IsFold multiplier (isWide f) (n.getterName f)) c.fields blocks ∧
      lines (hashBody immutables (integer multiplier) ps) =
        "int result = 1;" :: (if c.fields.any isWide then ["long temp;"] else []) ++
          blocks.flatten ++ ["return result;"]) ∧
    (∀ f, isWide f = true ↔
      TypeKind.ofField immutables f = .long ∨ TypeKind.ofField immutables f = .double) ∧
    ((∃ type, .declare type "temp" ∈ hashBody immutables (integer multiplier) ps) ↔
      ∃ f ∈ c.fields, isWide f = true) ∧
    (∀ before st after, hashBody immutables (integer multiplier) ps = before ++ st :: after →
      "temp" ∈ st.reads →
      ∃ earlier f later value, c.fields = earlier ++ f :: later ∧
        ReadsThrough (n.getterName f) value ∧
        before = hashStart immutables ps ++
          hashFolds immutables (integer multiplier) (earlier.map n.property) ++
          [.assign wideVariable value] ∧
        st = accumulate (integer multiplier) foldedWide) ∧
    (∃ comparisons,
      (equals immutables comments c ps).body =
        ["if (this == o) return true;",
          "if (o == null || getClass() != o.getClass()) return false;"] ++
        (if c.fields.isEmpty then []
          else [c.displayName ++ " that = (" ++ c.displayName ++ ") o;"]) ++ comparisons ∧
      (c.fields = [] → comparisons = ["return true;"]) ∧
      (c.fields ≠ [] →
        List.Forall₂ (fun f ↦ IsComparison (n.getterName f)) c.fields comparisons)) ∧
    ((∃ type value, .define type "that" value ∈ equalsBody immutables c.displayName ps) ↔
      c.fields ≠ []) ∧
    ∀ e : Expr, ∀ call ∈ e.calls, Occurs call.text e.text := by
  intro ps isWide
  have hempty : ps = [] ↔ c.fields = [] := List.map_eq_nil_iff
  refine ⟨fun m hm ↦ ?_, ?_, fun most hmost ↦ ?_, ?_, fun f ↦ ?_, ?_,
    fun before st after h hst ↦ ?_, ?_, ?_, fun e call ↦ occurs_of_mem_calls⟩
  · rw [hashCode?_eq_ok hm]
    rfl
  · rw [exists_hashCode?_iff, hempty]
  · exact Limits.of_exceededBy?_eq_some (exceededBy?_of_hashCode? hmost)
  · obtain ⟨blocks, hblocks, hfolds⟩ := lines_hashFolds immutables multiplier ps
    refine ⟨blocks, List.forall₂_map_left_iff.mp hblocks, ?_⟩
    rw [hashBody_eq, lines_append, lines_append, hfolds, lines_hashStart, List.any_map]
    rfl
  · cases hk : TypeKind.ofField immutables f <;> simp [isWide, hk, TypeKind.isWide]
  · rw [declares_temp_iff]
    simp only [ps, List.mem_map, exists_exists_and_eq_and]
    rfl
  · obtain ⟨earlier, p, later, value, hps, hvalue, hbefore, hsteps⟩ :=
      split_hashBody (by simp [Expr.reads]) h hst
    obtain ⟨fs, gs, hfields, rfl, hgs⟩ := List.map_eq_append_iff.mp hps
    obtain ⟨f, later', rfl, rfl, rfl⟩ := List.map_eq_cons_iff.mp hgs
    exact ⟨fs, f, later', value, hfields, hvalue, hbefore, hsteps⟩
  · refine ⟨joinTerms ((equalityTerms immutables ps).map Expr.text),
      (lines_equalsBody immutables c.displayName ps).trans ?_, fun hnil ↦ ?_, fun hne ↦ ?_⟩
    · rw [List.isEmpty_map]
    · simp [ps, hnil, equalityTerms, joinTerms, continueTerms]
    · have hps : c.fields.map n.property ≠ [] := by simpa using hne
      have hlines := forall₂_equalityTerms hps immutables
      rw [List.forall₂_map_left_iff] at hlines
      exact hlines
  · rw [defines_that_iff]
    exact not_congr List.map_eq_nil_iff

theorem body_shape_sample :
    let limits := Limits.usual
    let f (type name : String) (h : Field.make? type name 1 |>.toOption.isSome) : Field :=
      (Field.make? type name 1 |>.toOption).get h
    let n : Naming := ⟨"m_", "is"⟩
    let c : ClassOutline := ⟨some "Car",
      [f "long" "m_weight" rfl, f "int[][]" "seats" rfl, f "double" "m_speed" rfl], 0⟩
    let bare : ClassOutline := ⟨some "Car", [], 0⟩
    (∃ m, hashCode? limits [] 31 true (c.fields.map n.property) = .ok m ∧ m.body =
        ["int result = 1;", "long temp;", "temp = getWeight();",
          "result = 31 * result + (int) (temp ^ (temp >>> 32));",
          "result = 31 * result + java.util.Arrays.deepHashCode(getSeats());",
          "temp = Double.doubleToLongBits(getSpeed());",
          "result = 31 * result + (int) (temp ^ (temp >>> 32));", "return result;"]) ∧
      (∃ blocks, List.Forall₂ (fun f ↦ IsFold 31 (TypeKind.ofField [] f).isWide (n.getterName f))
        c.fields blocks ∧ blocks.length = 3) ∧
      (∃ m, hashCode? limits [] (Limits.leastBeyond 4300) true (bare.fields.map n.property) = .ok m ∧
        m.body = ["int result = 1;", "return result;"]) ∧
      ¬∃ type value, .define type "that" value ∈
        equalsBody [] bare.displayName (bare.fields.map n.property) := by
  intro limits f n c bare
  obtain ⟨hbody, hwritten, -, ⟨blocks, hblocks, -⟩, -⟩ := body_shape limits [] n 31 true c
  obtain ⟨hbare, hwritten', -, -, -, -, -, -, hthat, -⟩ :=
    body_shape limits [] n (Limits.leastBeyond 4300) true bare
  obtain ⟨m, hm⟩ := hwritten.mpr (.inr (by decide +kernel))
  obtain ⟨m', hm'⟩ := hwritten'.mpr (.inl rfl)
  exact ⟨⟨m, hm, (hbody m hm).trans (by decide)⟩, ⟨blocks, hblocks, hblocks.length_eq.symm⟩,
    ⟨m', hm', hbare m' hm'⟩, fun h ↦ hthat.mp h rfl⟩

/-- With a multiplier that is too long to be written, one field is enough to have no hash code. -/
theorem hashCode_fails_long :
    let multiplier : Int := Limits.leastBeyond 4300
    let n : Naming := ⟨"", "is"⟩
    ∃ f, Field.make? "int" "speed" 1 = .ok f ∧
      ∀ comments, hashCode? .usual [] multiplier comments [n.property f] = .error 4300 := by
  intro multiplier n
  refine ⟨_, rfl, fun comments ↦ ?_⟩
  cases comments <;> decide +kernel

end Method

end Boilerplate
