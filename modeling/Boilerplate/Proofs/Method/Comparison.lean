import Boilerplate.Method.Equality
import Boilerplate.Proofs.Code.Evaluation

namespace Boilerplate.Method

open Code Code.Expr

variable {Ref : Type}

/-- How two values of a field are compared. -/
def agrees (l : Library Ref) (kind : TypeKind) (nested : Bool) : Value Ref → Value Ref → Bool
  | .int bits, .int bits' => bits == bits'
  | .long bits, .long bits' => bits == bits'
  | .float bits, .float bits' => l.floatCompare bits' bits == 0
  | .double bits, .double bits' => l.doubleCompare bits' bits == 0
  | .boolean value, .boolean value' => value == value'
  | .reference r, .reference r' =>
    if kind = .array then if nested then l.deepEquals r r' else l.arraysEquals r r'
    else l.objectsEquals r r'
  | _, _ => false

def allAgree (l : Library Ref) (immutables : List String) :
    List Property → List (Value Ref) → List (Value Ref) → Bool
  | p :: ps, v :: vs, u :: us =>
    agrees l (.ofField immutables p.field) (isNested p.field) v u && allAgree l immutables ps vs us
  | _, _, _ => true

section Fields

variable [DecidableEq Ref] {w : World Ref} {self other : Ref} {s : State Ref} {kind : TypeKind}
  {getter : String} {f : Field} {v u : Value Ref}

theorem eval_equalityTerm (hv : v.HasKind kind) (hu : u.HasKind kind)
    (hself : w.invoke (s.heap self) getter = .ok v)
    (hother : w.invoke (s.heap other) getter = .ok u)
    (hthat : s.locals "that" = some (some (.object other))) :
    eval w self s (equalityTerm kind getter f) =
      .ok (.boolean (agrees w.library kind (isNested f) v u)) := by
  have hcall : eval w self s (call getter) = .ok v := hself
  have hcallOn : eval w self s (callOn that getter) = .ok u := by
    rw [eval, that, eval_var hthat]
    exact hother
  have hzero : eval w self s (integer 0) = .ok (.int 0) := rfl
  cases hv with
  | integral | long | boolean =>
    cases hu
    exact eval_binary (by decide) hcall hcallOn
  | float | double =>
    cases hu
    rw [equalityTerm, eval_binary (by decide) (eval_applyTwo hcallOn hcall) hzero]
    rfl
  | immutable | object =>
    cases hu
    exact eval_applyTwo hcall hcallOn
  | array =>
    cases hu
    rw [equalityTerm, eval_applyTwo hcall hcallOn]
    cases isNested f <;> rfl

end Fields

section Bodies

variable {w : World Ref} {immutables : List String} {ps : List Property} {vs us : List (Value Ref)}
  {i j : Instance Ref}

def Reads (w : World Ref) (i : Instance Ref) (immutables : List String) (ps : List Property)
    (vs : List (Value Ref)) : Prop :=
  List.Forall₂ (fun p v ↦ w.invoke i p.names.getter = .ok v ∧
    v.HasKind (.ofField immutables p.field)) ps vs

theorem reads_of_typed (hd : (w.properties.map (·.names.getter)).Nodup) (h : i.Typed w.properties)
    (immutables : List String) : Reads w i immutables w.properties i.values := by
  refine List.forall₂_iff_zip.mpr ⟨h.length_eq, fun hm ↦ ⟨w.invoke_getter hd hm, ?_⟩⟩
  exact ((List.forall₂_iff_zip.mp h).2 hm).hasKind immutables

theorem invoke_getClass (h : "getClass" ∉ w.properties.map (·.names.getter)) :
    w.invoke i "getClass" = .ok (.reference (some i.classObject)) := by
  have hnone : ((w.properties.map (·.names.getter)).zip i.values).lookup "getClass" = none := by
    refine List.lookup_eq_none_iff.mpr fun pair hp ↦ bne_iff_ne.mpr fun he ↦ ?_
    exact h (he ▸ (List.of_mem_zip hp).1)
  rw [World.invoke, hnone]
  rfl

theorem exists_of_forall₂ {α β : Type} {R : α → β → Prop} {xs : List α} {ys : List β} {x : α}
    (h : List.Forall₂ R xs ys) (hx : x ∈ xs) : ∃ y, R x y := by
  induction h with
  | nil => exact absurd hx List.not_mem_nil
  | @cons a b _ _ hab _ ih =>
    rcases List.mem_cons.mp hx with rfl | hx
    · exact ⟨b, hab⟩
    · exact ih hx

variable [DecidableEq Ref] {self other : Ref} {s : State Ref} {heap : Ref → Instance Ref}

/-- The guard lets two objects of one class pass, where `getClass` is not a getter. -/
theorem equal?_getClass {v u : Value Ref} (h : "getClass" ∉ w.properties.map (·.names.getter))
    (hclass : i.classObject = j.classObject) (hv : w.invoke i "getClass" = .ok v)
    (hu : w.invoke j "getClass" = .ok u) : w.library.equal? v u = some true := by
  rw [invoke_getClass h] at hv hu
  obtain rfl := Except.ok.inj hv
  obtain rfl := Except.ok.inj hu
  simp [Library.equal?, hclass]

theorem exists_equal?_getClass (hv : Reads w i immutables w.properties vs)
    (hu : Reads w j immutables w.properties us) :
    ∃ v u b, w.invoke i "getClass" = .ok v ∧ w.invoke j "getClass" = .ok u ∧
      w.library.equal? v u = some b := by
  by_cases h : "getClass" ∈ w.properties.map (·.names.getter)
  · obtain ⟨p, hp, hg⟩ := List.mem_map.mp h
    obtain ⟨v, hiv, hvk⟩ := exists_of_forall₂ hv hp
    obtain ⟨u, hju, huk⟩ := exists_of_forall₂ hu hp
    rw [hg] at hiv hju
    generalize TypeKind.ofField immutables p.field = kind at hvk huk
    refine ⟨v, u, ?_⟩
    cases hvk <;> cases huk <;> exact ⟨_, hiv, hju, rfl⟩
  · exact ⟨_, _, _, invoke_getClass h, invoke_getClass h, rfl⟩

theorem evalAll_equalityTerms (hv : Reads w (s.heap self) immutables ps vs)
    (hu : Reads w (s.heap other) immutables ps us)
    (hthat : s.locals "that" = some (some (.object other))) :
    evalAll w self s (equalityTerms immutables ps) =
      .ok (allAgree w.library immutables ps vs us) := by
  induction hv generalizing us with
  | nil =>
    cases hu
    rfl
  | @cons p v ps vs hpv _ ih =>
    cases hu with
    | @cons _ u _ us hpu hus =>
      rw [equalityTerms, List.map_cons, evalAll,
        eval_equalityTerm (f := p.field) hpv.2 hpu.2 hpv.1 hpu.1 hthat, allAgree]
      cases agrees w.library (.ofField immutables p.field) (isNested p.field) v u with
      | false => rfl
      | true =>
        rw [Bool.true_and]
        exact ih hus

/-- The guard compares what `getClass` gives for the two objects, as references are compared. -/
theorem run_equalsBody_eq {v u : Value Ref} {sameClass : Bool} (className : String)
    (hself : w.invoke (heap self) "getClass" = .ok v)
    (hother : w.invoke (heap other) "getClass" = .ok u)
    (hclass : w.library.equal? v u = some sameClass)
    (hv : Reads w (heap self) immutables w.properties vs)
    (hu : Reads w (heap other) immutables w.properties us) :
    run w self (.entry heap [("o", .object other)])
        (equalsBody immutables className w.properties) =
      .ok (.returned (.boolean
        (self == other || (sameClass && allAgree w.library immutables w.properties vs us)))) := by
  let s₀ : State Ref := .entry heap [("o", .object other)]
  have hvar : eval w self s₀ (var "o") = .ok (.object other) := eval_var rfl
  have hsame : eval w self s₀ (binary .equal this (var "o")) = .ok (.boolean (self == other)) := by
    rw [eval_binary (by decide) rfl hvar]
    rfl
  have hfirst := exec_returnIf hsame (e := boolean true) rfl
  have happart : eval w self s₀ (binary .or (binary .equal (var "o") null)
      (binary .notEqual (call "getClass") (callOn (var "o") "getClass"))) =
      .ok (.boolean !sameClass) := by
    have hnull : eval w self s₀ (binary .equal (var "o") null) = .ok (.boolean false) := by
      rw [eval_binary (by decide) hvar rfl]
      rfl
    have hcall : eval w self s₀ (call "getClass") = .ok v := hself
    have hcallOn : eval w self s₀ (callOn (var "o") "getClass") = .ok u := by
      rw [eval_callOn hvar]
      exact hother
    rw [eval, hnull]
    refine (eval_binary (by decide) hcall hcallOn).trans ?_
    rw [Library.operate, hclass]
    rfl
  have hsecond := exec_returnIf happart (e := boolean false) rfl
  simp only [equalsBody, List.cons_append, List.nil_append]
  cases he : self == other with
  | true => exact run_returned (hfirst.trans (by simp [he]))
  | false =>
    have hnext : exec w self s₀ (.returnIf (binary .equal this (var "o")) (boolean true)) =
        .ok (.next s₀) := hfirst.trans (by simp [he])
    rw [run_cons hnext]
    cases sameClass with
    | false => exact run_returned hsecond
    | true =>
      rw [run_cons hsecond]
      cases hps : w.properties with
      | nil =>
        rw [hps] at hv hu
        cases hv
        rfl
      | cons p ps =>
        rw [hps] at hv hu
        let s₁ := s₀.set "that" (.object other)
        have hcast : eval w self s₀ (cast className (var "o")) = .ok (.object other) :=
          eval_cast hvar
        have hdefine : exec w self s₀ (.define className "that" (cast className (var "o"))) =
            .ok (.next s₁) := by
          rw [exec, hcast]
          rfl
        have hterms := evalAll_equalityTerms (s := s₁) hv hu (State.locals_set ..)
        refine (run_cons hdefine).trans (run_returned ?_)
        rw [exec, hterms]
        rfl

end Bodies

end Boilerplate.Method
