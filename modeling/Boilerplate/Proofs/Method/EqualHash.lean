import Boilerplate.Proofs.Method.Comparison

namespace Boilerplate.Method

open Code Code.Expr

variable {Ref : Type}

def objectsHash (l : Library Ref) : Option Ref → BitVec 32
  | none => 0
  | some r => l.hashCode r

/-- What the library promises: what it finds equal, it gives equal hash codes. -/
structure Consistent (l : Library Ref) : Prop where
  objects : ∀ r r', l.objectsEquals r r' = true → objectsHash l r = objectsHash l r'
  arrays : ∀ r r', l.arraysEquals r r' = true → l.arraysHashCode r = l.arraysHashCode r'
  nested : ∀ r r', l.deepEquals r r' = true → l.deepHashCode r = l.deepHashCode r'
  float : ∀ a b, l.floatCompare a b = 0 → l.floatBits a = l.floatBits b
  double : ∀ a b, l.doubleCompare a b = 0 → l.doubleBits a = l.doubleBits b

def foldWide (bits : BitVec 64) : BitVec 32 := (bits ^^^ (bits >>> 32)).truncate 32

def digest (l : Library Ref) (kind : TypeKind) (nested : Bool) : Value Ref → BitVec 32
  | .int bits => bits
  | .long bits => foldWide bits
  | .float bits => l.floatBits bits
  | .double bits => foldWide (l.doubleBits bits)
  | .boolean value => if value then 1 else 0
  | .object _ => 0
  | .reference r =>
    if kind = .array then if nested then l.deepHashCode r else l.arraysHashCode r
    else objectsHash l r

section Hashing

variable {s : State Ref} {heap : Ref → Instance Ref} {wide : Bool} {code : BitVec 32}

/-- A hash code in the making: its value so far, and room for wide values where they are due. -/
structure Hashing (s : State Ref) (heap : Ref → Instance Ref) (wide : Bool) (code : BitVec 32) :
    Prop where
  result : s.locals "result" = some (some (.int code))
  temp : wide = true → (s.locals "temp").isSome = true
  heap_eq : s.heap = heap

theorem Hashing.set_result (h : Hashing s heap wide code) (code' : BitVec 32) :
    Hashing (s.set "result" (.int code')) heap wide code' := by
  refine ⟨State.locals_set .., fun hw ↦ ?_, h.heap_eq⟩
  rw [State.locals_set_of_ne _ (by decide)]
  exact h.temp hw

theorem Hashing.set_temp (h : Hashing s heap wide code) (v : Value Ref) :
    Hashing (s.set "temp" v) heap wide code := by
  refine ⟨?_, fun _ ↦ ?_, h.heap_eq⟩
  · rw [State.locals_set_of_ne _ (by decide)]
    exact h.result
  · rw [State.locals_set]
    rfl

end Hashing

section Fields

variable {w : World Ref} {self : Ref} {s : State Ref} {kind : TypeKind} {getter : String}
  {f : Field} {v u : Value Ref} {heap : Ref → Instance Ref} {wide : Bool} {code : BitVec 32} {m : Int}

theorem digest_eq_of_agrees (hc : Consistent w.library) (hv : v.HasKind kind) (hu : u.HasKind kind)
    {nested : Bool} (h : agrees w.library kind nested v u = true) :
    digest w.library kind nested v = digest w.library kind nested u := by
  cases hv with
  | integral bits =>
    cases hu with
    | integral bits' => exact beq_iff_eq.mp h
  | long bits =>
    cases hu with
    | long bits' => exact congrArg foldWide (beq_iff_eq.mp h)
  | boolean value =>
    cases hu with
    | boolean value' => rw [beq_iff_eq.mp h]
  | float bits =>
    cases hu with
    | float bits' => exact (hc.float bits' bits (beq_iff_eq.mp h)).symm
  | double bits =>
    cases hu with
    | double bits' => exact congrArg foldWide (hc.double bits' bits (beq_iff_eq.mp h)).symm
  | immutable r =>
    cases hu with
    | immutable r' => exact hc.objects r r' h
  | object r =>
    cases hu with
    | object r' => exact hc.objects r r' h
  | array r =>
    cases hu with
    | array r' =>
      cases nested with
      | false => exact hc.arrays r r' h
      | true => exact hc.nested r r' h

variable [DecidableEq Ref]

theorem exec_accumulate (h : Hashing s heap wide code) {value : Expr} {bits : BitVec 32}
    (hv : eval w self s value = .ok (.int bits)) :
    exec w self s (accumulate (integer m) value) =
      .ok (.next (s.set "result" (.int (BitVec.ofInt 32 m * code + bits)))) := by
  have hresult : eval w self s hashVariable = .ok (.int code) := eval_var h.result
  have hproduct : eval w self s (binary .times (integer m) hashVariable) =
      .ok (.int (BitVec.ofInt 32 m * code)) := by
    rw [eval_binary (by decide) rfl hresult]
    rfl
  have hsum : eval w self s (binary .plus (binary .times (integer m) hashVariable) value) =
      .ok (.int (BitVec.ofInt 32 m * code + bits)) := by
    rw [eval_binary (by decide) hproduct hv]
    rfl
  rw [accumulate, hashVariable, exec, if_pos (by simp [h.result])]
  rw [hashVariable] at hsum
  rw [hsum]
  rfl

theorem run_foldedWide (h : Hashing s heap wide code) (hw : wide = true) {value : Expr}
    {bits : BitVec 64} (hv : eval w self s value = .ok (.long bits)) :
    ∃ s', run w self s [.assign wideVariable value, accumulate (integer m) foldedWide] =
        .ok (.next s') ∧ Hashing s' heap wide (BitVec.ofInt 32 m * code + foldWide bits) := by
  let s₁ := s.set "temp" (.long bits)
  have h₁ : Hashing s₁ heap wide code := h.set_temp _
  have hassign : exec w self s (.assign wideVariable value) = .ok (.next s₁) := by
    rw [wideVariable, exec, if_pos (h.temp hw), hv]
    rfl
  have htemp : eval w self s₁ wideVariable = .ok (.long bits) := eval_var (State.locals_set ..)
  have hshift : eval w self s₁ (binary .shiftRight wideVariable (integer 32)) =
      .ok (.long (bits >>> 32)) := by
    rw [eval_binary (by decide) htemp rfl]
    rfl
  have hxor : eval w self s₁ (binary .xor wideVariable
      (parenthesized (binary .shiftRight wideVariable (integer 32)))) =
      .ok (.long (bits ^^^ (bits >>> 32))) := by
    rw [eval_binary (by decide) htemp (by rw [eval, hshift])]
    rfl
  have hfold : eval w self s₁ foldedWide = .ok (.int (foldWide bits)) := by
    rw [foldedWide, eval_cast (by rw [eval, hxor])]
    rfl
  refine ⟨s₁.set "result" (.int (BitVec.ofInt 32 m * code + foldWide bits)), ?_, h₁.set_result _⟩
  rw [run_cons hassign, run_cons (exec_accumulate h₁ hfold)]
  rfl

theorem run_accumulate (h : Hashing s heap wide code) {value : Expr} {bits : BitVec 32}
    (hv : eval w self s value = .ok (.int bits)) :
    ∃ s', run w self s [accumulate (integer m) value] = .ok (.next s') ∧
      Hashing s' heap wide (BitVec.ofInt 32 m * code + bits) := by
  refine ⟨_, ?_, h.set_result _⟩
  rw [run_cons (exec_accumulate h hv)]
  rfl

theorem eval_referenceHash {r : Option Ref}
    (hcall : eval w self s (call getter) = .ok (.reference r)) :
    eval w self s (parenthesized (conditional (binary .equal (call getter) null) (integer 0)
      (callOn (call getter) "hashCode"))) = .ok (.int (objectsHash w.library r)) := by
  rw [eval, eval_ifNull hcall]
  cases r with
  | none => rfl
  | some r =>
    rw [if_neg (Option.some_ne_none r)]
    exact eval_callOn hcall

theorem run_hashSteps (h : Hashing s heap wide code) (hw : kind.isWide = true → wide = true)
    (hv : v.HasKind kind) (hself : w.invoke (heap self) getter = .ok v) :
    ∃ s', run w self s (hashSteps kind getter f (integer m)) = .ok (.next s') ∧
      Hashing s' heap wide (BitVec.ofInt 32 m * code + digest w.library kind (isNested f) v) := by
  have hcall : eval w self s (call getter) = .ok v := by
    rw [eval, h.heap_eq, hself]
  cases hv with
  | integral bits =>
    refine run_accumulate h ?_
    rw [eval_cast hcall]
    rfl
  | long bits => exact run_foldedWide h (hw rfl) hcall
  | float bits => exact run_accumulate h (eval_apply hcall)
  | double bits => exact run_foldedWide h (hw rfl) (eval_apply hcall)
  | boolean value =>
    refine run_accumulate h ?_
    rw [eval, eval_conditional hcall]
    cases value <;> rfl
  | immutable r | object r => exact run_accumulate h (eval_referenceHash hcall)
  | array r =>
    refine run_accumulate h ?_
    rw [eval_apply hcall]
    cases isNested f <;> rfl

end Fields

section Bodies

variable {w : World Ref} {immutables : List String} {ps : List Property} {vs us : List (Value Ref)}

def digests (l : Library Ref) (immutables : List String) (ps : List Property)
    (vs : List (Value Ref)) : List (BitVec 32) :=
  List.zipWith (fun p v ↦ digest l (.ofField immutables p.field) (isNested p.field) v) ps vs

def hashOf (m : Int) (digests : List (BitVec 32)) (seed : BitVec 32) : BitVec 32 :=
  digests.foldl (fun code d ↦ BitVec.ofInt 32 m * code + d) seed

theorem digests_eq_of_allAgree {i j : Instance Ref} (hc : Consistent w.library)
    (hv : Reads w i immutables ps vs) (hu : Reads w j immutables ps us)
    (h : allAgree w.library immutables ps vs us = true) :
    digests w.library immutables ps vs = digests w.library immutables ps us := by
  induction hv generalizing us with
  | nil =>
    cases hu
    rfl
  | @cons p v ps vs hpv _ ih =>
    cases hu with
    | @cons _ u _ us hpu hus =>
      rw [allAgree, Bool.and_eq_true] at h
      rw [digests, List.zipWith_cons_cons, digest_eq_of_agrees hc hpv.2 hpu.2 h.1]
      exact congrArg _ (ih hus h.2)

variable [DecidableEq Ref] {self other : Ref} {s : State Ref} {heap : Ref → Instance Ref}
  {wide : Bool} {code : BitVec 32} {m : Int}

theorem run_hashSteps_flatMap (h : Hashing s heap wide code)
    (hw : ∀ p ∈ ps, (TypeKind.ofField immutables p.field).isWide = true → wide = true)
    (hv : Reads w (heap self) immutables ps vs) :
    ∃ s', run w self s (ps.flatMap fun p ↦ hashSteps (.ofField immutables p.field) p.names.getter
        p.field (integer m)) = .ok (.next s') ∧
      Hashing s' heap wide (hashOf m (digests w.library immutables ps vs) code) := by
  induction hv generalizing s code with
  | nil => exact ⟨s, rfl, h⟩
  | @cons p v ps vs hpv _ ih =>
    obtain ⟨hwp, hwps⟩ := List.forall_mem_cons.mp hw
    obtain ⟨s₁, hrun, h₁⟩ := run_hashSteps (f := p.field) (m := m) h hwp hpv.2 hpv.1
    obtain ⟨s₂, hrest, h₂⟩ := ih h₁ hwps
    refine ⟨s₂, ?_, h₂⟩
    rw [List.flatMap_cons, run_append hrun, hrest]

theorem run_hashBody (hheap : s.heap = heap) (hv : Reads w (heap self) immutables ps vs) :
    run w self s (hashBody immutables (integer m) ps) =
      .ok (.returned (.int (hashOf m (digests w.library immutables ps vs) 1))) := by
  let wide := ps.any fun p ↦ (TypeKind.ofField immutables p.field).isWide
  let s₁ := s.set "result" (.int 1)
  have hdefine : exec w self s (.define "int" "result" (integer 1)) = .ok (.next s₁) := rfl
  have hstart : ∃ s₂, run w self s₁ (if wide then [.declare "long" "temp"] else []) =
      .ok (.next s₂) ∧ Hashing s₂ heap wide 1 := by
    cases hw : wide with
    | false =>
      exact ⟨s₁, rfl, State.locals_set .., fun h ↦ absurd h Bool.false_ne_true, hheap⟩
    | true =>
      refine ⟨s₁.declare "temp", rfl, ?_, fun _ ↦ ?_, hheap⟩
      · rw [State.locals_declare_of_ne (by decide)]
        exact State.locals_set ..
      · rw [State.locals_declare]
        rfl
  obtain ⟨s₂, hdeclare, h₂⟩ := hstart
  have hwide : ∀ p ∈ ps, (TypeKind.ofField immutables p.field).isWide = true → wide = true :=
    fun p hp h ↦ List.any_eq_true.mpr ⟨p, hp, h⟩
  obtain ⟨s₃, hsteps, h₃⟩ := run_hashSteps_flatMap (m := m) h₂ hwide hv
  have hresult : run w self s₃ [.result hashVariable] =
      .ok (.returned (.int (hashOf m (digests w.library immutables ps vs) 1))) := by
    rw [run, exec, hashVariable, eval_var h₃.result]
    rfl
  rw [hashBody, List.cons_append, List.cons_append, run_cons hdefine, List.append_assoc,
    run_append hdeclare, run_append hsteps, hresult]

/-- The generated comparison has an answer. It is true only of one object compared with itself and
of objects whose fields have the same digests. -/
theorem run_equalsBody (hc : Consistent w.library) (className : String)
    (hv : Reads w (heap self) immutables w.properties vs)
    (hu : Reads w (heap other) immutables w.properties us) :
    ∃ b, run w self (.entry heap [("o", .object other)])
        (equalsBody immutables className w.properties) = .ok (.returned (.boolean b)) ∧
      (b = true → self = other ∨
        digests w.library immutables w.properties vs =
          digests w.library immutables w.properties us) := by
  obtain ⟨v, u, b, hself, hother, hclass⟩ := exists_equal?_getClass hv hu
  refine ⟨_, run_equalsBody_eq className hself hother hclass hv hu, fun h ↦ ?_⟩
  rcases Bool.or_eq_true_iff.mp h with he | hboth
  · exact .inl (beq_iff_eq.mp he)
  · exact .inr (digests_eq_of_allAgree hc hv hu (Bool.and_eq_true_iff.mp hboth).2)

/-- Objects that compare as equal have equal hash codes. Comparing and hashing always end with an
answer, so neither asks null for a method. -/
theorem hash_eq_of_equals (hc : Consistent w.library)
    (hd : (w.properties.map (·.names.getter)).Nodup) {a b : Ref}
    (ha : (heap a).Typed w.properties) (hb : (heap b).Typed w.properties)
    (immutables : List String) (className : String) (m : Int) :
    ∃ equal code code',
      run w a (.entry heap [("o", .object b)]) (equalsBody immutables className w.properties) =
        .ok (.returned (.boolean equal)) ∧
      run w a (.entry heap []) (hashBody immutables (integer m) w.properties) =
        .ok (.returned (.int code)) ∧
      run w b (.entry heap []) (hashBody immutables (integer m) w.properties) =
        .ok (.returned (.int code')) ∧
      (equal = true → code = code') := by
  have hv := reads_of_typed hd ha immutables
  have hu := reads_of_typed hd hb immutables
  obtain ⟨equal, hequal, hdigests⟩ := run_equalsBody hc className hv hu
  have hcode := run_hashBody (m := m) (State.heap_entry heap []) hv
  have hcode' := run_hashBody (m := m) (State.heap_entry heap []) hu
  refine ⟨equal, _, _, hequal, hcode, hcode', fun h ↦ ?_⟩
  rcases hdigests h with rfl | hdigests
  · rfl
  · rw [hdigests]

end Bodies

section Sample

/-- Objects of a small library; all but strings and grids are told apart by their numbers. -/
inductive Sample where
  | text (number : Nat) (chars : List Char)
  | grid (number : Nat) (rows : List (List (BitVec 32)))
  | plain (number : Nat)
  deriving DecidableEq

def polynomial (seed : BitVec 32) (codes : List (BitVec 32)) : BitVec 32 :=
  codes.foldl (fun code c ↦ 31 * code + c) seed

def canonicalBits {n : Nat} (infinity nan bits : BitVec n) : BitVec n :=
  if 2 * infinity.toNat < (bits <<< 1).toNat then nan else bits

/-- The order of floating-point numbers in which zero has two values and NaN is the greatest. -/
def orderKey {n : Nat} (bits : BitVec n) : Int :=
  if bits.msb then -1 - (bits <<< 1).toNat else (bits <<< 1).toNat

def compareBits {n : Nat} (infinity nan a b : BitVec n) : BitVec 32 :=
  let a := canonicalBits infinity nan a
  let b := canonicalBits infinity nan b
  if a = b then 0 else if orderKey a < orderKey b then -1 else 1

def equalBits {n : Nat} (infinity a b : BitVec n) : Bool :=
  (a == b && (a <<< 1).toNat ≤ 2 * infinity.toNat) || (a <<< 1 == 0 && b <<< 1 == 0)

def sampleLibrary : Library Sample where
  objectsEquals
    | some (.text _ chars), some (.text _ chars') => chars == chars'
    | r, r' => r == r'
  hashCode
    | .text _ chars => polynomial 0 (chars.map fun c ↦ BitVec.ofNat 32 c.toNat)
    | .grid number _ | .plain number => BitVec.ofNat 32 number
  arraysEquals r r' := r == r'
  arraysHashCode r := if r.isNone then 0 else 1
  deepEquals
    | some (.grid _ rows), some (.grid _ rows') => rows == rows'
    | r, r' => r == r'
  deepHashCode
    | some (.grid _ rows) => polynomial 1 (rows.map (polynomial 1))
    | _ => 0
  length
    | .grid _ rows => BitVec.ofNat 32 rows.length
    | _ => 0
  copyOf r _ := r
  construct _ r := r
  floatEqual := equalBits 0x7F800000
  floatCompare := compareBits 0x7F800000 0x7FC00000
  floatBits := canonicalBits 0x7F800000 0x7FC00000
  doubleEqual := equalBits 0x7FF0000000000000
  doubleCompare := compareBits 0x7FF0000000000000 0x7FF8000000000000
  doubleBits := canonicalBits 0x7FF0000000000000 0x7FF8000000000000

theorem canonicalBits_eq {n : Nat} {infinity nan a b : BitVec n}
    (h : compareBits infinity nan a b = 0) :
    canonicalBits infinity nan a = canonicalBits infinity nan b := by
  simp only [compareBits] at h
  split at h
  · next he => exact he
  · split at h
    · exact absurd h (by decide)
    · exact absurd h (by decide)

theorem sampleLibrary_consistent : Consistent sampleLibrary where
  objects r r' h := by
    simp only [sampleLibrary] at h
    split at h
    · simp only [objectsHash, sampleLibrary, beq_iff_eq.mp h]
    · rw [beq_iff_eq.mp h]
  arrays r r' h := by rw [beq_iff_eq.mp h]
  nested r r' h := by
    simp only [sampleLibrary] at h
    split at h
    · simp only [sampleLibrary, beq_iff_eq.mp h]
    · rw [beq_iff_eq.mp h]
  float a b h := canonicalBits_eq h
  double a b h := canonicalBits_eq h

def sampleProperty (type name : String) (line : Nat) (ht : type ≠ "") (hn : name ≠ "")
    (hb : name.toList.any Text.isBlank = false) : Property :=
  Naming.default.property ⟨type, name, line, ht, hn, Text.isBlank_eq_false_of_any hb⟩

def sampleWorld : World Sample where
  properties := [sampleProperty "int" "count" 2 (by decide) (by decide) (by decide),
    sampleProperty "double" "ratio" 3 (by decide) (by decide) (by decide),
    sampleProperty "String" "title" 4 (by decide) (by decide) (by decide),
    sampleProperty "Object" "owner" 5 (by decide) (by decide) (by decide),
    sampleProperty "int[][]" "cells" 6 (by decide) (by decide) (by decide)]
  library := sampleLibrary

def sampleHeap : Sample → Instance Sample := fun r ↦
  let number := if r = .plain 1 then 10 else 20
  ⟨.plain 0, [.int 7, .double 0x3FE0000000000000, .reference (some (.text number ['a', 'b'])),
    .reference none, .reference (some (.grid (number + 1) [[1, 2], []]))]⟩

theorem hash_eq_of_equals_sample :
    let equals := equalsBody TypeKind.defaultImmutables "Sheet" sampleWorld.properties
    let hash := hashBody TypeKind.defaultImmutables (integer 31) sampleWorld.properties
    ∃ code, run sampleWorld (.plain 1) (.entry sampleHeap [("o", .object (.plain 2))]) equals =
        .ok (.returned (.boolean true)) ∧
      run sampleWorld (.plain 1) (.entry sampleHeap []) hash = .ok (.returned (.int code)) ∧
      run sampleWorld (.plain 2) (.entry sampleHeap []) hash = .ok (.returned (.int code)) := by
  intro equals hash
  have htyped (r : Sample) : (sampleHeap r).Typed sampleWorld.properties :=
    .cons (.int 7) (.cons (.double _) (.cons (.reference (by decide) _)
      (.cons (.reference (by decide) _) (.cons (.reference (by decide) _) .nil))))
  obtain ⟨equal, code, code', hequal, hcode, hcode', h⟩ :=
    hash_eq_of_equals sampleLibrary_consistent (w := sampleWorld) (by decide) (htyped (.plain 1))
      (htyped (.plain 2)) TypeKind.defaultImmutables "Sheet" 31
  have htrue : run sampleWorld (.plain 1) (.entry sampleHeap [("o", .object (.plain 2))]) equals =
      .ok (.returned (.boolean true)) := by rfl
  obtain rfl : equal = true := by
    rw [hequal] at htrue
    simpa using htrue
  exact ⟨code, htrue, hcode, h rfl ▸ hcode'⟩

end Sample

end Boilerplate.Method
