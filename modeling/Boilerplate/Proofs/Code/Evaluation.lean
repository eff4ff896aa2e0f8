import Boilerplate.Method.Basic
import Boilerplate.Proofs.TypeKind
import Mathlib.Data.List.Forall2
import Mathlib.Data.List.Nodup
import Mathlib.Logic.Function.Basic

namespace Boilerplate.Code

/-- Integers of fewer than 32 bits are the integers that they are promoted to. -/
inductive Value (Ref : Type) where
  | int (bits : BitVec 32)
  | long (bits : BitVec 64)
  | float (bits : BitVec 32)
  | double (bits : BitVec 64)
  | boolean (value : Bool)
  | object (r : Ref)
  /-- An array or any other object, or null. -/
  | reference (r : Option Ref)
  deriving DecidableEq

structure Library (Ref : Type) where
  objectsEquals : Option Ref → Option Ref → Bool
  hashCode : Ref → BitVec 32
  arraysEquals : Option Ref → Option Ref → Bool
  arraysHashCode : Option Ref → BitVec 32
  deepEquals : Option Ref → Option Ref → Bool
  deepHashCode : Option Ref → BitVec 32
  length : Ref → BitVec 32
  copyOf : Ref → BitVec 32 → Ref
  construct : String → Ref → Ref
  /-- The operator on floating-point values, for which a NaN differs from itself. -/
  floatEqual : BitVec 32 → BitVec 32 → Bool
  floatCompare : BitVec 32 → BitVec 32 → BitVec 32
  floatBits : BitVec 32 → BitVec 32
  doubleEqual : BitVec 64 → BitVec 64 → Bool
  doubleCompare : BitVec 64 → BitVec 64 → BitVec 32
  doubleBits : BitVec 64 → BitVec 64

inductive Fault where
  | nullAccess
  | invalid
  deriving DecidableEq

structure Instance (Ref : Type) where
  classObject : Ref
  values : List (Value Ref)

structure World (Ref : Type) where
  properties : List Property
  library : Library Ref

/-- A local variable holds nothing until it is assigned. -/
structure State (Ref : Type) where
  locals : String → Option (Option (Value Ref))
  heap : Ref → Instance Ref

inductive Outcome (Ref : Type) where
  | next (s : State Ref)
  | returned (v : Value Ref)

section Evaluation

variable {Ref : Type} [DecidableEq Ref]

namespace World

variable (w : World Ref)

def invoke (i : Instance Ref) (method : String) : Except Fault (Value Ref) :=
  match ((w.properties.map (·.names.getter)).zip i.values).lookup method with
  | some v => .ok v
  | none => if method = "getClass" then .ok (.reference (some i.classObject)) else .error .invalid

def invokeOn (s : State Ref) (method : String) : Value Ref → Except Fault (Value Ref)
  | .object r => w.invoke (s.heap r) method
  | .reference (some r) =>
    if method = "hashCode" then .ok (.int (w.library.hashCode r)) else .error .invalid
  | .reference none => .error .nullAccess
  | _ => .error .invalid

def member (s : State Ref) (name : String) : Value Ref → Except Fault (Value Ref)
  | .object r =>
    match ((w.properties.map (·.field.name)).zip (s.heap r).values).lookup name with
    | some v => .ok v
    | none => .error .invalid
  | .reference (some r) =>
    if name = "length" then .ok (.int (w.library.length r)) else .error .invalid
  | .reference none => .error .nullAccess
  | _ => .error .invalid

end World

namespace Library

variable (l : Library Ref)

def apply : LibraryFunction → Value Ref → Except Fault (Value Ref)
  | .arraysHashCode, .reference r => .ok (.int (l.arraysHashCode r))
  | .arraysDeepHashCode, .reference r => .ok (.int (l.deepHashCode r))
  | .floatBits, .float bits => .ok (.int (l.floatBits bits))
  | .doubleBits, .double bits => .ok (.long (l.doubleBits bits))
  | _, _ => .error .invalid

def applyTwo : LibraryFunction → Value Ref → Value Ref → Except Fault (Value Ref)
  | .objectsEquals, .reference r, .reference r' => .ok (.boolean (l.objectsEquals r r'))
  | .arraysEquals, .reference r, .reference r' => .ok (.boolean (l.arraysEquals r r'))
  | .arraysDeepEquals, .reference r, .reference r' => .ok (.boolean (l.deepEquals r r'))
  | .arraysCopyOf, .reference (some r), .int count => .ok (.reference (some (l.copyOf r count)))
  | .arraysCopyOf, .reference none, .int _ => .error .nullAccess
  | .floatCompare, .float bits, .float bits' => .ok (.int (l.floatCompare bits bits'))
  | .doubleCompare, .double bits, .double bits' => .ok (.int (l.doubleCompare bits bits'))
  | _, _, _ => .error .invalid

def equal? : Value Ref → Value Ref → Option Bool
  | .int a, .int b => some (a == b)
  | .long a, .long b => some (a == b)
  | .float a, .float b => some (l.floatEqual a b)
  | .double a, .double b => some (l.doubleEqual a b)
  | .boolean a, .boolean b => some (a == b)
  | .object r, .object r' => some (r == r')
  | .object _, .reference none => some false
  | .reference r, .reference r' => some (r == r')
  | _, _ => none

/-- The operators other than the disjunction. Only the low bits of a distance count in a shift. -/
def operate : Operator → Value Ref → Value Ref → Except Fault (Value Ref)
  | .equal, v, u => (l.equal? v u).elim (.error .invalid) fun b ↦ .ok (.boolean b)
  | .notEqual, v, u => (l.equal? v u).elim (.error .invalid) fun b ↦ .ok (.boolean !b)
  | .plus, .int a, .int b => .ok (.int (a + b))
  | .times, .int a, .int b => .ok (.int (a * b))
  | .xor, .long a, .long b => .ok (.long (a ^^^ b))
  | .shiftRight, .long a, .int b => .ok (.long (a >>> (b.toNat % 64)))
  | _, _, _ => .error .invalid

end Library

/-- A number is cut down to an `int`; an object of the class stays what it is. -/
def Value.castTo (type : String) : Value Ref → Except Fault (Value Ref)
  | .int bits => if type = "int" then .ok (.int bits) else .error .invalid
  | .long bits => if type = "int" then .ok (.int (bits.truncate 32)) else .error .invalid
  | .object r => .ok (.object r)
  | _ => .error .invalid

/-- The value of an expression in a method of the object `self`. The right side of a disjunction
is evaluated only if the left one is false, and one branch of a conditional only. -/
def eval (w : World Ref) (self : Ref) (s : State Ref) : Expr → Except Fault (Value Ref)
  | .var name => (s.locals name).join.elim (.error .invalid) .ok
  | .this => .ok (.object self)
  | .null => .ok (.reference none)
  | .boolean value => .ok (.boolean value)
  | .integer value => .ok (.int (BitVec.ofInt 32 value))
  | .verbatim _ => .error .invalid
  | .member object name => do w.member s name (← eval w self s object)
  | .call method => w.invoke (s.heap self) method
  | .callOn object method => do w.invokeOn s method (← eval w self s object)
  | .apply function argument => do w.library.apply function (← eval w self s argument)
  | .applyTwo function first second => do
    let v ← eval w self s first
    let u ← eval w self s second
    w.library.applyTwo function v u
  | .construct type argument => do
    match ← eval w self s argument with
    | .reference (some r) => .ok (.reference (some (w.library.construct type r)))
    | .reference none => .error .nullAccess
    | _ => .error .invalid
  | .cast type value => do (← eval w self s value).castTo type
  | .binary .or left right => do
    match ← eval w self s left with
    | .boolean true => .ok (.boolean true)
    | .boolean false => eval w self s right
    | _ => .error .invalid
  | .binary operator left right => do
    let v ← eval w self s left
    let u ← eval w self s right
    w.library.operate operator v u
  | .conditional condition ifTrue ifFalse => do
    match ← eval w self s condition with
    | .boolean true => eval w self s ifTrue
    | .boolean false => eval w self s ifFalse
    | _ => .error .invalid
  | .parenthesized inner => eval w self s inner

def evalAll (w : World Ref) (self : Ref) (s : State Ref) : List Expr → Except Fault Bool
  | [] => .ok true
  | term :: terms => do
    match ← eval w self s term with
    | .boolean true => evalAll w self s terms
    | .boolean false => .ok false
    | _ => .error .invalid

namespace State

/-- The state in which a method starts: only its arguments are there. -/
def entry (heap : Ref → Instance Ref) (arguments : List (String × Value Ref)) : State Ref where
  locals name := (arguments.lookup name).map some
  heap := heap

variable (s : State Ref)

def declare (name : String) : State Ref :=
  { s with locals := Function.update s.locals name (some none) }

def set (name : String) (v : Value Ref) : State Ref :=
  { s with locals := Function.update s.locals name (some (some v)) }

def store (names : List String) (r : Ref) (name : String) (v : Value Ref) : State Ref :=
  let i := s.heap r
  { s with heap := Function.update s.heap r { i with values := i.values.set (names.idxOf name) v } }

end State

def exec (w : World Ref) (self : Ref) (s : State Ref) : Statement → Except Fault (Outcome Ref)
  | .declare _ name => .ok (.next (s.declare name))
  | .define _ name value => do return .next (s.set name (← eval w self s value))
  | .assign (.var name) value =>
    if (s.locals name).isSome then do return .next (s.set name (← eval w self s value))
    else .error .invalid
  | .assign (.member object name) value => do
    match ← eval w self s object with
    | .object r =>
      let names := w.properties.map (·.field.name)
      if name ∈ names then return .next (s.store names r name (← eval w self s value))
      else .error .invalid
    | .reference none => .error .nullAccess
    | _ => .error .invalid
  | .assign _ _ => .error .invalid
  | .returnIf condition value => do
    match ← eval w self s condition with
    | .boolean true => return .returned (← eval w self s value)
    | .boolean false => .ok (.next s)
    | _ => .error .invalid
  | .result value => do return .returned (← eval w self s value)
  | .conjunction terms => do return .returned (.boolean (← evalAll w self s terms))

def run (w : World Ref) (self : Ref) (s : State Ref) : List Statement → Except Fault (Outcome Ref)
  | [] => .ok (.next s)
  | statement :: rest => do
    match ← exec w self s statement with
    | .next s' => run w self s' rest
    | .returned v => .ok (.returned v)

end Evaluation

section Types

variable {Ref : Type} {f : Field} {v : Value Ref}

/-- The values of a type. A type other than the primitive ones is a type of references. -/
inductive Value.HasType : String → Value Ref → Prop
  | int (bits : BitVec 32) : HasType "int" (.int bits)
  | short (bits : BitVec 16) : HasType "short" (.int (bits.signExtend 32))
  | byte (bits : BitVec 8) : HasType "byte" (.int (bits.signExtend 32))
  | char (bits : BitVec 16) : HasType "char" (.int (bits.zeroExtend 32))
  | long (bits : BitVec 64) : HasType "long" (.long bits)
  | float (bits : BitVec 32) : HasType "float" (.float bits)
  | double (bits : BitVec 64) : HasType "double" (.double bits)
  | boolean (value : Bool) : HasType "boolean" (.boolean value)
  | reference {type : String} (h : type ∉ primitiveWords) (r : Option Ref) :
    HasType type (.reference r)

inductive Value.HasKind : TypeKind → Value Ref → Prop
  | integral (bits : BitVec 32) : HasKind .integral (.int bits)
  | long (bits : BitVec 64) : HasKind .long (.long bits)
  | float (bits : BitVec 32) : HasKind .float (.float bits)
  | double (bits : BitVec 64) : HasKind .double (.double bits)
  | boolean (value : Bool) : HasKind .boolean (.boolean value)
  | immutable (r : Option Ref) : HasKind .immutable (.reference r)
  | object (r : Option Ref) : HasKind .object (.reference r)
  | array (r : Option Ref) : HasKind .array (.reference r)

/-- The kind of a field fits the values of its type, whichever types are immutable. -/
theorem Value.HasType.hasKind (h : v.HasType f.type) (immutables : List String) :
    v.HasKind (.ofField immutables f) := by
  have hkind (kind : TypeKind) (hm : f.type ∈ primitiveWords)
      (hp : TypeKind.primitive? f.type = some kind) : TypeKind.ofField immutables f = kind :=
    TypeKind.ofField_of_mem_primitiveWords immutables hm hp
  generalize ht : f.type = type at h hkind
  cases h with
  | int bits | short bits | byte bits | char bits =>
    rw [hkind .integral (by decide) (by decide)]
    exact .integral _
  | long bits =>
    rw [hkind .long (by decide) (by decide)]
    exact .long bits
  | float bits =>
    rw [hkind .float (by decide) (by decide)]
    exact .float bits
  | double bits =>
    rw [hkind .double (by decide) (by decide)]
    exact .double bits
  | boolean value =>
    rw [hkind .boolean (by decide) (by decide)]
    exact .boolean value
  | reference hm r =>
    have hreference := TypeKind.ofField_of_not_mem_primitiveWords immutables (f := f) (ht ▸ hm)
    simp only [List.mem_cons, List.not_mem_nil, or_false] at hreference
    rcases hreference with hk | hk | hk
    · exact hk ▸ .immutable r
    · exact hk ▸ .object r
    · exact hk ▸ .array r

def Instance.Typed (ps : List Property) (i : Instance Ref) : Prop :=
  List.Forall₂ (fun p v ↦ v.HasType p.field.type) ps i.values

theorem lookup_eq_some_of_mem {β : Type} {names : List String} {values : List β} {name : String}
    {b : β} (hd : names.Nodup) (h : (name, b) ∈ names.zip values) :
    (names.zip values).lookup name = some b := by
  induction names generalizing values with
  | nil => simp at h
  | cons first names ih =>
    cases values with
    | nil => simp at h
    | cons c values =>
      obtain ⟨hfirst, hnames⟩ := List.nodup_cons.mp hd
      rw [List.zip_cons_cons] at h ⊢
      rcases List.mem_cons.mp h with he | hm
      · obtain ⟨rfl, rfl⟩ := Prod.mk.inj he
        exact List.lookup_cons_self
      · have hne : (name == first) = false := by
          refine beq_false_of_ne ?_
          intro hx
          subst hx
          exact hfirst (List.of_mem_zip hm).1
        rw [List.lookup_cons, hne]
        exact ih hnames hm

theorem lookup_map_of_mem {ps : List Property} {vs : List (Value Ref)} {p : Property}
    {name : Property → String} (hd : (ps.map name).Nodup) (h : (p, v) ∈ ps.zip vs) :
    ((ps.map name).zip vs).lookup (name p) = some v := by
  have hmem : (name p, v) ∈ (ps.map name).zip vs := by
    rw [List.zip_map_left]
    exact List.mem_map.mpr ⟨(p, v), h, rfl⟩
  exact lookup_eq_some_of_mem hd hmem

theorem World.invoke_getter {w : World Ref} {i : Instance Ref} {p : Property}
    (hd : (w.properties.map (·.names.getter)).Nodup) (h : (p, v) ∈ w.properties.zip i.values) :
    w.invoke i p.names.getter = .ok v := by
  rw [World.invoke, lookup_map_of_mem hd h]

end Types

section Runs

variable {Ref : Type} {s s' : State Ref}

@[simp]
theorem State.locals_declare (name : String) :
    (s.declare name).locals name = some none := Function.update_self ..

@[simp]
theorem State.locals_set (name : String) (v : Value Ref) :
    (s.set name v).locals name = some (some v) := Function.update_self ..

theorem State.locals_set_of_ne {name other : String} (v : Value Ref) (h : other ≠ name) :
    (s.set name v).locals other = s.locals other := Function.update_of_ne h ..

theorem State.locals_declare_of_ne {name other : String} (h : other ≠ name) :
    (s.declare name).locals other = s.locals other := Function.update_of_ne h ..

@[simp]
theorem State.heap_entry (heap : Ref → Instance Ref) (arguments : List (String × Value Ref)) :
    (entry heap arguments).heap = heap := rfl

variable [DecidableEq Ref] {w : World Ref} {self : Ref} {e first second : Expr} {v u : Value Ref}

theorem eval_var {name : String} (h : s.locals name = some (some v)) :
    eval w self s (.var name) = .ok v := by
  change (s.locals name).join.elim _ _ = _
  rw [h]
  rfl

theorem eval_callOn {method : String} (h : eval w self s e = .ok v) :
    eval w self s (.callOn e method) = w.invokeOn s method v := by
  change eval w self s e >>= w.invokeOn s method = _
  rw [h]
  rfl

theorem eval_apply {function : LibraryFunction} (h : eval w self s e = .ok v) :
    eval w self s (.apply function e) = w.library.apply function v := by
  change eval w self s e >>= w.library.apply function = _
  rw [h]
  rfl

theorem eval_applyTwo {function : LibraryFunction} (h : eval w self s first = .ok v)
    (h' : eval w self s second = .ok u) :
    eval w self s (.applyTwo function first second) = w.library.applyTwo function v u := by
  change (eval w self s first >>= fun v ↦ eval w self s second >>= fun u ↦
    w.library.applyTwo function v u) = _
  rw [h, h']
  rfl

theorem eval_cast {type : String} (h : eval w self s e = .ok v) :
    eval w self s (.cast type e) = v.castTo type := by
  change (eval w self s e >>= fun v ↦ v.castTo type) = _
  rw [h]
  rfl

theorem eval_binary {operator : Operator} (hne : operator ≠ .or) (h : eval w self s first = .ok v)
    (h' : eval w self s second = .ok u) :
    eval w self s (.binary operator first second) = w.library.operate operator v u := by
  rw [eval, h, h']
  · rfl
  · exact hne

theorem eval_conditional {condition : Expr} {value : Bool}
    (h : eval w self s condition = .ok (.boolean value)) :
    eval w self s (.conditional condition first second) =
      if value then eval w self s first else eval w self s second := by
  change eval w self s condition >>= _ = _
  rw [h]
  cases value <;> rfl

theorem eval_ifNull {r : Option Ref} (h : eval w self s e = .ok (.reference r)) :
    eval w self s (.conditional (.binary .equal e .null) first second) =
      if r = none then eval w self s first else eval w self s second := by
  have htest : eval w self s (.binary .equal e .null) = .ok (.boolean (r == none)) := by
    rw [eval_binary (by decide) h rfl]
    rfl
  rw [eval_conditional htest]
  simp only [beq_iff_eq]

theorem exec_returnIf {condition : Expr} {value : Bool}
    (h : eval w self s condition = .ok (.boolean value)) (h' : eval w self s e = .ok v) :
    exec w self s (.returnIf condition e) = .ok (if value then .returned v else .next s) := by
  rw [exec, h]
  cases value with
  | false => rfl
  | true =>
    rw [h']
    rfl

theorem run_returned {statement : Statement} {rest : List Statement}
    (h : exec w self s statement = .ok (.returned v)) :
    run w self s (statement :: rest) = .ok (.returned v) := by
  rw [run, h]
  rfl

theorem run_cons {statement : Statement} {rest : List Statement}
    (h : exec w self s statement = .ok (.next s')) :
    run w self s (statement :: rest) = run w self s' rest := by
  rw [run, h]
  rfl

theorem run_append {first rest : List Statement} (h : run w self s first = .ok (.next s')) :
    run w self s (first ++ rest) = run w self s' rest := by
  induction first generalizing s with
  | nil =>
    obtain rfl : s = s' := by simpa [run] using h
    rfl
  | cons statement first ih =>
    rw [run] at h
    cases he : exec w self s statement with
    | error fault =>
      rw [he] at h
      cases h
    | ok outcome =>
      rw [he] at h
      cases outcome with
      | next s'' =>
        rw [List.cons_append, run_cons he]
        exact ih h
      | returned v => cases h

end Runs

end Boilerplate.Code
