import Boilerplate.Method.CopyConstructor
import Boilerplate.Proofs.Method.EqualHash

namespace Boilerplate.Method

open Code Code.Expr

variable {Ref Element : Type}

/-- What the library promises about copies; `elements?` gives what an array holds. -/
structure Copying (l : Library Ref) (elements? : Ref → Option (List Element)) : Prop where
  objects_refl : ∀ r, l.objectsEquals r r = true
  objects_construct : ∀ type r, l.objectsEquals (some r) (some (l.construct type r)) = true ∧
    l.objectsEquals (some (l.construct type r)) (some r) = true
  elements_copyOf : ∀ r es, elements? r = some es →
    elements? (l.copyOf r (l.length r)) = some es
  arrays_null : l.arraysEquals none none = true ∧ l.deepEquals none none = true
  arrays_elements : ∀ r r' es, elements? r = some es → elements? r' = some es →
    l.arraysEquals (some r) (some r') = true ∧ l.deepEquals (some r) (some r') = true
  float_refl : ∀ bits, l.floatCompare bits bits = 0
  double_refl : ∀ bits, l.doubleCompare bits bits = 0

/-- The value that a copy gets for a field. -/
def copied (l : Library Ref) (kind : TypeKind) (type : String) : Value Ref → Value Ref
  | .reference (some r) =>
    match kind with
    | .array => .reference (some (l.copyOf r (l.length r)))
    | .object => .reference (some (l.construct type r))
    | _ => .reference (some r)
  | v => v

def copiedField (l : Library Ref) (immutables : List String) (p : Property) (v : Value Ref) :
    Value Ref :=
  copied l (.ofField immutables p.field) p.field.type v

def HoldsArray (elements? : Ref → Option (List Element)) : Value Ref → Prop
  | .reference (some r) => (elements? r).isSome = true
  | _ => True

section Values

variable {l : Library Ref} {elements? : Ref → Option (List Element)} {kind : TypeKind}
  {type word : String} {v : Value Ref}

theorem hasType_copied (h : v.HasType type) : (copied l kind word v).HasType type := by
  cases h with
  | reference hm r =>
    cases r with
    | none => exact .reference hm none
    | some r => cases kind <;> exact .reference hm _
  | int | short | byte | char | long | float | double | boolean => constructor

theorem agrees_copied (hl : Copying l elements?) (hv : v.HasKind kind)
    (harray : kind = .array → HoldsArray elements? v) (word : String) (nested : Bool) :
    agrees l kind nested v (copied l kind word v) = true ∧
      agrees l kind nested (copied l kind word v) v = true := by
  cases hv with
  | integral bits | long bits | boolean bits => exact ⟨beq_self_eq_true _, beq_self_eq_true _⟩
  | float bits =>
    have hzero : (l.floatCompare bits bits == 0) = true := beq_iff_eq.mpr (hl.float_refl bits)
    exact ⟨hzero, hzero⟩
  | double bits =>
    have hzero : (l.doubleCompare bits bits == 0) = true := beq_iff_eq.mpr (hl.double_refl bits)
    exact ⟨hzero, hzero⟩
  | immutable r =>
    cases r with
    | none => exact ⟨hl.objects_refl none, hl.objects_refl none⟩
    | some r => exact ⟨hl.objects_refl (some r), hl.objects_refl (some r)⟩
  | object r =>
    cases r with
    | none => exact ⟨hl.objects_refl none, hl.objects_refl none⟩
    | some r => exact hl.objects_construct word r
  | array r =>
    cases r with
    | none => cases nested <;> simp [agrees, copied, hl.arrays_null]
    | some r =>
      obtain ⟨es, hes⟩ := Option.isSome_iff_exists.mp (harray rfl)
      have hcopy : elements? (l.copyOf r (l.length r)) = some es := hl.elements_copyOf r es hes
      have hthere := hl.arrays_elements r _ es hes hcopy
      have hback := hl.arrays_elements _ r es hcopy hes
      cases nested with
      | false => exact ⟨hthere.1, hback.1⟩
      | true => exact ⟨hthere.2, hback.2⟩

end Values

section Copies

variable {w : World Ref} {elements? : Ref → Option (List Element)} {immutables : List String}
  {ps : List Property} {vs : List (Value Ref)}

def copies (l : Library Ref) (immutables : List String) (ps : List Property)
    (vs : List (Value Ref)) : List (Value Ref) :=
  List.zipWith (copiedField l immutables) ps vs

theorem typed_copies (l : Library Ref) (immutables : List String)
    (h : List.Forall₂ (fun p v ↦ v.HasType p.field.type) ps vs) :
    List.Forall₂ (fun p v ↦ v.HasType p.field.type) ps (copies l immutables ps vs) := by
  induction h with
  | nil => exact .nil
  | cons hv _ ih => exact .cons (hasType_copied hv) ih

def HoldArrays (elements? : Ref → Option (List Element)) (immutables : List String)
    (ps : List Property) (vs : List (Value Ref)) : Prop :=
  List.Forall₂ (fun p v ↦ TypeKind.ofField immutables p.field = .array → HoldsArray elements? v)
    ps vs

theorem allAgree_copies (hl : Copying w.library elements?)
    (hv : ∀ x ∈ ps.zip vs, x.2.HasKind (.ofField immutables x.1.field))
    (harrays : HoldArrays elements? immutables ps vs) :
    allAgree w.library immutables ps vs (copies w.library immutables ps vs) = true ∧
      allAgree w.library immutables ps (copies w.library immutables ps vs) vs = true := by
  induction harrays with
  | nil => exact ⟨rfl, rfl⟩
  | @cons p v ps vs harray _ ih =>
    obtain ⟨hkind, hrest⟩ := List.forall_mem_cons.mp hv
    obtain ⟨hthere, hback⟩ := ih hrest
    obtain ⟨hagree, hagree'⟩ :=
      agrees_copied hl hkind harray p.field.type (isNested p.field)
    simp only [copies, List.zipWith_cons_cons, allAgree, Bool.and_eq_true]
    exact ⟨⟨hagree, hthere⟩, hagree', hback⟩

end Copies

section Runs

variable [DecidableEq Ref] {w : World Ref} {self a b : Ref} {s : State Ref} {i : Instance Ref}
  {kind : TypeKind} {f : Field} {v : Value Ref} {immutables : List String}

theorem exec_copyStatement (hother : s.locals "other" = some (some (.object a)))
    (hread : w.member s f.name (.object a) = .ok v) (hv : v.HasKind kind)
    (hname : f.name ∈ w.properties.map (·.field.name)) :
    exec w self s (copyStatement kind f "other") =
      .ok (.next (s.store (w.properties.map (·.field.name)) self f.name
        (copied w.library kind f.type v))) := by
  have hvalue : eval w self s (member (var "other") f.name) = .ok v := by
    rw [eval, eval_var hother]
    exact hread
  have hassign {value : Expr} (h : eval w self s value = .ok (copied w.library kind f.type v)) :
      exec w self s (.assign (member this f.name) value) =
        .ok (.next (s.store (w.properties.map (·.field.name)) self f.name
          (copied w.library kind f.type v))) := by
    simp only [exec, eval, h, bind, Except.bind, pure, Except.pure, if_pos hname]
  refine hassign ?_
  cases hv with
  | integral | long | float | double | boolean => exact hvalue
  | immutable r =>
    rw [hvalue]
    cases r <;> rfl
  | object r =>
    dsimp only
    rw [eval_ifNull hvalue]
    cases r with
    | none => rfl
    | some r =>
      rw [if_neg (Option.some_ne_none r), eval, hvalue]
      rfl
  | array r =>
    dsimp only
    rw [eval_ifNull hvalue]
    cases r with
    | none => rfl
    | some r =>
      have hlength : eval w self s (member (member (var "other") f.name) "length") =
          .ok (.int (w.library.length r)) := by
        rw [eval, hvalue]
        rfl
      rw [if_neg (Option.some_ne_none r), eval_applyTwo hvalue hlength]
      rfl

def withValues (s : State Ref) (r : Ref) (vs : List (Value Ref)) : State Ref :=
  { s with heap := Function.update s.heap r { s.heap r with values := vs } }

theorem withValues_self (s : State Ref) (r : Ref) : withValues s r (s.heap r).values = s := by
  rw [withValues, Function.update_eq_self]

theorem withValues_withValues (s : State Ref) (r : Ref) (vs us : List (Value Ref)) :
    withValues (withValues s r vs) r us = withValues s r us := by
  simp [withValues]

@[simp]
theorem heap_withValues_self (s : State Ref) (r : Ref) (vs : List (Value Ref)) :
    (withValues s r vs).heap r = ⟨(s.heap r).classObject, vs⟩ := Function.update_self ..

theorem heap_withValues_of_ne {r other : Ref} (h : other ≠ r) (s : State Ref)
    (vs : List (Value Ref)) : (withValues s r vs).heap other = s.heap other :=
  Function.update_of_ne h ..

theorem store_append {names done rest : List String} {name : String}
    {before after : List (Value Ref)} {old : Value Ref} (hd : names.Nodup)
    (hnames : names = done ++ name :: rest) (hb : (s.heap b).values = before ++ old :: after)
    (hlength : before.length = done.length) (v : Value Ref) :
    s.store names b name v = withValues s b (before ++ v :: after) := by
  have hdone : name ∉ done := fun hm ↦
    (List.nodup_append.mp (hnames ▸ hd)).2.2 name hm name (.head _) rfl
  have hplace : names.idxOf name = before.length := by
    rw [hnames, List.idxOf_append_of_notMem hdone, List.idxOf_cons_self, hlength, Nat.add_zero]
  have hset : (before ++ old :: after).set before.length v = before ++ v :: after := by
    rw [List.set_append_right _ _ (Nat.le_refl _), Nat.sub_self, List.set_cons_zero]
  rw [State.store, hplace, hb, hset]
  rfl

/-- The invariant of a copy: the fields that are done hold copies, the others what they held. -/
theorem run_copyBody_append {done rest : List Property} {vs before after : List (Value Ref)}
    (hab : a ≠ b) (hd : (w.properties.map (·.field.name)).Nodup)
    (hps : w.properties = done ++ rest) (hother : s.locals "other" = some (some (.object a)))
    (ha : s.heap a = i)
    (hread : List.Forall₂ (fun p v ↦
      ((w.properties.map (·.field.name)).zip i.values).lookup p.field.name = some v ∧
        v.HasKind (.ofField immutables p.field)) rest vs)
    (hb : (s.heap b).values = before ++ after) (hbefore : before.length = done.length)
    (hafter : after.length = rest.length) :
    run w b s (copyBody immutables (rest.map (·.field))) =
      .ok (.next (withValues s b (before ++ copies w.library immutables rest vs))) := by
  induction hread generalizing done s before after with
  | nil =>
    obtain rfl := List.length_eq_zero_iff.mp hafter
    have hsame : withValues s b (before ++ []) = s := by rw [← hb, withValues_self]
    exact congrArg (fun s ↦ (Except.ok (Outcome.next s) : Except Fault (Outcome Ref))) hsame.symm
  | @cons p v rest vs hpv _ ih =>
    obtain ⟨old, after, rfl⟩ := List.exists_cons_of_length_eq_add_one hafter
    let u := copiedField w.library immutables p v
    let s₁ := withValues s b (before ++ u :: after)
    have hread : w.member s p.field.name (.object a) = .ok v := by
      rw [World.member, ha, hpv.1]
    have hname : p.field.name ∈ w.properties.map (·.field.name) :=
      List.mem_map_of_mem (hps ▸ List.mem_append_right done (.head rest))
    have hnames : w.properties.map (·.field.name) =
        done.map (·.field.name) ++ p.field.name :: rest.map (·.field.name) := by
      rw [hps, List.map_append, List.map_cons]
    have hexec : exec w b s (copyStatement (.ofField immutables p.field) p.field "other") =
        .ok (.next s₁) := by
      rw [exec_copyStatement hother hread hpv.2 hname,
        store_append hd hnames hb (by rw [hbefore, List.length_map])]
      rfl
    have hps' : w.properties = (done ++ [p]) ++ rest := by
      rw [hps, List.append_assoc, List.singleton_append]
    have hvalues : (s₁.heap b).values = (before ++ [u]) ++ after := by simp [s₁]
    have hlength : (before ++ [u]).length = (done ++ [p]).length := by simp [hbefore]
    have hother₁ : s₁.locals "other" = some (some (.object a)) := hother
    have hrest := ih hps' hother₁ ((heap_withValues_of_ne hab s _).trans ha) hvalues hlength
      (Nat.succ.inj hafter)
    refine (run_cons hexec).trans (hrest.trans ?_)
    rw [withValues_withValues, List.append_assoc]
    rfl

end Runs

section Copy

variable {w : World Ref} {elements? : Ref → Option (List Element)} {immutables : List String}
  {ps : List Property} {vs : List (Value Ref)} {p : Property} {v : Value Ref}

theorem mem_zip_copies (l : Library Ref) (immutables : List String) (h : (p, v) ∈ ps.zip vs) :
    (p, copiedField l immutables p v) ∈ ps.zip (copies l immutables ps vs) := by
  induction ps generalizing vs with
  | nil => cases h
  | cons q ps ih =>
    cases vs with
    | nil => cases h
    | cons u vs =>
      rcases List.mem_cons.mp h with he | hm
      · obtain ⟨rfl, rfl⟩ := Prod.mk.inj he
        exact .head _
      · exact .tail _ (ih hm)

def target? : Statement → Option Expr
  | .assign target _ => some target
  | _ => none

theorem map_target?_copyBody (immutables : List String) (fields : List Field) :
    (copyBody immutables fields).map target? =
      fields.map fun f ↦ some (member this f.name) := by
  rw [copyBody, List.map_map]
  rfl

variable [DecidableEq Ref] {a b : Ref} {heap : Ref → Instance Ref}

theorem run_copyBody (hab : a ≠ b) (hd : (w.properties.map (·.field.name)).Nodup)
    (ha : (heap a).Typed w.properties) (hb : (heap b).values.length = w.properties.length)
    (immutables : List String) :
    run w b (.entry heap [("other", .object a)])
        (copyBody immutables (w.properties.map (·.field))) =
      .ok (.next (withValues (.entry heap [("other", .object a)]) b
        (copies w.library immutables w.properties (heap a).values))) := by
  have hread : List.Forall₂ (fun p v ↦
      ((w.properties.map (·.field.name)).zip (heap a).values).lookup p.field.name = some v ∧
        v.HasKind (.ofField immutables p.field)) w.properties (heap a).values :=
    List.forall₂_iff_zip.mpr ⟨ha.length_eq, fun hm ↦
      ⟨lookup_map_of_mem hd hm, ((List.forall₂_iff_zip.mp ha).2 hm).hasKind immutables⟩⟩
  have hstart : w.properties = [] ++ w.properties := rfl
  have hvalues : ((State.entry heap [("other", .object a)]).heap b).values =
      [] ++ (heap b).values := rfl
  have hlength : ([] : List (Value Ref)).length = ([] : List Property).length := rfl
  exact run_copyBody_append hab hd hstart rfl rfl hread hvalues hlength hb

theorem run_equalsBody_of_allAgree (hab : a ≠ b)
    (hd : (w.properties.map (·.names.getter)).Nodup) (ha : (heap a).Typed w.properties)
    (hb : (heap b).Typed w.properties) (className : String)
    (h : allAgree w.library immutables w.properties (heap a).values (heap b).values = true) :
    ∃ v u answer, w.invoke (heap a) "getClass" = .ok v ∧ w.invoke (heap b) "getClass" = .ok u ∧
      w.library.equal? v u = some answer ∧
      run w a (.entry heap [("o", .object b)]) (equalsBody immutables className w.properties) =
        .ok (.returned (.boolean answer)) := by
  have hva := reads_of_typed hd ha immutables
  have hvb := reads_of_typed hd hb immutables
  obtain ⟨v, u, answer, hv, hu, hequal⟩ := exists_equal?_getClass hva hvb
  refine ⟨v, u, answer, hv, hu, hequal, ?_⟩
  rw [run_equalsBody_eq className hv hu hequal hva hvb, h, Bool.and_true, beq_false_of_ne hab,
    Bool.false_or]

theorem run_equalsBody_copies (hl : Copying w.library elements?)
    (hgetters : (w.properties.map (·.names.getter)).Nodup) (hab : a ≠ b)
    (ha : (heap a).Typed w.properties)
    (harrays : HoldArrays elements? immutables w.properties (heap a).values)
    (hb : heap b = ⟨(heap a).classObject, copies w.library immutables w.properties (heap a).values⟩)
    (className : String) :
    ∃ there back,
      run w a (.entry heap [("o", .object b)]) (equalsBody immutables className w.properties) =
        .ok (.returned (.boolean there)) ∧
      run w b (.entry heap [("o", .object a)]) (equalsBody immutables className w.properties) =
        .ok (.returned (.boolean back)) ∧
      ("getClass" ∉ w.properties.map (·.names.getter) → there = true ∧ back = true) ∧
      ∀ p v, (p, v) ∈ w.properties.zip (heap a).values → p.names.getter = "getClass" →
        w.library.equal? v (copiedField w.library immutables p v) = some there ∧
          w.library.equal? (copiedField w.library immutables p v) v = some back := by
  have hvalues : (heap b).values = copies w.library immutables w.properties (heap a).values := by
    rw [hb]
  have htyped : (heap b).Typed w.properties := by
    rw [hb]
    exact typed_copies _ _ ha
  have hkinds : ∀ x ∈ w.properties.zip (heap a).values,
      x.2.HasKind (.ofField immutables x.1.field) :=
    fun x hx ↦ ((List.forall₂_iff_zip.mp ha).2 hx).hasKind immutables
  have hagree := allAgree_copies hl hkinds harrays
  rw [← hvalues] at hagree
  obtain ⟨v, u, there, hv, hu, hequal, hthere⟩ :=
    run_equalsBody_of_allAgree hab hgetters ha htyped className hagree.1
  obtain ⟨u', v', back, hu', hv', hequal', hback⟩ :=
    run_equalsBody_of_allAgree hab.symm hgetters htyped ha className hagree.2
  obtain rfl : v = v' := Except.ok.inj (hv.symm.trans hv')
  obtain rfl : u = u' := Except.ok.inj (hu.symm.trans hu')
  refine ⟨there, back, hthere, hback, fun hnone ↦ ?_, fun p x hx hgetter ↦ ?_⟩
  · have hclasses : (heap a).classObject = (heap b).classObject := by rw [hb]
    have hthere := equal?_getClass hnone hclasses hv hu
    have hback := equal?_getClass hnone hclasses.symm hu hv
    exact ⟨Option.some.inj (hequal.symm.trans hthere), Option.some.inj (hequal'.symm.trans hback)⟩
  · have hx' : (p, copiedField w.library immutables p x) ∈ w.properties.zip (heap b).values :=
      hvalues ▸ mem_zip_copies w.library immutables hx
    have hread := w.invoke_getter hgetters hx
    have hread' := w.invoke_getter hgetters hx'
    rw [hgetter] at hread hread'
    obtain rfl : v = x := Except.ok.inj (hv.symm.trans hread)
    obtain rfl : u = copiedField w.library immutables p v := Except.ok.inj (hu.symm.trans hread')
    exact ⟨hequal, hequal'⟩

/-- A copy takes over every field once and asks null for nothing. It is equal to its original, in
both directions, if no getter stands in the place of `getClass`. One that does decides: the guard
compares its field in the two objects as references are compared. -/
theorem copy_equals (hl : Copying w.library elements?)
    (hfields : (w.properties.map (·.field.name)).Nodup)
    (hgetters : (w.properties.map (·.names.getter)).Nodup) (hab : a ≠ b)
    (ha : (heap a).Typed w.properties)
    (harrays : HoldArrays elements? immutables w.properties (heap a).values)
    (hb : (heap b).values.length = w.properties.length)
    (hclass : (heap b).classObject = (heap a).classObject) (className : String) :
    ∃ s there back,
      run w b (.entry heap [("other", .object a)])
        (copyBody immutables (w.properties.map (·.field))) = .ok (.next s) ∧
      (copyBody immutables (w.properties.map (·.field))).map target? =
        w.properties.map (fun p ↦ some (member this p.field.name)) ∧
      (∀ r ≠ b, s.heap r = heap r) ∧ (s.heap b).classObject = (heap a).classObject ∧
      (s.heap b).Typed w.properties ∧
      run w a (.entry s.heap [("o", .object b)])
        (equalsBody immutables className w.properties) = .ok (.returned (.boolean there)) ∧
      run w b (.entry s.heap [("o", .object a)])
        (equalsBody immutables className w.properties) = .ok (.returned (.boolean back)) ∧
      ("getClass" ∉ w.properties.map (·.names.getter) → there = true ∧ back = true) ∧
      ∀ p v, (p, v) ∈ w.properties.zip (heap a).values → p.names.getter = "getClass" →
        w.library.equal? v (copiedField w.library immutables p v) = some there ∧
          w.library.equal? (copiedField w.library immutables p v) v = some back := by
  have hcopy := run_copyBody hab hfields ha hb immutables
  generalize hs : withValues (.entry heap [("other", .object a)]) b
    (copies w.library immutables w.properties (heap a).values) = s at hcopy
  have hheap : ∀ r ≠ b, s.heap r = heap r := fun r hr ↦ hs ▸ heap_withValues_of_ne hr ..
  have hsb : s.heap b = ⟨(heap a).classObject,
      copies w.library immutables w.properties (heap a).values⟩ := by
    rw [← hs, heap_withValues_self, State.heap_entry, hclass]
  have hsa : s.heap a = heap a := hheap a hab
  have htyped : (s.heap a).Typed w.properties := hsa.symm ▸ ha
  have hequals := run_equalsBody_copies hl hgetters hab htyped (hsa.symm ▸ harrays)
    (hsa.symm ▸ hsb) className
  rw [hsa] at hequals
  obtain ⟨there, back, hequals⟩ := hequals
  refine ⟨s, there, back, hcopy, ?_, hheap, ?_, ?_, hequals⟩
  · rw [map_target?_copyBody, List.map_map]
    rfl
  · rw [hsb]
  · rw [hsb]
    exact typed_copies _ _ ha

end Copy

section Sample

def Sample.rows? : Sample → Option (List (List (BitVec 32)))
  | grid _ rows => some rows
  | _ => none

def copyingLibrary : Library Sample :=
  { sampleLibrary with
    arraysEquals := sampleLibrary.deepEquals
    copyOf
      | .grid number rows, _ => .grid (number + 1) rows
      | r, _ => r
    construct
      | _, .text number chars => .text (number + 1) chars
      | _, r => r }

theorem compareBits_self {n : Nat} (infinity nan bits : BitVec n) :
    compareBits infinity nan bits bits = 0 := by
  simp [compareBits]

theorem copyingLibrary_copying : Copying copyingLibrary Sample.rows? where
  objects_refl r := by
    rcases r with - | ⟨_ | _ | _⟩ <;> simp [copyingLibrary, sampleLibrary]
  objects_construct type r := by
    cases r <;> simp [copyingLibrary, sampleLibrary]
  elements_copyOf r es h := by
    cases r <;> exact h
  arrays_null := ⟨rfl, rfl⟩
  arrays_elements r r' es h h' := by
    cases r with
    | text | plain => cases h
    | grid number rows =>
      cases r' with
      | text | plain => cases h'
      | grid number' rows' =>
        obtain rfl : rows = rows' := Option.some.inj (h.trans h'.symm)
        simp [copyingLibrary, sampleLibrary]
  float_refl bits := compareBits_self ..
  double_refl bits := compareBits_self ..

def copyingWorld : World Sample := { sampleWorld with library := copyingLibrary }

/-- The second object is new: it holds the values that fields start with. -/
def copyingHeap : Sample → Instance Sample := fun r ↦
  ⟨.plain 0,
    if r = .plain 2 then
      [.int 0, .double 0, .reference none, .reference none, .reference none]
    else
      [.int 7, .double 0x7FF8000000000001, .reference (some (.text 10 ['a', 'b'])),
        .reference (some (.text 20 ['c'])), .reference (some (.grid 30 [[1, 2], []]))]⟩

theorem copy_equals_sample :
    let fields := copyingWorld.properties.map (·.field)
    let equals := equalsBody TypeKind.defaultImmutables "Sheet" copyingWorld.properties
    ∃ s, run copyingWorld (.plain 2) (.entry copyingHeap [("other", .object (.plain 1))])
        (copyBody TypeKind.defaultImmutables fields) = .ok (.next s) ∧
      run copyingWorld (.plain 1) (.entry s.heap [("o", .object (.plain 2))]) equals =
        .ok (.returned (.boolean true)) ∧
      run copyingWorld (.plain 2) (.entry s.heap [("o", .object (.plain 1))]) equals =
        .ok (.returned (.boolean true)) := by
  intro fields equals
  have htyped : (copyingHeap (.plain 1)).Typed copyingWorld.properties :=
    .cons (.int 7) (.cons (.double _) (.cons (.reference (by decide) _)
      (.cons (.reference (by decide) _) (.cons (.reference (by decide) _) .nil))))
  have harrays : HoldArrays Sample.rows? TypeKind.defaultImmutables copyingWorld.properties
      (copyingHeap (.plain 1)).values :=
    .cons (fun _ ↦ trivial) (.cons (fun _ ↦ trivial) (.cons (fun h ↦ absurd h (by decide))
      (.cons (fun h ↦ absurd h (by decide)) (.cons (fun _ ↦ rfl) .nil))))
  obtain ⟨s, there, back, hcopy, -, -, -, -, hthere, hback, hnone, -⟩ :=
    copy_equals (w := copyingWorld) copyingLibrary_copying (by decide) (by decide)
      (a := .plain 1) (b := .plain 2) (by decide) htyped harrays rfl rfl "Sheet"
  obtain ⟨rfl, rfl⟩ := hnone (by decide)
  exact ⟨s, hcopy, hthere, hback⟩

def classProperty : Property :=
  sampleProperty "Date" "Class" 2 (by decide) (by decide) (by decide)

def classWorld : World Sample := ⟨[classProperty], copyingLibrary⟩

def classHeap : Sample → Instance Sample := fun r ↦
  ⟨.plain 0, [.reference (if r = .plain 2 then none else some (.text 10 ['d']))]⟩

/-- A field whose getter stands in the place of `getClass`: the copy differs from its original. -/
theorem copy_differs_getClass :
    classProperty.names.getter = "getClass" ∧ Copying classWorld.library Sample.rows? ∧
      (classHeap (.plain 1)).Typed classWorld.properties ∧
      ∃ s, run classWorld (.plain 2) (.entry classHeap [("other", .object (.plain 1))])
          (copyBody TypeKind.defaultImmutables (classWorld.properties.map (·.field))) =
            .ok (.next s) ∧
        run classWorld (.plain 1) (.entry s.heap [("o", .object (.plain 2))])
            (equalsBody TypeKind.defaultImmutables "Sample" classWorld.properties) =
          .ok (.returned (.boolean false)) := by
  have htyped : (classHeap (.plain 1)).Typed classWorld.properties :=
    .cons (.reference (by decide) _) .nil
  have hne : Sample.plain 1 ≠ Sample.plain 2 := by decide
  exact ⟨rfl, copyingLibrary_copying, htyped, _,
    run_copyBody hne (by decide) htyped rfl TypeKind.defaultImmutables, rfl⟩

end Sample

end Boilerplate.Method
