import Boilerplate.TypeKind
import Mathlib.Tactic.SplitIfs

namespace Boilerplate

def primitiveWords : List String :=
  ["boolean", "byte", "short", "int", "long", "char", "float", "double"]

theorem mem_reservedWords_of_mem_primitiveWords {word : String} (h : word ∈ primitiveWords) :
    word ∈ Identifier.reservedWords := by
  have hall : ∀ w ∈ primitiveWords, w ∈ Identifier.reservedWords := by decide
  exact hall word h

namespace TypeKind

variable {f : Field}

theorem primitive?_eq_none {type : String} (h : type ∉ primitiveWords) :
    primitive? type = none := by
  simp only [primitiveWords, List.mem_cons, List.not_mem_nil, or_false, not_or] at h
  simp [primitive?, h]

theorem arrayDepth_of_mem_primitiveWords (h : f.type ∈ primitiveWords) : f.arrayDepth = 0 := by
  have hall : ∀ w ∈ primitiveWords, Field.bracketPairs w.toList.reverse = 0 := by decide
  exact hall f.type h

theorem ofField_of_mem_primitiveWords (immutables : List String) {kind : TypeKind}
    (h : f.type ∈ primitiveWords) (hk : primitive? f.type = some kind) :
    ofField immutables f = kind := by
  simp [ofField, Field.isArray, arrayDepth_of_mem_primitiveWords h, hk]

theorem ofField_of_not_mem_primitiveWords (immutables : List String)
    (h : f.type ∉ primitiveWords) :
    ofField immutables f ∈ [immutable, object, array] := by
  simp only [ofField, primitive?_eq_none h]
  split
  · simp
  split
  · simp
  split <;> simp

theorem primitive?_ne_array (type : String) : primitive? type ≠ some array := by
  rw [primitive?]
  split_ifs <;> simp

theorem ofField_eq_array_iff (immutables : List String) :
    ofField immutables f = array ↔ f.isArray = true := by
  rw [ofField]
  split
  · next h => simp [h]
  next h =>
  refine ⟨fun hkind ↦ ?_, fun harray ↦ absurd harray h⟩
  split at hkind
  · next kind hprimitive => exact absurd (hkind ▸ hprimitive) (primitive?_ne_array f.type)
  · split_ifs at hkind

end TypeKind

end Boilerplate
