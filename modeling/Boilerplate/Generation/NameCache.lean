import Boilerplate.Naming

namespace Boilerplate

structure CachedNames where
  type : String
  name : String
  names : Names
  /-- No two entries have the same number. -/
  serial : Nat
  deriving DecidableEq, Repr

structure NameCache where
  entries : List CachedNames
  issued : Nat
  deriving DecidableEq, Repr

namespace NameCache

def empty : NameCache := ⟨[], 0⟩

/-- Forgets all entries; serial numbers are not used again. -/
def clear (c : NameCache) : NameCache := { c with entries := [] }

def find? (c : NameCache) (f : Field) : Option CachedNames :=
  c.entries.find? fun e ↦ e.type == f.type && e.name == f.name

def resolve (n : Naming) (c : NameCache) (f : Field) : CachedNames × NameCache :=
  match c.find? f with
  | some e => (e, c)
  | none =>
    let e : CachedNames := ⟨f.type, f.name, n.names f, c.issued⟩
    (e, ⟨e :: c.entries, c.issued + 1⟩)

def properties (n : Naming) (c : NameCache) : List Field → List Property × NameCache
  | [] => ([], c)
  | f :: fs =>
    let (e, c) := c.resolve n f
    let (ps, c) := c.properties n fs
    (⟨f, e.names⟩ :: ps, c)

end NameCache

end Boilerplate
