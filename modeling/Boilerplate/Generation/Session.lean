import Boilerplate.Generation.Generator

namespace Boilerplate

inductive Request where
  | resolve (field : Field)
  | plainName (field : Field)
  | fragment (field : Field)
  | getterName (field : Field)
  | setterName (field : Field)
  | forgetNames
  | run (outline : ClassOutline)
  | generate (outline : ClassOutline)
  | validate (outline : ClassOutline)
  | tidy (code : String)

inductive Reply where
  /-- Names, and whether they come from the entry of the last resolution of that field. -/
  | names (names : Names) (same : Bool)
  | text (text : String)
  | nothing
  | result (result : Result)
  | warnings (warnings : List String)
  | failed (error : GenerationError)

/-- A generator and the entries that its last resolutions gave, by the type and name of the
field. -/
structure Session where
  generator : Generator
  resolved : List CachedNames

namespace Session

def start (g : Generator) : Session := ⟨g, []⟩

variable (s : Session)

def lastResolved? (f : Field) : Option CachedNames :=
  s.resolved.find? fun e ↦ e.type == f.type && e.name == f.name

def answer : Request → Reply × Session
  | .resolve f =>
    let (entry, cache) := s.generator.cache.resolve s.generator.settings.naming f
    (.names entry.names ((s.lastResolved? f).any (·.serial == entry.serial)),
      ⟨{ s.generator with cache }, entry :: s.resolved⟩)
  | .plainName f => (.text (s.generator.settings.naming.plainName f), s)
  | .fragment f => (.text (s.generator.settings.naming.fragment f), s)
  | .getterName f => (.text (s.generator.settings.naming.getterName f), s)
  | .setterName f => (.text (s.generator.settings.naming.setterName f), s)
  | .forgetNames =>
    (.nothing, { s with generator := { s.generator with cache := s.generator.cache.clear } })
  | .run c =>
    let (result, generator) := s.generator.run c
    (.result result, { s with generator })
  | .generate c =>
    match s.generator.generate c with
    | (.ok text, generator) => (.text text, { s with generator })
    | (.error e, generator) => (.failed e, { s with generator })
  | .validate c =>
    let (warnings, generator) := s.generator.validate c
    (.warnings warnings, { s with generator })
  | .tidy code => (.text (Text.tidy code), s)

end Session

end Boilerplate
