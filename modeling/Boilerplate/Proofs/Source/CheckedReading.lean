import Boilerplate.Proofs.Source.Findings

namespace Boilerplate.Source

inductive Stop where
  | outOfRange (place : Nat)
  | endless
  | rejected (reason : Rejection)
  | field (error : FieldError)

section Places

variable {α β : Type}

def lookUp (xs : List α) (place : Nat) : Except Stop α :=
  match xs[place]? with
  | some x => .ok x
  | none => .error (.outOfRange place)

/-- What stands at a place, provided that the list goes on so far. -/
def peek (xs : List α) (place : Nat) : Except Stop (Option α) :=
  if place < xs.length then (lookUp xs place).map some else .ok none

def Ahead (xs : List α) (place : Nat) (rest : List α) : Prop := xs.drop place = rest

/-- Whether a reading by places comes to the same as one of lists. -/
def Agrees (xs : List α) (read : Except Stop (β × Nat)) :
    Except Rejection (β × List α) → Prop
  | .error reason => read = .error (.rejected reason)
  | .ok (result, rest) => ∃ after, read = .ok (result, after) ∧ Ahead xs after rest

variable {xs rest : List α} {place : Nat} {x : α}

theorem ok_bind {γ : Type} (a : γ) (f : γ → Except Stop β) : (Except.ok a >>= f) = f a := rfl

theorem Ahead.lt (h : Ahead xs place (x :: rest)) : place < xs.length := by
  by_contra hlt
  rw [Ahead, List.drop_eq_nil_of_le (Nat.le_of_not_lt hlt)] at h
  cases h

theorem Ahead.tail (h : Ahead xs place rest) : Ahead xs (place + 1) rest.tail := by
  rw [Ahead, ← List.drop_drop, h, List.drop_one]

theorem Ahead.next (h : Ahead xs place (x :: rest)) : Ahead xs (place + 1) rest := h.tail

theorem Ahead.length (h : Ahead xs place rest) : rest.length = xs.length - place := by
  rw [← h, List.length_drop]

theorem Ahead.length_lt (h : Ahead xs place rest) {rounds : Nat} (hr : xs.length < rounds) :
    rest.length < rounds :=
  h.length ▸ Nat.lt_of_le_of_lt (Nat.sub_le ..) hr

theorem Ahead.getElem? (h : Ahead xs place rest) : xs[place]? = rest.head? := by
  rw [← h, List.head?_drop]

theorem Ahead.lookUp (h : Ahead xs place (x :: rest)) : lookUp xs place = .ok x := by
  rw [Source.lookUp, h.getElem?]
  rfl

theorem Ahead.peek (h : Ahead xs place rest) : peek xs place = .ok rest.head? := by
  rw [Source.peek]
  cases rest with
  | nil =>
    rw [if_neg (Nat.not_lt.mpr (List.drop_eq_nil_iff.mp h))]
    rfl
  | cons x rest =>
    rw [if_pos h.lt, h.lookUp]
    rfl

theorem Agrees.map {γ : Type} {read : Except Stop (β × Nat)}
    {expected : Except Rejection (β × List α)} (h : Agrees xs read expected) (f : β → γ) :
    Agrees xs (read.map fun (result, after) ↦ (f result, after))
      (expected.map fun (result, rest) ↦ (f result, rest)) := by
  cases expected with
  | error reason =>
    rw [Agrees] at h
    subst h
    rfl
  | ok p =>
    obtain ⟨after, rfl, hafter⟩ := h
    exact ⟨after, rfl, hafter⟩

end Places

def joinAt (raw : List Placed) : Nat → String → Nat → Except Stop (String × Nat)
  | 0, _, _ => .error .endless
  | rounds + 1, name, place =>
    if place + 1 < raw.length then do
      let dot ← lookUp raw place
      let part ← lookUp raw (place + 1)
      match dot.lexeme, part.lexeme with
      | .separator '.', .identifier next => joinAt raw rounds (name ++ "." ++ next) (place + 2)
      | _, _ => .ok (name, place)
    else .ok (name, place)

def nameAt (raw : List Placed) (rounds place : Nat) : Except Stop (String × Nat) := do
  let start ← lookUp raw place
  joinAt raw rounds start.lexeme.text (place + 1)

def tokensAt (raw : List Placed) : Nat → Nat → Except Stop (List Token)
  | 0, _ => .error .endless
  | rounds + 1, place =>
    if place < raw.length then do
      let first ← lookUp raw place
      match first.lexeme with
      | .atSign =>
        match ← peek raw (place + 1) with
        | none => return ⟨.symbol, "@", first.line, []⟩ :: (← tokensAt raw rounds (place + 1))
        | some ⟨.identifier _, _⟩ =>
          let (name, after) ← nameAt raw rounds (place + 1)
          return ⟨.atName, "@" ++ name, first.line, []⟩ :: (← tokensAt raw rounds after)
        | some other =>
          return ⟨.atName, "@" ++ other.lexeme.text, first.line, other.lexeme.surrogates⟩ ::
            (← tokensAt raw rounds (place + 2))
      | .identifier _ =>
        let (name, after) ← nameAt raw rounds place
        return ⟨.word, name, first.line, []⟩ :: (← tokensAt raw rounds after)
      | lexeme =>
        return Token.ofLexeme first.line lexeme ++ (← tokensAt raw rounds (place + 1))
    else .ok []

section Statement

variable (ts : List Token)

def skipGroupAt : Nat → Nat → Nat → Except Stop Nat
  | 0, _, _ => .error .endless
  | rounds + 1, depth, place => do
    match ← peek ts place with
    | none => return place
    | some t =>
      if t.isSymbol "(" then skipGroupAt rounds (depth + 1) (place + 1)
      else if t.isSymbol ")" then
        if depth ≤ 1 then return place + 1 else skipGroupAt rounds (depth - 1) (place + 1)
      else skipGroupAt rounds depth (place + 1)

def modifiersAt : Nat → Nat → Except Stop (List String × Nat)
  | 0, _ => .error .endless
  | rounds + 1, place => do
    match ← peek ts place with
    | none => return ([], place)
    | some t =>
      if t.kind = .atName then
        if (← peek ts (place + 1)).any (·.isSymbol "(") then
          modifiersAt rounds (← skipGroupAt ts rounds 0 (place + 1))
        else modifiersAt rounds (place + 1)
      else if t.isWord ∧ t.text ∈ fieldModifiers then
        (modifiersAt rounds (place + 1)).map fun (words, after) ↦ (t.text :: words, after)
      else return ([], place)

def typeArgumentsAt : Nat → Nat → Nat → Except Stop (List Token × Nat)
  | 0, _, _ => .error .endless
  | rounds + 1, depth, place => do
    match ← peek ts place with
    | none => .error (.rejected .openTypeArguments)
    | some t =>
      if t.kind = .atName then .error (.rejected .annotatedTypeArguments)
      else if t.isWord = false ∧ t.text ∉ typeArgumentSymbols then
        .error (.rejected (.unsupportedInType t))
      else if t.isSymbol "<" then
        (typeArgumentsAt rounds (depth + 1) (place + 1)).map fun (read, after) ↦ (t :: read, after)
      else if t.isSymbol ">" ∧ depth ≤ 1 then return ([t], place + 1)
      else if t.isSymbol ">" then
        (typeArgumentsAt rounds (depth - 1) (place + 1)).map fun (read, after) ↦ (t :: read, after)
      else (typeArgumentsAt rounds depth (place + 1)).map fun (read, after) ↦ (t :: read, after)

def dimensionsAt : Nat → Nat → Except Stop (List Token × Nat)
  | 0, _ => .error .endless
  | rounds + 1, place => do
    match ← peek ts place, ← peek ts (place + 1) with
    | some a, some b =>
      if a.isSymbol "[" ∧ b.isSymbol "]" then
        (dimensionsAt rounds (place + 2)).map fun (read, after) ↦ (a :: b :: read, after)
      else return ([], place)
    | _, _ => return ([], place)

def typeAt (rounds : Nat) (start : Token) (place : Nat) : Except Stop (List Token × Nat) := do
  if (← peek ts place).any (·.isSymbol "<") then
    let (arguments, after) ← typeArgumentsAt ts rounds 0 place
    let (dimensions, after) ← dimensionsAt ts rounds after
    return (start :: arguments ++ dimensions, after)
  else
    let (dimensions, after) ← dimensionsAt ts rounds place
    return (start :: dimensions, after)

def initializerAt : Nat → Int → Nat → Option Token → Nat → Except Stop Unit
  | 0, _, _, _, _ => .error .endless
  | rounds + 1, depth, angles, before, place => do
    match ← peek ts place with
    | none => return
    | some t =>
      if t.isOpener then initializerAt rounds (depth + 1) angles (some t) (place + 1)
      else if t.isCloser then initializerAt rounds (depth - 1) angles (some t) (place + 1)
      else if t.isSymbol "<" ∧ opensTypeArguments before then
        initializerAt rounds depth (angles + 1) (some t) (place + 1)
      else if t.isSymbol ">" ∧ angles ≠ 0 then
        initializerAt rounds depth (angles - 1) (some t) (place + 1)
      else if t.isSymbol "," ∧ depth = 0 ∧ angles = 0 then .error (.rejected .severalFields)
      else initializerAt rounds depth angles (some t) (place + 1)

def tailAt (rounds place : Nat) : Except Stop Unit := do
  match ← peek ts place with
  | none => return
  | some t =>
    if t.isSymbol "," then .error (.rejected .severalFields)
    else if t.isSymbol "=" then initializerAt ts rounds 0 0 none (place + 1)
    else .error (.rejected (.unexpectedAfterName t))

def declaratorAt (rounds : Nat) (type : List Token) (place : Nat) : Except Stop Finding := do
  match ← peek ts place with
  | none => .error (.rejected .missingName)
  | some name =>
    if name.isSymbol "(" then return .none
    else if name.isWord = false ∨ '.' ∈ name.text.toList then
      .error (.rejected (.unexpectedAfterType name))
    else if (← peek ts (place + 1)).any (·.isSymbol "(") then return .none
    else
      let (dimensions, after) ← dimensionsAt ts rounds (place + 1)
      tailAt ts rounds after
      ((Field.make? (typeText (type ++ dimensions)) name.text name.line).mapError Stop.field).map
        Finding.field

def typedAt (rounds place : Nat) : Except Stop Finding := do
  match ← peek ts place with
  | none => return .none
  | some start =>
    if start.isWord = false ∨ start.text ∈ classKeywords then return .none
    else
      let (type, after) ← typeAt ts rounds start (place + 1)
      declaratorAt ts rounds type after

def declarationAt (rounds : Nat) : Except Stop Finding := do
  let (modifiers, after) ← modifiersAt ts rounds 0
  if "private" ∉ modifiers then return .none
  else
    match excludedModifiers.filter (· ∈ modifiers) with
    | [] => typedAt ts rounds after
    | excluded => return .excluded excluded (← lookUp ts 0).line

variable {ts} {rest : List Token} {rounds place : Nat}

theorem exists_skipGroupAt (depth : Nat) (h : Ahead ts place rest)
    (hr : rest.length < rounds) :
    ∃ after, skipGroupAt ts rounds depth place = .ok after ∧
      Ahead ts after (afterGroup depth rest) := by
  induction rounds generalizing depth place rest with
  | zero => cases hr
  | succ rounds ih =>
    rw [skipGroupAt, h.peek, ok_bind]
    cases rest with
    | nil => exact ⟨place, rfl, h⟩
    | cons t rest =>
      have hr : rest.length < rounds := Nat.lt_of_succ_lt_succ hr
      rw [List.head?_cons, afterGroup]
      dsimp only
      split
      · exact ih _ h.next hr
      split
      · split
        · exact ⟨_, rfl, h.next⟩
        · exact ih _ h.next hr
      · exact ih _ h.next hr

theorem agrees_modifiersAt (h : Ahead ts place rest) (hr : rest.length < rounds) :
    Agrees ts (modifiersAt ts rounds place) (.ok (readModifiers rest)) := by
  induction rounds generalizing place rest with
  | zero => cases hr
  | succ rounds ih =>
    rw [modifiersAt, h.peek, ok_bind]
    cases rest with
    | nil =>
      rw [readModifiers]
      exact ⟨place, rfl, h⟩
    | cons t rest =>
      have hr : rest.length < rounds := Nat.lt_of_succ_lt_succ hr
      rw [List.head?_cons, readModifiers]
      dsimp only
      split
      · rw [h.next.peek, ok_bind]
        split
        · obtain ⟨after, hskip, hafter⟩ := exists_skipGroupAt 0 h.next hr
          rw [hskip, ok_bind]
          exact ih hafter (Nat.lt_of_le_of_lt (afterGroup_length 0 rest) hr)
        · exact ih h.next hr
      split
      · exact (ih h.next hr).map _
      · exact ⟨place, rfl, h⟩

theorem agrees_typeArgumentsAt (depth : Nat) (h : Ahead ts place rest)
    (hr : rest.length < rounds) :
    Agrees ts (typeArgumentsAt ts rounds depth place) (readTypeArguments depth rest) := by
  induction rounds generalizing depth place rest with
  | zero => cases hr
  | succ rounds ih =>
    rw [typeArgumentsAt, h.peek, ok_bind]
    cases rest with
    | nil => rfl
    | cons t rest =>
      have hr : rest.length < rounds := Nat.lt_of_succ_lt_succ hr
      rw [List.head?_cons, readTypeArguments]
      dsimp only
      split
      · rfl
      split
      · rfl
      split
      · exact (ih _ h.next hr).map _
      split
      · exact ⟨_, rfl, h.next⟩
      split
      · exact (ih _ h.next hr).map _
      · exact (ih _ h.next hr).map _

theorem agrees_dimensionsAt (h : Ahead ts place rest) (hr : rest.length < rounds) :
    Agrees ts (dimensionsAt ts rounds place) (.ok (readDimensions rest)) := by
  induction rounds generalizing place rest with
  | zero => cases hr
  | succ rounds ih =>
    rw [dimensionsAt, h.peek, ok_bind, h.tail.peek, ok_bind]
    match rest with
    | [] => exact ⟨place, rfl, h⟩
    | [_] => exact ⟨place, rfl, h⟩
    | a :: b :: rest =>
      have hr : rest.length < rounds := Nat.lt_of_succ_lt (Nat.lt_of_succ_lt_succ hr)
      rw [readDimensions, List.head?_cons, List.tail_cons, List.head?_cons]
      dsimp only
      split
      · exact (ih h.next.next hr).map fun read ↦ a :: b :: read
      · exact ⟨place, rfl, h⟩

theorem agrees_typeAt (h : Ahead ts place rest) (hr : ts.length < rounds) (start : Token) :
    Agrees ts (typeAt ts rounds start place) (readType start rest) := by
  rw [typeAt, h.peek, ok_bind]
  cases rest with
  | nil =>
    obtain ⟨after, hat, hafter⟩ := agrees_dimensionsAt h (h.length_lt hr)
    rw [if_neg (by simp), hat, ok_bind]
    exact ⟨after, rfl, hafter⟩
  | cons t rest =>
    rw [readType, List.head?_cons, Option.any_some]
    split
    · have harguments := agrees_typeArgumentsAt 0 h (h.length_lt hr)
      cases hread : readTypeArguments 0 (t :: rest) with
      | error reason =>
        rw [hread, Agrees] at harguments
        rw [harguments]
        rfl
      | ok p =>
        rw [hread] at harguments
        obtain ⟨after, hat, hafter⟩ := harguments
        obtain ⟨behind, hat', hbehind⟩ := agrees_dimensionsAt hafter (hafter.length_lt hr)
        rw [hat, ok_bind]
        dsimp only
        rw [hat', ok_bind]
        exact ⟨behind, rfl, hbehind⟩
    · obtain ⟨after, hat, hafter⟩ := agrees_dimensionsAt h (h.length_lt hr)
      rw [hat, ok_bind]
      exact ⟨after, rfl, hafter⟩

theorem initializerAt_eq {depth : Int} {angles : Nat} {before : Option Token}
    (h : Ahead ts place rest) (hr : rest.length < rounds) :
    initializerAt ts rounds depth angles before place =
      if hasSecondDeclarator depth angles before rest then .error (.rejected .severalFields)
      else .ok () := by
  induction rounds generalizing depth angles before place rest with
  | zero => cases hr
  | succ rounds ih =>
    rw [initializerAt, h.peek, ok_bind]
    cases rest with
    | nil => rfl
    | cons t rest =>
      have hr : rest.length < rounds := Nat.lt_of_succ_lt_succ hr
      rw [List.head?_cons, hasSecondDeclarator]
      dsimp only
      split
      · exact ih h.next hr
      split
      · exact ih h.next hr
      split
      · exact ih h.next hr
      split
      · exact ih h.next hr
      split
      · rfl
      · exact ih h.next hr

theorem tailAt_eq (h : Ahead ts place rest) (hr : ts.length < rounds) :
    tailAt ts rounds place =
      match tailFault? rest with
      | some reason => .error (.rejected reason)
      | none => .ok () := by
  rw [tailAt, h.peek, ok_bind]
  cases rest with
  | nil => rfl
  | cons t rest =>
    rw [List.head?_cons, tailFault?]
    dsimp only
    split
    · rfl
    split
    · rw [initializerAt_eq h.next (h.next.length_lt hr)]
      split <;> rfl
    · rfl

def outcomeOf (ts : List Token) : Verdict → Except Stop Finding
  | .silent => .ok .none
  | .excluded modifiers => .ok (.excluded modifiers (statementLine ts))
  | .rejected reason => .error (.rejected reason)
  | .declares type name line => ((Field.make? type name line).mapError Stop.field).map Finding.field

theorem declaratorAt_eq (h : Ahead ts place rest) (hr : ts.length < rounds) (type : List Token) :
    declaratorAt ts rounds type place = outcomeOf ts (readDeclarator type rest) := by
  rw [declaratorAt, h.peek, ok_bind]
  cases rest with
  | nil => rfl
  | cons name rest =>
    rw [List.head?_cons, readDeclarator]
    dsimp only
    split
    · rfl
    split
    · rfl
    rw [h.next.peek, ok_bind]
    split
    · rfl
    obtain ⟨after, hat, hafter⟩ := agrees_dimensionsAt h.next (h.next.length_lt hr)
    rw [hat, ok_bind]
    dsimp only
    rw [tailAt_eq hafter hr]
    cases tailFault? (readDimensions rest).2 <;> rfl

theorem typedAt_eq (h : Ahead ts place rest) (hr : ts.length < rounds) :
    typedAt ts rounds place = outcomeOf ts (readTyped rest) := by
  rw [typedAt, h.peek, ok_bind]
  cases rest with
  | nil => rfl
  | cons start rest =>
    rw [List.head?_cons, readTyped]
    dsimp only
    split
    · rfl
    have htype := agrees_typeAt h.next hr start
    cases hread : readType start rest with
    | error reason =>
      rw [hread, Agrees] at htype
      rw [htype]
      rfl
    | ok p =>
      rw [hread] at htype
      obtain ⟨after, hat, hafter⟩ := htype
      rw [hat, ok_bind]
      exact declaratorAt_eq hafter hr p.1

theorem declarationAt_eq (hne : ts ≠ []) :
    declarationAt ts (ts.length + 1) = outcomeOf ts (readDeclaration ts) := by
  have hr : ts.length < ts.length + 1 := Nat.lt_succ_self _
  have hstart : Ahead ts 0 ts := rfl
  obtain ⟨after, hat, hafter⟩ := agrees_modifiersAt hstart hr
  rw [declarationAt, hat, ok_bind, readDeclaration]
  dsimp only
  split
  · rfl
  cases excludedModifiers.filter (· ∈ (readModifiers ts).1) with
  | nil => exact typedAt_eq hafter hr
  | cons word words =>
    obtain ⟨first, rest, rfl⟩ := List.exists_cons_of_ne_nil hne
    rfl

end Statement

def findingAt (start : Text.CodePoints) (statement : List Token) : Except Stop Finding :=
  match declarationAt statement (statement.length + 1) with
  | .error (.rejected reason) => do
    let _ ← lookUp statement 0
    return .rejected statement reason
  | .error e => .error e
  | .ok (.field f) => .ok (if hasPrefix start f.name then .field f else .mismatch f)
  | .ok finding => .ok finding

def findingsAt (raw : List Placed) (start : Text.CodePoints) : Except Stop (List Finding) := do
  let ts ← tokensAt raw (raw.length + 1) 0
  (allStatements ts).mapM (findingAt start)

section Statements

variable {source : String} {start : Text.CodePoints} {ts statement : List Token} {finding : Finding}

theorem findingAt_eq (hne : statement ≠ []) (start : Text.CodePoints) :
    findingAt start statement = (findingOf start statement).mapError Stop.field := by
  obtain ⟨first, rest, rfl⟩ := List.exists_cons_of_ne_nil hne
  rw [findingAt, declarationAt_eq hne, findingOf]
  cases readDeclaration (first :: rest) with
  | silent | excluded | rejected => rfl
  | declares type name line =>
    dsimp only [outcomeOf]
    cases hf : Field.make? type name line with
    | error e => rfl
    | ok f =>
      obtain ⟨-, rfl, -⟩ := Field.make?_eq_ok_iff.mp hf
      rfl

end Statements

section Lexemes

variable {raw rest : List Placed} {rounds place : Nat}

theorem exists_joinAt {name : String} (h : Ahead raw place rest) (hr : rest.length < rounds) :
    ∃ after, joinAt raw rounds name place = .ok ((qualifiedName name rest).1, after) ∧
      Ahead raw after (qualifiedName name rest).2 := by
  induction rounds generalizing name place rest with
  | zero => cases hr
  | succ rounds ih =>
    have hlength := h.length
    rw [joinAt]
    match rest with
    | [] | [_] =>
      rw [if_neg (by simp only [List.length_cons, List.length_nil] at hlength; omega)]
      exact ⟨place, rfl, h⟩
    | dot :: part :: rest =>
      have hr : rest.length < rounds := Nat.lt_of_succ_lt (Nat.lt_of_succ_lt_succ hr)
      rw [if_pos h.next.lt, h.lookUp, ok_bind, h.next.lookUp, ok_bind]
      split
      · next more hdot hpart =>
        have hname : qualifiedName name (dot :: part :: rest) =
            qualifiedName (name ++ "." ++ more) rest := by
          simp only [qualifiedName, hdot, hpart]
        rw [hname]
        exact ih h.next.next hr
      · next hother =>
        have hname : qualifiedName name (dot :: part :: rest) = (name, dot :: part :: rest) := by
          rw [qualifiedName]
          split
          · next hdot hpart => exact absurd hpart (hother _ hdot)
          · rfl
        rw [hname]
        exact ⟨place, rfl, h⟩

theorem exists_nameAt {first : Placed} {name : String} (h : Ahead raw place (first :: rest))
    (hfirst : first.lexeme = .identifier name) (hr : rest.length < rounds) :
    ∃ after, nameAt raw rounds place = .ok ((qualifiedName name rest).1, after) ∧
      Ahead raw after (qualifiedName name rest).2 := by
  rw [nameAt, h.lookUp, ok_bind, hfirst]
  exact exists_joinAt h.next hr

theorem tokensAt_eq (h : Ahead raw place rest) (hr : rest.length < rounds) :
    tokensAt raw rounds place = .ok (Token.ofLexemes rest) := by
  induction rounds generalizing place rest with
  | zero => cases hr
  | succ rounds ih =>
    rw [tokensAt]
    cases rest with
    | nil =>
      have hlength := h.length
      rw [if_neg (by simp only [List.length_nil] at hlength; omega), Token.ofLexemes]
    | cons first rest =>
      obtain ⟨lexeme, line⟩ := first
      replace hr : rest.length < rounds := Nat.lt_of_succ_lt_succ hr
      rw [if_pos h.lt, h.lookUp, ok_bind]
      cases lexeme with
      | atSign =>
        dsimp only
        rw [h.next.peek, ok_bind]
        cases rest with
        | nil =>
          have hnone : tokensAt raw rounds (place + 1) = .ok (Token.ofLexemes []) := ih h.next hr
          rw [List.head?_nil]
          dsimp only
          rw [hnone]
          simp [Token.ofLexemes, Token.ofLexeme, ok_bind, pure, Except.pure]
        | cons second rest =>
          obtain ⟨lexeme, line'⟩ := second
          replace hr : rest.length < rounds := Nat.lt_of_succ_lt hr
          rw [List.head?_cons]
          cases lexeme with
          | identifier name =>
            obtain ⟨after, hat, hafter⟩ := exists_nameAt h.next rfl hr
            dsimp only
            rw [hat, ok_bind, Token.ofLexemes]
            dsimp only
            rw [ih hafter (Nat.lt_of_le_of_lt (qualifiedName_length name rest) hr)]
            rfl
          | _ =>
            dsimp only
            rw [ih h.next.next hr, Token.ofLexemes]
            · rfl
            · simp
      | identifier name =>
        obtain ⟨after, hat, hafter⟩ := exists_nameAt h rfl hr
        dsimp only
        rw [hat, ok_bind, Token.ofLexemes]
        dsimp only
        rw [ih hafter (Nat.lt_of_le_of_lt (qualifiedName_length name rest) hr)]
        rfl
      | _ =>
        dsimp only
        rw [ih h.next hr, Token.ofLexemes]
        · rfl
        · simp
        · simp
        · simp

end Lexemes

/-- Where there are lexemes, no reading by places stops: it finds what an extraction finds. What is
declared is always a field. It has a type and a name, and no blank and no point in the name. -/
theorem extract_by_places {source : String} {raw : List Placed}
    (h : lexemes (maskTextBlocks source.toList) = .ok raw) (start : Text.CodePoints) :
    ∃ x, findingsAt raw start = .ok x.findings ∧ extract source start = .ok x ∧
      ∀ statement ∈ allStatements (Token.ofLexemes raw), ∀ type name line,
        readDeclaration statement = .declares type name line →
        type ≠ "" ∧ name ≠ "" ∧ (∀ c ∈ name.toList, Text.isBlank c = false ∧ c ≠ '.') ∧
          ∃ f, Field.make? type name line = .ok f := by
  have hts : tokens source = .ok (Token.ofLexemes raw) := by
    rw [tokens, h]
    rfl
  have hstatement : ∀ statement ∈ allStatements (Token.ofLexemes raw), ∃ finding,
      findingOf start statement = .ok finding ∧ findingAt start statement = .ok finding := by
    intro statement hs
    obtain ⟨finding, hfinding, -⟩ := exists_findingOf hts hs start
    have hne : statement ≠ [] := by
      rintro rfl
      simp [allStatements] at hs
    refine ⟨finding, hfinding, ?_⟩
    rw [findingAt_eq hne, hfinding]
    rfl
  obtain ⟨findings, hfindings, hplaces⟩ := mapM_eq_ok_of_forall hstatement
  refine ⟨⟨findings⟩, ?_, by simp only [extract, hts, hfindings],
    fun statement hs type name line hread ↦ ?_⟩
  · have hstart : Ahead raw 0 raw := rfl
    rw [findingsAt, tokensAt_eq hstart (Nat.lt_succ_self _), ok_bind]
    exact mapM_eq_ok_iff.mpr hplaces
  · have hwf : ∀ t ∈ statement, t.WellFormed := fun t ht ↦
      tokens_wellFormed hts t (mem_of_mem_allStatements hs t ht)
    obtain ⟨d, rfl, rfl, rfl, rfl⟩ := (readDeclaration_eq_declares_iff hwf).mp hread
    obtain ⟨f, hf⟩ := d.make?_eq_ok hwf
    obtain ⟨htype, hname, -⟩ := Field.make?_eq_ok_iff.mp hf
    refine ⟨htype ▸ f.type_ne_empty, hname ▸ f.name_ne_empty, fun c hc ↦ ⟨?_, ?_⟩, f, hf⟩
    · exact f.not_isBlank_of_mem_name c (hname ▸ hc)
    · rintro rfl
      exact d.point_not_mem hc

section Sample

/-- A field, type arguments and a group that nothing closes, a qualified name where a plain one is
due, and a sign for an annotation that does not come. -/
def brokenSource : String :=
  "private a.b c;\nprivate Map<K m;\nprivate int a.b;\n@A((x) private int z;\n@"

theorem extract_by_places_broken :
    ∃ raw x, lexemes (maskTextBlocks brokenSource.toList) = .ok raw ∧
      findingsAt raw "" = .ok x.findings ∧ extract brokenSource "" = .ok x ∧
      x.fields.map (fun f ↦ (f.type, f.name)) = [("a.b", "c")] ∧
      x.warnings =
        [.ofString "line 2: skipped 'private Map < K m;' (unterminated type arguments)",
          .ofString "line 3: skipped 'private int a.b;' (unexpected token 'a.b' after type)"] := by
  have hlexes : (lexemes (maskTextBlocks brokenSource.toList)).toOption.any (·.length = 29) =
      true := by
    decide +kernel
  have hextracts : (extract brokenSource "").toOption.any (fun x ↦
      x.fields.map (fun f ↦ (f.type, f.name)) = [("a.b", "c")] ∧
        x.warnings =
          [.ofString "line 2: skipped 'private Map < K m;' (unterminated type arguments)",
            .ofString "line 3: skipped 'private int a.b;' (unexpected token 'a.b' after type)"]) =
      true := by
    decide +kernel
  obtain ⟨raw, hraw, -⟩ := exists_eq_ok_of_any hlexes
  obtain ⟨x, hx, hfields, hwarnings⟩ := exists_eq_ok_of_any hextracts
  obtain ⟨x', hplaces, hx', -⟩ := extract_by_places hraw ""
  obtain rfl : x = x' := Except.ok.inj (hx.symm.trans hx')
  exact ⟨raw, x, hraw, hplaces, hx, hfields, hwarnings⟩

end Sample

end Boilerplate.Source
