namespace Boilerplate.Text.Utf8

inductive FaultKind where
  | invalidStart
  | invalidContinuation
  | unexpectedEnd

/-- A fault at `length` bytes from byte number `start` on; `byte` is the first of them. -/
structure Fault where
  kind : FaultKind
  byte : UInt8
  start : Nat
  length : Nat

def FaultKind.message : FaultKind → String
  | invalidStart => "invalid start byte"
  | invalidContinuation => "invalid continuation byte"
  | unexpectedEnd => "unexpected end of data"

/-- A single byte is named by its value, several by their positions. -/
def Fault.message (f : Fault) : String :=
  let place :=
    if f.length = 1 then
      let digits := Nat.toDigits 16 f.byte.toNat
      "byte 0x" ++ String.ofList (List.replicate (2 - digits.length) '0' ++ digits) ++
        " in position " ++ toString f.start
    else
      "bytes in position " ++ toString f.start ++ "-" ++ toString (f.start + f.length - 1)
  "'utf-8' codec can't decode " ++ place ++ ": " ++ f.kind.message

/-- The bytes that may follow the given first byte of a character: bounds for the second byte,
and the number of further ones. -/
def second? (first : Nat) : Option (Nat × Nat × Nat) :=
  if 0xC2 ≤ first ∧ first ≤ 0xDF then some (0x80, 0xBF, 0)
  else if first = 0xE0 then some (0xA0, 0xBF, 1)
  else if first = 0xED then some (0x80, 0x9F, 1)
  else if 0xE1 ≤ first ∧ first ≤ 0xEF then some (0x80, 0xBF, 1)
  else if first = 0xF0 then some (0x90, 0xBF, 2)
  else if 0xF1 ≤ first ∧ first ≤ 0xF3 then some (0x80, 0xBF, 2)
  else if first = 0xF4 then some (0x80, 0x8F, 2)
  else none

def firstBits (tails first : Nat) : Nat := first % (64 >>> tails)

/-- Reads `count` plain continuation bytes onto `value`; `taken` bytes of the character are
already read. A fault gives the number of bytes concerned. -/
def readTails (value taken : Nat) :
    Nat → List UInt8 → Except (FaultKind × Nat) (Nat × List UInt8)
  | 0, bytes => .ok (value, bytes)
  | _ + 1, [] => .error (.unexpectedEnd, taken)
  | count + 1, b :: bytes =>
    if 0x80 ≤ b.toNat ∧ b.toNat ≤ 0xBF then
      readTails (value * 64 + b.toNat % 64) (taken + 1) count bytes
    else .error (.invalidContinuation, taken)

def readPoint (first : UInt8) (rest : List UInt8) :
    Except (FaultKind × Nat) (Nat × List UInt8) :=
  if first.toNat < 0x80 then .ok (first.toNat, rest)
  else
    match second? first.toNat with
    | none => .error (.invalidStart, 1)
    | some (low, high, more) =>
      match rest with
      | [] => .error (.unexpectedEnd, 1)
      | b :: rest =>
        if low ≤ b.toNat ∧ b.toNat ≤ high then
          readTails (firstBits (more + 1) first.toNat * 64 + b.toNat % 64) 2 more rest
        else .error (.invalidContinuation, 1)

theorem readTails_length {value taken count : Nat} {bytes rest : List UInt8} {point : Nat}
    (h : readTails value taken count bytes = .ok (point, rest)) :
    rest.length ≤ bytes.length := by
  induction count generalizing value taken bytes with
  | zero => simp_all [readTails]
  | succ count ih =>
    cases bytes with
    | nil => simp [readTails] at h
    | cons b bytes =>
      rw [readTails] at h
      split at h
      · have := ih h
        simp only [List.length_cons]
        omega
      · simp at h

theorem readPoint_length {first : UInt8} {bytes rest : List UInt8} {point : Nat}
    (h : readPoint first bytes = .ok (point, rest)) : rest.length ≤ bytes.length := by
  rw [readPoint] at h
  split at h
  · simp_all
  · split at h
    · simp at h
    · cases bytes with
      | nil => simp at h
      | cons b bytes =>
        dsimp only at h
        split at h
        · have := readTails_length h
          simp only [List.length_cons]
          omega
        · simp at h

structure Halt where
  kind : FaultKind
  first : UInt8
  length : Nat
  /-- The number of bytes from the fault on. -/
  left : Nat

def decodeBytes (bytes : List UInt8) : Except Halt (List Char) :=
  match bytes with
  | [] => .ok []
  | first :: rest =>
    match h : readPoint first rest with
    | .error (kind, length) => .error ⟨kind, first, length, rest.length + 1⟩
    | .ok (point, after) =>
      have := readPoint_length h
      match decodeBytes after with
      | .error halt => .error halt
      | .ok cs => .ok (Char.ofNat point :: cs)
termination_by bytes.length
decreasing_by simp only [List.length_cons]; omega

def decode (bytes : List UInt8) : Except Fault (List Char) :=
  (decodeBytes bytes).mapError fun halt ↦
    ⟨halt.kind, halt.first, bytes.length - halt.left, halt.length⟩

def encode (s : String) : List UInt8 := s.toUTF8.toList

end Boilerplate.Text.Utf8
