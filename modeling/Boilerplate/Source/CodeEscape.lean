import Boilerplate.Text.CodePoint
import Boilerplate.Text.Numeral

namespace Boilerplate.Source

open Text (CodePoints)

inductive EscapeFault where
  /-- The characters in the place of the digits are no number. -/
  | noNumber (digits : List Char)
  | negative

/-- The code points of a text with its escapes resolved. `kept` is what follows the last escape, in
reverse; where the mark of an escape runs to the end of the text, it comes twice. -/
def resolveEscapes (kept : List Char) (cs : List Char) : Except EscapeFault CodePoints :=
  match cs with
  | [] => .ok []
  | '\\' :: 'u' :: rest =>
    match _h : rest.dropWhile (· == 'u') with
    | [] => .ok (.ofChars (kept.reverse ++ '\\' :: 'u' :: rest))
    | d :: digits =>
      have _le := (List.dropWhile_sublist (l := rest) (· == 'u')).length_le
      match Text.hexadecimal? ((d :: digits).take 4) with
      | none => .error (.noNumber ((d :: digits).take 4))
      | some (.negSucc _) => .error .negative
      | some (.ofNat n) => (resolveEscapes [] (digits.drop 3)).map (n :: ·)
  | '\\' :: c :: rest =>
    (resolveEscapes (c :: '\\' :: kept) rest).map fun points ↦ '\\'.toNat :: c.toNat :: points
  | c :: rest => (resolveEscapes (c :: kept) rest).map (c.toNat :: ·)
termination_by cs.length
decreasing_by
  · rw [_h] at _le
    simp only [List.length_cons, List.length_drop] at *
    omega
  · simp only [List.length_cons]
    omega
  · simp

def decodeEscapes (cs : List Char) : Except EscapeFault CodePoints := resolveEscapes [] cs

end Boilerplate.Source
