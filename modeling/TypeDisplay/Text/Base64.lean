/-!
# Base64

Four characters of the alphabet stand for three octets.  The decoder passes over all other
characters, and padding ends the octets only where it completes a group of four.
-/

namespace TypeDisplay
namespace Base64

/-- The six bits of a character of the alphabet. -/
def bits? (c : Char) : Option Nat :=
  let n := c.toNat
  if 'A' ≤ c ∧ c ≤ 'Z' then some (n - 65)
  else if 'a' ≤ c ∧ c ≤ 'z' then some (n - 71)
  else if c.isDigit then some (n + 4)
  else if c = '+' then some 62
  else if c = '/' then some 63
  else none

/-- Decodes characters of which `count` belong to an unfinished group.  `left` holds its
bits that are not yet in an octet, and `pads` counts the padding after it. -/
def decodeFrom : List Char → (count left pads : Nat) → Option (List UInt8)
  | [], count, _, _ => if count = 0 then some [] else none
  | '=' :: rest, count, left, pads =>
      if 2 ≤ count then
        if 4 ≤ count + pads + 1 then some [] else decodeFrom rest count left (pads + 1)
      else decodeFrom rest count left pads
  | c :: rest, count, left, pads =>
      match bits? c with
      | none => decodeFrom rest count left pads
      | some bits =>
          match count with
          | 0 => decodeFrom rest 1 bits 0
          | 1 =>
              (decodeFrom rest 2 (bits % 16) 0).map
                (UInt8.ofNat (left * 4 + bits / 16) :: ·)
          | 2 =>
              (decodeFrom rest 3 (bits % 4) 0).map
                (UInt8.ofNat (left * 16 + bits / 4) :: ·)
          | _ => (decodeFrom rest 0 0 0).map (UInt8.ofNat (left * 64 + bits) :: ·)

def decode? (text : List Char) : Option (List UInt8) :=
  decodeFrom text 0 0 0

end Base64
end TypeDisplay
