/-
  Base 64.

  Four digits make three bytes.  Characters that are no digits are passed over, and reading ends
  with the padding that completes four.
-/

namespace SchemaAssist.Text

def base64Digit? (c : Char) : Option Nat :=
  if 'A' ≤ c ∧ c ≤ 'Z' then some (c.toNat - 'A'.toNat)
  else if 'a' ≤ c ∧ c ≤ 'z' then some (c.toNat - 'a'.toNat + 26)
  else if '0' ≤ c ∧ c ≤ '9' then some (c.toNat - '0'.toNat + 52)
  else if c = '+' then some 62
  else if c = '/' then some 63
  else none

/-- Reads on after some digits of a group of four; `left` are the bits of the last one that no byte
has yet, and `pads` counts the padding since.  A group must not end early. -/
def base64From (digits left pads : Nat) : List Char → Option (List UInt8)
  | [] => if digits = 0 then some [] else none
  | c :: rest =>
    if c = '=' then
      if digits < 2 then base64From digits left pads rest
      else if 4 ≤ digits + pads + 1 then some []
      else base64From digits left (pads + 1) rest
    else match base64Digit? c, digits with
      | none, _ => base64From digits left pads rest
      | some d, 0 => base64From 1 d 0 rest
      | some d, 1 => (base64From 2 (d % 16) 0 rest).map (UInt8.ofNat (left * 4 + d / 16) :: ·)
      | some d, 2 => (base64From 3 (d % 4) 0 rest).map (UInt8.ofNat (left * 16 + d / 4) :: ·)
      | some d, _ => (base64From 0 0 0 rest).map (UInt8.ofNat (left * 64 + d) :: ·)

def decodeBase64 (text : List Char) : Option (List UInt8) := base64From 0 0 0 text

end SchemaAssist.Text
