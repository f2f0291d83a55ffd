/-!
Octets written in base 64.

Characters outside the alphabet are passed over.  Two or more digits of a group of
four may be followed by padding that completes the group, and nothing after that
counts; without padding the last group must be complete.
-/

namespace UriTemplate.Base64

def digit? (char : Char) : Option Nat :=
  if char.isUpper then some (char.toNat - 65)
  else if char.isLower then some (char.toNat - 71)
  else if char.isDigit then some (char.toNat + 4)
  else if char = '+' then some 62
  else if char = '/' then some 63
  else none

/-- The octet that a digit completes, given its place in the group and what the digit before it
left over. -/
def octet (place left digit : Nat) : List UInt8 :=
  match place with
  | 0 => []
  | 1 => [UInt8.ofNat (left * 4 + digit / 16)]
  | 2 => [UInt8.ofNat (left * 16 + digit / 4)]
  | _ => [UInt8.ofNat (left * 64 + digit)]

/-- What a digit leaves over for the next octet. -/
def leftOver (place digit : Nat) : Nat :=
  match place with
  | 0 => digit
  | 1 => digit % 16
  | 2 => digit % 4
  | _ => 0

/-- Decodes on from a place in a group, after a number of padding characters. -/
def decodeFrom (place left pads : Nat) : List Char → Option (List UInt8)
  | [] => if place = 0 then some [] else none
  | char :: rest =>
      if char = '=' then
        if place < 2 then decodeFrom place left pads rest
        else if 4 ≤ place + pads + 1 then some []
        else decodeFrom place left (pads + 1) rest
      else
        match digit? char with
        | none => decodeFrom place left pads rest
        | some digit =>
            (decodeFrom ((place + 1) % 4) (leftOver place digit) 0 rest).map
              (octet place left digit ++ ·)

def decode? (chars : List Char) : Option (List UInt8) :=
  decodeFrom 0 0 0 chars

end UriTemplate.Base64
