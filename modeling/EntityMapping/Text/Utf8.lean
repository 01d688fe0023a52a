import EntityMapping.Text.Quoted

/-!
# UTF-8

Encoding, and strict decoding that says where and why an octet sequence is no text.  A lead octet
fixes how many octets follow and, for the second octet, a narrower range than the other
continuation octets have; this rules out overlong forms, halves of pairs and numbers past U+10FFFF.
Octets spell characters only, never halves of pairs that stand alone.
-/

namespace EntityMapping.Text.Utf8

/-- Contents of a file. -/
abbrev Octets := List UInt8

/-- Why octets are refused. -/
inductive Reason where
  /-- No character begins with this octet. -/
  | startByte
  /-- The octets are not followed by one that continues the character. -/
  | continuation
  /-- The octets end inside a character. -/
  | endOfData
deriving DecidableEq, Repr

/-- The text of a reason. -/
def Reason.message : Reason → String
  | .startByte => "invalid start byte"
  | .continuation => "invalid continuation byte"
  | .endOfData => "unexpected end of data"

/-- The first octets that are refused. -/
structure Fault where
  /-- How many octets stand before the refused ones. -/
  position : Nat
  /-- The first refused octet. -/
  lead : UInt8
  /-- How many octets after the first one are refused with it. -/
  more : Nat
  /-- Why they are refused. -/
  reason : Reason
deriving DecidableEq, Repr

/-- The text of a refusal. -/
def Fault.message (e : Fault) : String :=
  let place :=
    if e.more = 0 then
      "byte 0x" ++ String.ofList (hexDigits 2 e.lead.toNat) ++ " in position "
        ++ toString e.position
    else
      "bytes in position " ++ toString e.position ++ "-" ++ toString (e.position + e.more)
  "'utf-8' codec can't decode " ++ place ++ ": " ++ e.reason.message

/-- How many octets follow a lead octet. -/
def followers (a : UInt8) : Option Nat :=
  if a < 0x80 then some 0
  else if a < 0xc2 then none
  else if a < 0xe0 then some 1
  else if a < 0xf0 then some 2
  else if a < 0xf5 then some 3
  else none

/-- The least and greatest octet that may come second after a lead octet. -/
def secondRange (a : UInt8) : UInt8 × UInt8 :=
  if a = 0xe0 then (0xa0, 0xbf)
  else if a = 0xed then (0x80, 0x9f)
  else if a = 0xf0 then (0x90, 0xbf)
  else if a = 0xf4 then (0x80, 0x8f)
  else (0x80, 0xbf)

/-- Whether an octet continues a character. -/
def continues (b : UInt8) : Bool := 0x80 ≤ b && b ≤ 0xbf

/-- The octets after the lead octet `a` that fit it, at most `n` of them. -/
def fitting (a : UInt8) : Nat → Octets → Octets
  | 0, _ => []
  | _, [] => []
  | n + 1, b :: r =>
    if (secondRange a).1 ≤ b && b ≤ (secondRange a).2 then b :: (r.take n).takeWhile continues
    else []

/-- The code point that a lead octet and its followers spell. -/
def codePoint (a : UInt8) (bs : Octets) : Nat :=
  let lead :=
    match bs.length with
    | 0 => a.toNat
    | 1 => a.toNat % 32
    | 2 => a.toNat % 16
    | _ => a.toNat % 8
  bs.foldl (fun n b => n * 64 + b.toNat % 64) lead

/-- The characters of octets that start at `position` of a larger sequence. -/
def decodeFrom (position : Nat) : Octets → Except Fault (List Char)
  | [] => .ok []
  | a :: r =>
    match followers a with
    | none => .error ⟨position, a, 0, .startByte⟩
    | some n =>
      let bs := fitting a n r
      if bs.length = n then
        match decodeFrom (position + n + 1) (r.drop n) with
        | .ok cs => .ok (Char.ofNat (codePoint a bs) :: cs)
        | .error e => .error e
      else if bs.length = r.length then .error ⟨position, a, bs.length, .endOfData⟩
      else .error ⟨position, a, bs.length, .continuation⟩
termination_by s => s.length
decreasing_by simp only [List.length_drop, List.length_cons]; omega

/-- The characters that octets spell. -/
def decode (s : Octets) : Except Fault (List Char) := decodeFrom 0 s

/-- The octets of characters. -/
def encode (s : List Char) : Octets := s.flatMap String.utf8EncodeChar

/-- The octets of a text; one with half of a pair has none. -/
def encodeText? (s : List Char) : Option Octets := (chars? s).map encode

/-- The signature that may stand before a text. -/
def signature : Octets := [0xef, 0xbb, 0xbf]

/-- Decodes octets after an optional signature; what holds no more than the beginning of a
signature is the empty text. -/
def decodeSigned (s : Octets) : Except Fault (List Char) :=
  if s.length < 3 ∧ s.isPrefixOf signature then .ok []
  else if signature.isPrefixOf s then decode (s.drop 3)
  else decode s

@[simp] theorem decode_nil : decode [] = .ok [] := by simp [decode, decodeFrom]

end EntityMapping.Text.Utf8
