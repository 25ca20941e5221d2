namespace ArgHints.Text.Utf8

inductive Fault where
  | startByte
  | continuationByte
  | endOfData
  deriving DecidableEq, Repr

def Fault.reason : Fault → String
  | .startByte => "invalid start byte"
  | .continuationByte => "invalid continuation byte"
  | .endOfData => "unexpected end of data"

/-- A place where bytes are not UTF-8: `length` bytes from the position `start`, of which `byte` is
the first, are no character. -/
structure Error where
  start : Nat
  byte : Nat
  length : Nat
  fault : Fault
  deriving DecidableEq, Repr

def Error.message (error : Error) : String :=
  let place :=
    if error.length == 1 then
      let digits := String.ofList [(error.byte / 16).digitChar, (error.byte % 16).digitChar]
      s!"byte 0x{digits} in position {error.start}"
    else
      s!"bytes in position {error.start}-{error.start + error.length - 1}"
  s!"'utf-8' codec can't decode {place}: {error.fault.reason}"

structure Lead where
  bits : Nat
  following : Nat
  least : Nat
  greatest : Nat

/-- The first byte of a character: the second byte is bounded so that no code point has two forms,
is a surrogate or lies beyond U+10FFFF. -/
def lead? (byte : Nat) : Option Lead :=
  if byte < 0x80 then some ⟨byte, 0, 0x80, 0xbf⟩
  else if byte < 0xc2 then none
  else if byte < 0xe0 then some ⟨byte - 0xc0, 1, 0x80, 0xbf⟩
  else if byte < 0xf0 then
    some ⟨byte - 0xe0, 2, if byte == 0xe0 then 0xa0 else 0x80, if byte == 0xed then 0x9f else 0xbf⟩
  else if byte < 0xf5 then
    some ⟨byte - 0xf0, 3, if byte == 0xf0 then 0x90 else 0x80, if byte == 0xf4 then 0x8f else 0xbf⟩
  else none

structure Partial where
  start : Nat
  byte : Nat
  bits : Nat
  taken : Nat
  owed : Nat
  least : Nat
  greatest : Nat

/-- Reads bytes from the position `position` on. `found` holds the characters before it, last one
first, and `current` the character that the bytes just before it have begun. -/
def decodeFrom (position : Nat) (found : List Char) (current : Option Partial) :
    List UInt8 → Except Error (List Char)
  | [] =>
    match current with
    | none => .ok found.reverse
    | some p => .error ⟨p.start, p.byte, p.taken, .endOfData⟩
  | b :: rest =>
    let byte := b.toNat
    match current with
    | none =>
      match lead? byte with
      | none => .error ⟨position, byte, 1, .startByte⟩
      | some lead =>
        if lead.following == 0 then decodeFrom (position + 1) (Char.ofNat byte :: found) none rest
        else
          decodeFrom (position + 1) found
            (some ⟨position, byte, lead.bits, 1, lead.following, lead.least, lead.greatest⟩) rest
    | some p =>
      if byte < p.least || p.greatest < byte then
        .error ⟨p.start, p.byte, p.taken, .continuationByte⟩
      else
        let bits := p.bits * 64 + (byte - 0x80)
        if p.owed == 1 then decodeFrom (position + 1) (Char.ofNat bits :: found) none rest
        else
          decodeFrom (position + 1) found
            (some ⟨p.start, p.byte, bits, p.taken + 1, p.owed - 1, 0x80, 0xbf⟩) rest

def decode (bytes : List UInt8) : Except Error (List Char) :=
  decodeFrom 0 [] none bytes

def decodeLossyWithin : (fuel : Nat) → List UInt8 → List Char
  | 0, _ => []
  | fuel + 1, bytes =>
    match decode bytes with
    | .ok text => text
    | .error error =>
      let sound := (decode (bytes.take error.start)).toOption.getD []
      sound ++ '\ufffd' :: decodeLossyWithin fuel (bytes.drop (error.start + error.length))

def decodeLossy (bytes : List UInt8) : List Char :=
  decodeLossyWithin (bytes.length + 1) bytes

end ArgHints.Text.Utf8
