import HeaderOrder.Text.Basic

/-!
# UTF-8

Text is written as UTF-8 and read back strictly: overlong forms, surrogates and code points above
`0x10FFFF` are refused.  Reading goes byte by byte.  Inside a sequence the reader knows which bytes
may come next, so the bytes that it holds when it fails are the longest start of a well-formed
sequence, and these are the bytes that the error reports.
-/

namespace HeaderOrder.Text.Utf8

/-- The bytes of a text. -/
def encode (text : Text) : List UInt8 :=
  text.flatMap String.utf8EncodeChar

/-- Why bytes are not UTF-8. -/
inductive Fault where
  /-- The byte starts no sequence. -/
  | invalidStart
  /-- The byte after the reported ones is not allowed there. -/
  | invalidContinuation
  /-- The bytes end inside a sequence. -/
  | unexpectedEnd
  deriving Repr, DecidableEq

/-- A decoding error: the offset of the bad bytes, the bytes, and the fault. -/
structure DecodeError where
  start : Nat
  bytes : List UInt8
  fault : Fault
  deriving Repr, DecidableEq

/-- The reader's state: between characters, or inside a sequence.  There it holds the bytes read,
the value of their payload bits, how many bytes are missing, and the range of the next one. -/
inductive State where
  | ready
  | within (taken : List UInt8) (payload missing low high : Nat)
  deriving Repr, DecidableEq

/-- The state after a byte that starts a sequence of two bytes or more. -/
def State.ofLead? (byte : UInt8) : Option State :=
  let code := byte.toNat
  if code < 0xC2 then none
  else if code < 0xE0 then some (.within [byte] (code - 0xC0) 1 0x80 0xBF)
  else if code = 0xE0 then some (.within [byte] 0 2 0xA0 0xBF)
  else if code = 0xED then some (.within [byte] 0xD 2 0x80 0x9F)
  else if code < 0xF0 then some (.within [byte] (code - 0xE0) 2 0x80 0xBF)
  else if code = 0xF0 then some (.within [byte] 0 3 0x90 0xBF)
  else if code < 0xF4 then some (.within [byte] (code - 0xF0) 3 0x80 0xBF)
  else if code = 0xF4 then some (.within [byte] 4 3 0x80 0x8F)
  else none

/-- Read bytes, the first of which has the given offset, after the characters in `decoded`, which
stand backwards. -/
def decodeFrom (offset : Nat) (decoded : Text) : State → List UInt8 → Except DecodeError Text
  | .ready, [] => .ok decoded.reverse
  | .within taken _ _ _ _, [] => .error ⟨offset - taken.length, taken, .unexpectedEnd⟩
  | .ready, byte :: rest =>
      if byte.toNat < 0x80 then
        decodeFrom (offset + 1) (Char.ofNat byte.toNat :: decoded) .ready rest
      else
        match State.ofLead? byte with
        | some state => decodeFrom (offset + 1) decoded state rest
        | none => .error ⟨offset, [byte], .invalidStart⟩
  | .within taken payload missing low high, byte :: rest =>
      if low ≤ byte.toNat ∧ byte.toNat ≤ high then
        let extended := payload * 0x40 + (byte.toNat - 0x80)
        if missing = 1 then
          decodeFrom (offset + 1) (Char.ofNat extended :: decoded) .ready rest
        else
          decodeFrom (offset + 1) decoded
            (.within (taken ++ [byte]) extended (missing - 1) 0x80 0xBF) rest
      else
        .error ⟨offset - taken.length, taken, .invalidContinuation⟩

def decode (bytes : List UInt8) : Except DecodeError Text :=
  decodeFrom 0 [] .ready bytes

def Fault.message : Fault → Text
  | .invalidStart => "invalid start byte".toList
  | .invalidContinuation => "invalid continuation byte".toList
  | .unexpectedEnd => "unexpected end of data".toList

/-- A byte as two hexadecimal digits. -/
def hexByte (byte : UInt8) : Text :=
  [Nat.digitChar (byte.toNat / 16), Nat.digitChar (byte.toNat % 16)]

/-- Which bytes an error is about: one by its value and position, more by their positions. -/
def DecodeError.subject (error : DecodeError) : Text :=
  match error.bytes with
  | [byte] => "byte 0x".toList ++ hexByte byte ++ " in position ".toList ++ Text.ofNat error.start
  | bytes =>
      "bytes in position ".toList ++ Text.ofNat error.start ++ ['-'] ++
        Text.ofNat (error.start + bytes.length - 1)

def DecodeError.message (error : DecodeError) : Text :=
  "'utf-8' codec can't decode ".toList ++ error.subject ++ [':', ' '] ++ error.fault.message

end HeaderOrder.Text.Utf8
