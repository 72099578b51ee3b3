/-!
# Reading UTF-8

Bytes are read as UTF-8 in the form of the Unicode standard: no overlong forms, no surrogates,
nothing above U+10FFFF. Where that fails the fault says which bytes are at fault and why; a lead
byte is refused together with the continuation bytes read after it that were still fit for it.

* `decode`: the characters, or the first fault;
* `Utf8Fault`: position, bytes and reason.
-/

namespace OrmMapping.Text

/-- Why bytes are not UTF-8. -/
inductive Utf8Reason where
  | invalidStart
  | invalidContinuation
  | unexpectedEnd
deriving DecidableEq, Repr

/-- The first place where bytes are not UTF-8: the offset, the first byte there, and how many bytes
the fault takes in. -/
structure Utf8Fault where
  position : Nat
  byte : UInt8
  width : Nat
  reason : Utf8Reason
deriving DecidableEq, Repr

/-- Outcome of reading one character: the character, how many bytes it took and what follows. -/
inductive Utf8Step where
  | char (c : Char) (width : Nat) (rest : List UInt8)
  | fault (width : Nat) (reason : Utf8Reason)

/-- Reads the further bytes of a sequence: `count` of them are missing, `value` holds the bits so
far, `width` bytes are read, and the next byte must lie between `low` and `high`. -/
def decodeMore (low high : UInt8) : (count : Nat) → (value width : Nat) → List UInt8 → Utf8Step
  | 0, value, width, rest => .char (Char.ofNat value) width rest
  | _ + 1, _, width, [] => .fault width .unexpectedEnd
  | count + 1, value, width, b :: rest =>
    if low ≤ b && b ≤ high then
      decodeMore 0x80 0xBF count (value * 64 + (b.toNat - 0x80)) (width + 1) rest
    else
      .fault width .invalidContinuation

/-- Reads the character that starts with the byte `b`. The bounds on the second byte keep out
overlong forms, surrogates and values above U+10FFFF. -/
def decodeStep (b : UInt8) (rest : List UInt8) : Utf8Step :=
  if b < 0x80 then .char (Char.ofNat b.toNat) 1 rest
  else if b < 0xC2 then .fault 1 .invalidStart
  else if b < 0xE0 then decodeMore 0x80 0xBF 1 (b.toNat - 0xC0) 1 rest
  else if b == 0xE0 then decodeMore 0xA0 0xBF 2 0 1 rest
  else if b == 0xED then decodeMore 0x80 0x9F 2 0xD 1 rest
  else if b < 0xF0 then decodeMore 0x80 0xBF 2 (b.toNat - 0xE0) 1 rest
  else if b == 0xF0 then decodeMore 0x90 0xBF 3 0 1 rest
  else if b < 0xF4 then decodeMore 0x80 0xBF 3 (b.toNat - 0xF0) 1 rest
  else if b == 0xF4 then decodeMore 0x80 0x8F 3 4 1 rest
  else .fault 1 .invalidStart

/-- Reads all characters from offset `position` on; `fuel` bounds their number. -/
def decodeFrom : (fuel position : Nat) → List UInt8 → Except Utf8Fault (List Char)
  | _, _, [] => .ok []
  | 0, position, b :: _ => .error ⟨position, b, 1, .unexpectedEnd⟩
  | fuel + 1, position, b :: rest =>
    match decodeStep b rest with
    | .fault width reason => .error ⟨position, b, width, reason⟩
    | .char c width rest' => do
      let cs ← decodeFrom fuel (position + width) rest'
      return c :: cs

/-- The characters that the bytes encode. A character takes at least one byte, so the number of
bytes bounds the number of steps. -/
def decode (bytes : List UInt8) : Except Utf8Fault (List Char) :=
  decodeFrom bytes.length 0 bytes

/-- The reason in words. -/
def Utf8Reason.message : Utf8Reason → String
  | .invalidStart => "invalid start byte"
  | .invalidContinuation => "invalid continuation byte"
  | .unexpectedEnd => "unexpected end of data"

end OrmMapping.Text
