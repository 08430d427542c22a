/-!
# Bytes as text

Bytes are decoded as UTF-8 character by character. A byte sequence that cannot
start or continue a character forms an invalid part, as long as possible;
lossy decoding puts one replacement character in the place of each such part,
strict decoding refuses the whole.
-/

namespace Montage

/-- A file's content or a process's output. -/
abbrev Bytes := List UInt8

namespace Text.Utf8

/-- The encoding of a text. -/
def encode (text : String) : Bytes := text.toUTF8.data.toList

/-- The next byte, if it lies within the given bounds. -/
def within? (low high : Nat) : Bytes → Option (Nat × Bytes)
  | [] => none
  | b :: rest => if low ≤ b.toNat && b.toNat ≤ high then some (b.toNat, rest) else none

/-- How many bytes follow a lead byte, the lead byte's share of the code
point, and the bounds of the byte after it. -/
def lead? (b : Nat) : Option (Nat × Nat × Nat × Nat) :=
  if b < 0x80 then some (0, b, 0, 0)
  else if 0xc2 ≤ b && b ≤ 0xdf then some (1, b - 0xc0, 0x80, 0xbf)
  else if b = 0xe0 then some (2, 0, 0xa0, 0xbf)
  else if b = 0xed then some (2, 0xd, 0x80, 0x9f)
  else if 0xe1 ≤ b && b ≤ 0xef then some (2, b - 0xe0, 0x80, 0xbf)
  else if b = 0xf0 then some (3, 0, 0x90, 0xbf)
  else if b = 0xf4 then some (3, 4, 0x80, 0x8f)
  else if 0xf1 ≤ b && b ≤ 0xf3 then some (3, b - 0xf0, 0x80, 0xbf)
  else none

/-- Read `count` continuation bytes onto a code point; `none` marks the end of
an invalid part. -/
def finish (count point low high : Nat) (bytes : Bytes) : Option Char × Bytes :=
  match count with
  | 0 => (some (Char.ofNat point), bytes)
  | count + 1 =>
    match within? low high bytes with
    | none => (none, bytes)
    | some (b, rest) => finish count (point * 64 + (b - 0x80)) 0x80 0xbf rest

/-- The first character of some bytes, or `none` for an invalid part, and the
bytes after it. -/
def first (b : UInt8) (rest : Bytes) : Option Char × Bytes :=
  match lead? b.toNat with
  | none => (none, rest)
  | some (count, point, low, high) => finish count point low high rest

/-- Decode at most `limit` characters or invalid parts. -/
def parts : Nat → Bytes → List (Option Char)
  | 0, _ => []
  | _, [] => []
  | limit + 1, b :: rest =>
    let (char, rest) := first b rest
    char :: parts limit rest

/-- The text of some bytes, a replacement character for each invalid part. -/
def decodeLossy (bytes : Bytes) : String :=
  String.ofList ((parts bytes.length bytes).map fun part => part.getD (Char.ofNat 0xfffd))

/-- The text of some bytes, if they are valid throughout. -/
def decode? (bytes : Bytes) : Option String :=
  ((parts bytes.length bytes).mapM id).map String.ofList

end Text.Utf8

end Montage
