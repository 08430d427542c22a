import Montage.Text.Utf8
import Montage.Json.Document
import Montage.Json.Problem

/-!
# Strings of a JSON document

A string as written becomes a text by resolving its escapes. Escapes outside
the basic plane come as two surrogates and must be paired. A document that
came as bytes keeps each byte as one character; its strings are decoded as
UTF-8 when they are read.
-/

namespace Montage.Json

/-- Whether the characters of a scanned document are characters of a text or
stand for single bytes. -/
inductive Encoding where
  | text
  | bytes
deriving DecidableEq

/-- The value of a hexadecimal digit. -/
def hexDigitValue (c : Char) : Nat :=
  if c.isDigit then c.toNat - '0'.toNat
  else if 'a' ≤ c then c.toNat - 'a'.toNat + 10
  else c.toNat - 'A'.toNat + 10

/-- The value of hexadecimal digits. -/
def hexValue (digits : List Char) : Nat :=
  digits.foldl (fun value c => 16 * value + hexDigitValue c) 0

/-- The character a short escape stands for. -/
def shortEscape : Char → Char
  | 'b' => '\x08'
  | 'f' => '\x0c'
  | 'n' => '\n'
  | 'r' => '\r'
  | 't' => '\t'
  | c => c

/-- A code unit that only has a meaning after a leading surrogate. -/
def isTrailingSurrogate (n : Nat) : Bool := 0xdc00 ≤ n && n ≤ 0xdfff

/-- A code unit that only has a meaning before a trailing surrogate. -/
def isLeadingSurrogate (n : Nat) : Bool := 0xd800 ≤ n && n ≤ 0xdbff

/-- The character of a pair of surrogates. -/
def pairedSurrogates (leading trailing : Nat) : Char :=
  Char.ofNat (0x10000 + (leading - 0xd800) * 0x400 + (trailing - 0xdc00))

/-- Resolve the escapes of a scanned string. `plain` and `escaped` say what a
character stands for that is written as itself or by an escape. -/
def unescape {α : Type} (plain escaped : Char → List α) :
    List Char → Except Problem (List α)
  | [] => .ok []
  | '\\' :: 'u' :: a :: b :: c :: d :: rest =>
    let n := hexValue [a, b, c, d]
    if isTrailingSurrogate n then .error .loneSurrogate
    else if isLeadingSurrogate n then
      match rest with
      | '\\' :: 'u' :: a :: b :: c :: d :: rest =>
        let m := hexValue [a, b, c, d]
        if isTrailingSurrogate m then
          (unescape plain escaped rest).map (escaped (pairedSurrogates n m) ++ ·)
        else .error .loneSurrogate
      | _ => .error .unfinishedEscape
    else (unescape plain escaped rest).map (escaped (Char.ofNat n) ++ ·)
  | '\\' :: c :: rest => (unescape plain escaped rest).map (escaped (shortEscape c) ++ ·)
  | c :: rest => (unescape plain escaped rest).map (plain c ++ ·)

/-- The text of a scanned string. -/
def readText (encoding : Encoding) (raw : List Char) : Except Problem String :=
  match encoding with
  | .text => (unescape (fun c => [c]) (fun c => [c]) raw).map String.ofList
  | .bytes =>
    match unescape (fun c => [c.toNat.toUInt8]) (fun c => Text.Utf8.encode c.toString) raw with
    | .error problem => .error problem
    | .ok bytes =>
      match Text.Utf8.decode? bytes with
      | some text => .ok text
      | none => .error .invalidCodePoint

end Montage.Json
