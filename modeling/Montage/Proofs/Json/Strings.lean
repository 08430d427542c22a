import Montage.Json.Strings
import Montage.Json.Value

/-!
# Strings as they are written

Every character is written as itself, by a short escape or by its code
(`isEscape_escapedChar`). A string as written is scanned up to its closing
quote (`scanString_rawText`) and its escapes are resolved to the text that was
written (`readText_rawText`).
-/

namespace Montage.Json

/-- A text as it stands between the quotes of a string. -/
def rawText (text : String) : List Char := text.toList.flatMap fun c => (escapedChar c).toList

theorem toList_stringText (text : String) :
    (stringText text).toList = '"' :: (rawText text ++ ['"']) := by
  simp [stringText, rawText, String.toList_join, List.flatMap_map]

/-! ## Characters -/

/-- The ways to write a character in a string. -/
inductive IsEscape (c : Char) : List Char → Prop where
  | itself (quote : c ≠ '"') (backslash : c ≠ '\\') (printed : ¬c.toNat < 0x20) : IsEscape c [c]
  | short {mark : Char} (known : Document.isShortEscape mark = true) (short : mark ≠ 'u')
      (stands : shortEscape mark = c) : IsEscape c ['\\', mark]
  | code {high low : Char} (digits : ([high, low].all Document.isHexDigit) = true)
      (value : hexValue ['0', '0', high, low] = c.toNat) (control : c.toNat < 0x20) :
      IsEscape c ['\\', 'u', '0', '0', high, low]

/-- The two digits of a control character. -/
def controlDigits (n : Nat) : List Char := [Nat.digitChar (n / 16), Nat.digitChar (n % 16)]

theorem toList_controlText :
    ∀ n < 0x20, ((if n < 0x10 then "0" else "") ++ Text.hexText n).toList = controlDigits n := by
  decide +kernel

theorem hexValue_controlDigits :
    ∀ n < 0x20, (controlDigits n).all Document.isHexDigit = true ∧
      hexValue (['0', '0'] ++ controlDigits n) = n := by
  decide +kernel

theorem isEscape_escapedChar (c : Char) : IsEscape c (escapedChar c).toList := by
  unfold escapedChar
  split
  · rename_i quote
    exact .short (by decide) (by decide) quote.symm
  rename_i quote
  split
  · rename_i backslash
    exact .short (by decide) (by decide) backslash.symm
  rename_i backslash
  split
  · rename_i newLine
    exact .short (by decide) (by decide) newLine.symm
  split
  · rename_i carriageReturn
    exact .short (by decide) (by decide) carriageReturn.symm
  split
  · rename_i tab
    exact .short (by decide) (by decide) tab.symm
  split
  · rename_i backspace
    exact .short (by decide) (by decide) backspace.symm
  split
  · rename_i formFeed
    exact .short (by decide) (by decide) formFeed.symm
  split
  · rename_i control
    obtain ⟨digits, value⟩ := hexValue_controlDigits c.toNat control
    rw [String.append_assoc, String.toList_append, toList_controlText c.toNat control]
    exact .code digits value control
  · rename_i printed
    rw [Char.toString_eq_singleton, String.toList_singleton]
    exact .itself quote backslash printed

/-! ## Scanning -/

namespace Document

theorem scanString_escape {c : Char} {cs : List Char} (escape : IsEscape c cs)
    (rest : List Char) :
    scanString (cs ++ rest) = (scanString rest).map fun (raw, rest) => (cs ++ raw, rest) := by
  cases escape with
  | itself quote backslash printed =>
      simp [scanString, backslash, printed]
  | short known short stands =>
      simp [scanString, known, short]
  | code digits value control =>
      have all : ['0', '0', _, _].all isHexDigit = true := digits
      simp [scanString, all]

/-- A string is scanned up to its closing quote. -/
theorem scanString_rawText (text : String) (rest : List Char) :
    scanString (rawText text ++ '"' :: rest) = some (rawText text, rest) := by
  unfold rawText
  induction text.toList with
  | nil => rfl
  | cons c cs ih =>
      rw [List.flatMap_cons, List.append_assoc, scanString_escape (isEscape_escapedChar c), ih]
      rfl

end Document

/-! ## Reading -/

theorem unescape_escape {c : Char} {cs : List Char} (escape : IsEscape c cs) (rest : List Char) :
    unescape (fun c => [c]) (fun c => [c]) (cs ++ rest) =
      (unescape (fun c => [c]) (fun c => [c]) rest).map (c :: ·) := by
  cases escape with
  | itself quote backslash printed =>
      simp [unescape, backslash]
  | short known short stands =>
      simp [unescape, short, stands]
  | @code high low digits value control =>
      have unpaired : isTrailingSurrogate c.toNat = false ∧ isLeadingSurrogate c.toNat = false := by
        simp only [isTrailingSurrogate, isLeadingSurrogate, Bool.and_eq_false_iff,
          decide_eq_false_iff_not]
        omega
      show unescape _ _ ('\\' :: 'u' :: '0' :: '0' :: high :: low :: rest) = _
      -- what follows would only matter after a leading surrogate
      rw [unescape.eq_def]
      simp [value, unpaired]

/-- A string is read as the text that was written. -/
theorem readText_rawText (text : String) : readText .text (rawText text) = .ok text := by
  have all : unescape (fun c => [c]) (fun c => [c]) (rawText text) = .ok text.toList := by
    unfold rawText
    induction text.toList with
    | nil => rfl
    | cons c cs ih =>
        rw [List.flatMap_cons, unescape_escape (isEscape_escapedChar c), ih]
        rfl
  unfold readText
  dsimp only
  rw [all]
  exact congrArg Except.ok String.ofList_toList

end Montage.Json
