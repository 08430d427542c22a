import Montage.Json.Number
import Montage.Json.Value
import Montage.Proofs.Decimal.ReadBack

/-!
# Numbers as they are written

The text of a number is a numeral of the grammar, so it is scanned as a whole
where something follows that can stand after a value (`scanNumber_append`). A
natural number of 64 bits is read back from its digits
(`ofLexeme?_toDigits`).
-/

namespace Montage.Json

open Decimal (AllDigits IsWhole)

variable {cs rest : List Char}

/-- What can stand after a value. -/
def isDelimiter (c : Char) : Bool := c = ',' || c = ']' || c = '}' || Document.isSpace c

/-- A text that can follow a value. -/
def Delimited (rest : List Char) : Prop := ∀ c ∈ rest.head?, isDelimiter c = true

theorem delimited_cons {c : Char} (delimiter : isDelimiter c = true) (rest : List Char) :
    Delimited (c :: rest) := by
  intro first here
  obtain rfl := Option.some.inj here
  exact delimiter

theorem Delimited.of_allSpace {spaces : List Char}
    (blank : ∀ c ∈ spaces, Document.isSpace c = true) (delimited : Delimited rest) :
    Delimited (spaces ++ rest) := by
  cases spaces with
  | nil => exact delimited
  | cons c more => exact delimited_cons (by simp [isDelimiter, blank c List.mem_cons_self]) _

namespace Document

/-! ## The grammar of numbers -/

/-- The fraction of a number, if there is one. -/
inductive IsFraction : List Char → Prop where
  | absent : IsFraction []
  | given {digits : List Char} (all : AllDigits digits) (some_ : digits ≠ []) :
      IsFraction ('.' :: digits)

/-- The exponent of a number, if there is one. -/
inductive IsExponent : List Char → Prop where
  | absent : IsExponent []
  | given {sign : Char} {digits : List Char} (signed : sign = '+' ∨ sign = '-')
      (all : AllDigits digits) (some_ : digits ≠ []) : IsExponent ('e' :: sign :: digits)

/-- A number without a sign. -/
inductive IsUnsigned : List Char → Prop where
  | parts {front fraction exponent : List Char} (whole : IsWhole front)
      (fractional : IsFraction fraction) (scaled : IsExponent exponent) :
      IsUnsigned (front ++ fraction ++ exponent)

/-- A number. -/
inductive IsNumeral : List Char → Prop where
  | unsigned {cs : List Char} (number : IsUnsigned cs) : IsNumeral cs
  | negative {cs : List Char} (number : IsUnsigned cs) : IsNumeral ('-' :: cs)

variable {front fraction exponent : List Char}

/-! ## Scanning numbers -/

/-- What follows the digits of a number is no digit. -/
def NoDigit (rest : List Char) : Prop := ∀ c ∈ rest.head?, c.isDigit = false

theorem NoDigit.cons {c : Char} (other : c.isDigit = false) (rest : List Char) :
    NoDigit (c :: rest) := by
  intro first here
  obtain rfl := Option.some.inj here
  exact other

theorem scanDigits_append (all : AllDigits cs) (some_ : cs ≠ []) (ends : NoDigit rest) :
    scanDigits (cs ++ rest) = some (cs, rest) := by
  have span := Decimal.spanDigits_append all ends
  unfold Decimal.spanDigits at span
  obtain ⟨digits, others⟩ := Prod.mk.inj span
  unfold scanDigits
  rw [digits, others]
  simp [some_]

theorem scanWhole_append (whole : IsWhole front) (ends : NoDigit rest) :
    scanWhole (front ++ rest) = some (front, rest) := by
  unfold scanWhole
  rw [scanDigits_append whole.digits whole.nonempty ends]
  split
  · rename_i found
    have zero := whole.leading _ (congrArg Prod.fst (Option.some.inj found))
    cases zero
  · rfl

theorem scanFraction_append (fractional : IsFraction fraction) (ends : NoDigit rest)
    (point : ∀ c ∈ rest.head?, c ≠ '.') :
    scanFraction (fraction ++ rest) = some (fraction, rest) := by
  cases fractional with
  | absent =>
      cases rest with
      | nil => rfl
      | cons c more =>
          unfold scanFraction
          split
          · rename_i equal
            exact absurd (List.cons.inj equal).1 (point c rfl)
          · rfl
  | given all some_ =>
      show (scanDigits (_ ++ rest)).map _ = _
      rw [scanDigits_append all some_ ends]
      rfl

theorem scanExponent_append (scaled : IsExponent exponent) (ends : NoDigit rest)
    (mark : ∀ c ∈ rest.head?, c ≠ 'e' ∧ c ≠ 'E') :
    scanExponent (exponent ++ rest) = some (exponent, rest) := by
  cases scaled with
  | absent =>
      cases rest with
      | nil => rfl
      | cons c more =>
          obtain ⟨small, capital⟩ := mark c rfl
          simp [scanExponent, small, capital]
  | given signed all some_ =>
      rcases signed with rfl | rfl
      · show (scanDigits (_ ++ rest)).map _ = _
        rw [scanDigits_append all some_ ends]
        rfl
      · show (scanDigits (_ ++ rest)).map _ = _
        rw [scanDigits_append all some_ ends]
        rfl

/-- A delimiter is no part of a number. -/
theorem not_isDelimiter {c : Char} (delimiter : isDelimiter c = true) :
    c.isDigit = false ∧ c ≠ '.' ∧ c ≠ 'e' ∧ c ≠ 'E' := by
  simp only [isDelimiter, isSpace, Bool.or_eq_true, decide_eq_true_eq] at delimiter
  rcases delimiter with ((rfl | rfl) | rfl) | ((rfl | rfl) | rfl) | rfl <;> decide

theorem IsExponent.noDigit (scaled : IsExponent exponent) (ends : NoDigit rest) :
    NoDigit (exponent ++ rest) := by
  cases scaled with
  | absent => exact ends
  | given => exact .cons (by decide) _

theorem IsFraction.noDigit (fractional : IsFraction fraction) (ends : NoDigit rest) :
    NoDigit (fraction ++ rest) := by
  cases fractional with
  | absent => exact ends
  | given => exact .cons (by decide) _

theorem scanUnsigned_append (number : IsUnsigned cs) (delimited : Delimited rest) :
    scanUnsigned (cs ++ rest) = some (cs, rest) := by
  obtain ⟨whole, fractional, scaled⟩ := number
  rename_i front fraction exponent
  have ends : NoDigit rest := fun c here => (not_isDelimiter (delimited c here)).1
  have point : ∀ c ∈ (exponent ++ rest).head?, c ≠ '.' := by
    intro c here
    cases scaled with
    | absent => exact (not_isDelimiter (delimited c here)).2.1
    | given =>
        obtain rfl := Option.some.inj here
        decide
  have mark : ∀ c ∈ rest.head?, c ≠ 'e' ∧ c ≠ 'E' :=
    fun c here => (not_isDelimiter (delimited c here)).2.2
  unfold scanUnsigned
  rw [List.append_assoc, List.append_assoc,
    scanWhole_append whole (fractional.noDigit (scaled.noDigit ends))]
  dsimp only [Option.bind_eq_bind, Option.bind_some]
  rw [scanFraction_append fractional (scaled.noDigit ends) point]
  dsimp only [Option.bind_some]
  rw [scanExponent_append scaled ends mark]
  dsimp only [Option.bind_some]
  rw [List.append_assoc]
  rfl

theorem IsUnsigned.head (number : IsUnsigned cs) : ∃ c more, cs = c :: more ∧ c.isDigit = true := by
  obtain ⟨whole, fractional, scaled⟩ := number
  rename_i front fraction exponent
  obtain ⟨c, more, rfl⟩ := List.exists_cons_of_ne_nil whole.nonempty
  exact ⟨c, more ++ fraction ++ exponent, by simp, whole.digits c List.mem_cons_self⟩

/-- A number is scanned as a whole. -/
theorem scanNumber_append (number : IsNumeral cs) (delimited : Delimited rest) :
    scanNumber (cs ++ rest) = some (cs, rest) := by
  cases number with
  | unsigned number =>
      obtain ⟨c, more, rfl, digit⟩ := number.head
      unfold scanNumber
      split
      · rename_i minus
        obtain rfl := (List.cons.inj minus).1
        cases digit
      · exact scanUnsigned_append number delimited
  | negative number =>
      show (scanUnsigned (_ ++ rest)).map _ = _
      rw [scanUnsigned_append number delimited]
      rfl

/-! ## Texts of numbers -/

theorem IsUnsigned.of_whole (whole : IsWhole front) : IsUnsigned front := by
  have number := IsUnsigned.parts whole .absent .absent
  rwa [List.append_nil, List.append_nil] at number

theorem isUnsigned_toDigits (n : Nat) : IsUnsigned (Nat.toDigits 10 n) :=
  .of_whole (Decimal.isWhole_toDigits n)

theorem isNumeral_toString (value : Int) : IsNumeral (toString value).toList := by
  cases value with
  | ofNat n =>
      have text : (toString (Int.ofNat n)).toList = Nat.toDigits 10 n := toList_toString n
      rw [text]
      exact .unsigned (isUnsigned_toDigits n)
  | negSucc n =>
      have text : (toString (Int.negSucc n)).toList = '-' :: Nat.toDigits 10 (n + 1) := by
        show ("-" ++ Nat.repr (n + 1)).toList = _
        rw [String.toList_append, Nat.toList_repr]
        rfl
      rw [text]
      exact .negative (isUnsigned_toDigits (n + 1))

theorem isUnsigned_pointedText {d : Decimal} (some_ : d.digits ≠ 0) :
    IsUnsigned d.pointedText.toList := by
  obtain ⟨front, fraction, plain⟩ := Decimal.exists_plainText some_
  have places := plain.places
  unfold Decimal.pointedText
  split
  · have more : fraction ≠ [] := by
      rintro rfl
      simp at places
      omega
    rw [plain.split, if_neg more]
    have number := IsUnsigned.parts plain.whole (.given plain.digits more) .absent
    rwa [List.append_nil] at number
  · obtain rfl : fraction = [] := List.length_eq_zero_iff.mp (by omega)
    rw [String.toList_append, plain.split, if_pos rfl, List.append_nil]
    have zero : IsFraction ".0".toList := .given (Decimal.allDigits_zeros 1) (by simp)
    have number := IsUnsigned.parts plain.whole zero .absent
    rwa [List.append_nil] at number

theorem isUnsigned_scientificText (d : Decimal) : IsUnsigned d.scientificText.toList := by
  obtain ⟨mantissa, written⟩ : ∃ mantissa, mantissa =
    if (toString d.digits).length = 1 then toString d.digits
    else Decimal.withPoint (toString d.digits) ((toString d.digits).length - 1) := ⟨_, rfl⟩
  have front : ∃ front fraction, mantissa.toList = front ++ fraction ∧ IsWhole front ∧
      IsFraction fraction := by
    rw [written]
    split
    · exact ⟨_, [], by rw [toList_toString, List.append_nil], Decimal.isWhole_toDigits _, .absent⟩
    · rename_i several
      obtain ⟨front, fraction, pointed⟩ :=
        Decimal.exists_withPoint d.digits ((toString d.digits).length - 1)
      refine ⟨front, '.' :: fraction, pointed.split, pointed.whole, .given pointed.digits ?_⟩
      rintro rfl
      have length := pointed.length
      have some_ : 0 < (toString d.digits).length := by
        rw [← String.length_toList, toList_toString]
        exact List.length_pos_iff.mpr Nat.toDigits_ne_nil
      rw [List.length_nil] at length
      omega
  have exponent : ∀ power : Int, IsExponent
      ((if power < 0 then "e-" else "e+") ++ toString power.natAbs).toList := by
    intro power
    rw [String.toList_append, toList_toString]
    split
    · exact .given (.inr rfl) (Decimal.allDigits_toDigits _) Nat.toDigits_ne_nil
    · exact .given (.inl rfl) (Decimal.allDigits_toDigits _) Nat.toDigits_ne_nil
  obtain ⟨front, fraction, split, whole, fractional⟩ := front
  have text : d.scientificText = mantissa ++
      ((if d.exponent + (toString d.digits).length - 1 < 0 then "e-" else "e+") ++
        toString (d.exponent + (toString d.digits).length - 1).natAbs) := by
    rw [written, ← String.append_assoc]
    rfl
  rw [text, String.toList_append, split]
  exact .parts whole fractional (exponent _)

theorem isUnsigned_jsonText {d : Decimal} (some_ : d.digits ≠ 0) :
    IsUnsigned d.jsonText.toList := by
  unfold Decimal.jsonText
  dsimp only
  split
  · exact isUnsigned_pointedText some_
  · exact isUnsigned_scientificText d

/-- The JSON text of a number is a number. -/
theorem isNumeral_jsonText {x : Binary64} {text : String} (printed : x.jsonText? = some text) :
    IsNumeral text.toList := by
  cases x with
  | nan => cases printed
  | infinite negative => cases printed
  | finite negative rank =>
      have number : IsUnsigned
          (if rank.val = 0 then "0.0" else (Decimal.shortest .even rank).jsonText).toList := by
        split
        · exact .parts (Decimal.isWhole_toDigits 0)
            (.given (Decimal.allDigits_zeros 1) (by simp)) .absent
        · rename_i some_
          exact isUnsigned_jsonText
            ((Decimal.standsFor_shortest .even some_).digits_ne_zero some_)
      obtain rfl := Option.some.inj printed
      cases negative with
      | true =>
          rw [String.toList_append]
          exact .negative number
      | false =>
          rw [String.toList_append]
          exact .unsigned number

end Document

/-! ## Reading natural numbers -/

namespace Number

open Decimal (digitValue digitsValue)

theorem le_foldl_digits (start : Nat) (cs : List Char) :
    start ≤ cs.foldl (fun value c => 10 * value + digitValue c) start := by
  induction cs generalizing start with
  | nil => exact Nat.le_refl start
  | cons c rest ih =>
      have next := ih (10 * start + digitValue c)
      rw [List.foldl_cons]
      omega

/-- Digits whose value fits a significand are all read. -/
theorem significand_of_fits {start : Nat} {cs : List Char}
    (fits : cs.foldl (fun value c => 10 * value + digitValue c) start < significandBound) :
    significand start cs =
      (cs.foldl (fun value c => 10 * value + digitValue c) start, cs.length) := by
  induction cs generalizing start with
  | nil => rfl
  | cons c rest ih =>
      rw [List.foldl_cons] at fits ⊢
      have least := le_foldl_digits (10 * start + digitValue c) rest
      unfold significand
      rw [Nat.mul_comm start 10, if_pos (by omega), ih fits]
      rfl

/-- A natural number of 64 bits is read back from its digits. -/
theorem ofLexeme?_toDigits {n : Nat} (fits : n < UInt64.size) :
    ofLexeme? (Nat.toDigits 10 n) = some (integer n) := by
  have value : (Nat.toDigits 10 n).foldl (fun value c => 10 * value + digitValue c) 0 = n :=
    Decimal.digitsValue_toDigits n
  have read : significand 0 (Nat.toDigits 10 n) = (n, (Nat.toDigits 10 n).length) := by
    rw [significand_of_fits (by rw [value]; exact fits), value]
  have lexeme : Lexeme.ofChars (Nat.toDigits 10 n) =
      ⟨false, Nat.toDigits 10 n, [], none, true⟩ := by
    have span := Decimal.spanDigits_eq (Decimal.allDigits_toDigits n)
    obtain ⟨c, more, split, digit⟩ := (Document.isUnsigned_toDigits n).head
    have minus : c ≠ '-' := by
      rintro rfl
      cases digit
    rw [split] at span ⊢
    simp [Lexeme.ofChars, minus, span]
  unfold ofLexeme?
  rw [lexeme]
  simp [read, significand]

end Number

end Montage.Json
