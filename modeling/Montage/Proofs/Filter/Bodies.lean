import Montage.Filter
import Montage.Proofs.Graph.Brackets
import Montage.Proofs.Graph.Labels

/-!
# Bodies of filters

Every body that the routes write is made of words, that is letters, digits and
a few marks, with commas between them. It does not end in a comma, and it
quotes only the time window of an overlay. So each of them is a body that a
reader finds between its labels (`Fragment.IsBody`).
-/

namespace Montage

open Montage.Fragment

/-! ## Characters -/

/-- A character of a filter's name, its options and their values. -/
def isWordChar (c : Char) : Bool := c.isAlphanum || "=:.-_()/@".toList.contains c

/-- A character of filters one after the other. -/
def isFilterChar (c : Char) : Bool := isWordChar c || c = ','

theorem isAlphanum_of_isBlank {c : Char} (blank : Text.isBlank c = true) :
    c.isAlphanum = false := by
  unfold Text.isBlank at blank
  simp only [Bool.or_eq_true, Bool.and_eq_true, decide_eq_true_eq, beq_iff_eq] at blank
  -- the ranges of the capitals, the small letters and the digits
  show ((decide (65 ≤ c.val ∧ c.val ≤ 90) || (decide (97 ≤ c.val) && decide (c.val ≤ 122))) ||
    (decide (48 ≤ c.val) && decide (c.val ≤ 57))) = false
  simp [UInt32.le_iff_toNat_le]
  omega

theorem isBlank_eq_false {c : Char} (written : isFilterChar c = true) :
    Text.isBlank c = false := by
  cases blank : Text.isBlank c with
  | false => rfl
  | true =>
      -- no mark is blank, and neither is a letter or a digit
      have mark : (',' :: "=:.-_()/@".toList).all (!Text.isBlank ·) = true := by decide
      simp only [isFilterChar, isWordChar, isAlphanum_of_isBlank blank, Bool.false_or,
        Bool.or_eq_true, List.contains_iff_mem, decide_eq_true_eq] at written
      have solid := List.all_eq_true.mp mark c (List.mem_cons.mpr written.symm)
      rw [blank] at solid
      exact absurd solid (by decide)

theorem isOrdinary_of_isFilterChar {c : Char} (written : isFilterChar c = true) :
    IsOrdinary c ∧ IsPlain c := by
  have other : ∀ mark, isFilterChar mark = false → c ≠ mark := by
    rintro mark unwritten rfl
    rw [written] at unwritten
    exact absurd unwritten (by decide)
  exact ⟨⟨isBlank_eq_false written, other _ (by decide), other _ (by decide),
    other _ (by decide), other _ (by decide)⟩, other _ (by decide), other _ (by decide)⟩

/-- A text made of allowed characters. -/
def IsMadeOf (allowed : Char → Bool) (text : String) : Prop := text.toList.all allowed = true

instance (allowed : Char → Bool) (text : String) : Decidable (IsMadeOf allowed text) :=
  inferInstanceAs (Decidable (_ = _))

section

variable {allowed : Char → Bool} {text more : String}

theorem IsMadeOf.mem (made : IsMadeOf allowed text) {c : Char} (member : c ∈ text.toList) :
    allowed c = true := List.all_eq_true.mp made c member

theorem isMadeOf_append :
    IsMadeOf allowed (text ++ more) ↔ IsMadeOf allowed text ∧ IsMadeOf allowed more := by
  simp [IsMadeOf]

/-- Words are parts of filters. -/
theorem IsMadeOf.filters (made : IsMadeOf isWordChar text) : IsMadeOf isFilterChar text :=
  List.all_eq_true.mpr fun c member => by simp [isFilterChar, made.mem member]

theorem IsMadeOf.comma_notMem (made : IsMadeOf isWordChar text) : ',' ∉ text.toList :=
  fun member => absurd (made.mem member) (by decide)

theorem isMadeOf_intercalate {parts : List String}
    (each : ∀ part ∈ parts, IsMadeOf isFilterChar part) :
    IsMadeOf isFilterChar (",".intercalate parts) := by
  induction parts with
  | nil => rw [String.intercalate_nil]; decide
  | cons part rest ih =>
      rw [List.forall_mem_cons] at each
      cases rest with
      | nil => rw [String.intercalate_singleton]; exact each.1
      | cons next others =>
          rw [String.intercalate_cons_cons, isMadeOf_append, isMadeOf_append]
          exact ⟨⟨each.1, by decide⟩, ih each.2⟩

end

/-! ## Numbers -/

theorem isMadeOf_of_digits {text : String} (digits : ∀ c ∈ text.toList, c.isDigit = true) :
    IsMadeOf isWordChar text := by
  refine List.all_eq_true.mpr fun c member => ?_
  simp [isWordChar, Char.isAlphanum, digits c member]

theorem isMadeOf_nat (n : Nat) : IsMadeOf isWordChar (toString n) := by
  refine isMadeOf_of_digits fun c member => ?_
  simp only [Nat.toString_eq_repr, Nat.toList_repr] at member
  exact toDigits_isDigit member

theorem isMadeOf_zeros (count : Nat) : IsMadeOf isWordChar (zeros count) := by
  refine isMadeOf_of_digits fun c member => ?_
  simp only [zeros, String.toList_ofList, List.mem_replicate] at member
  rw [member.2]
  decide

theorem isMadeOf_withPoint {digits : String} (made : IsMadeOf isWordChar digits) (places : Nat) :
    IsMadeOf isWordChar (Decimal.withPoint digits places) := by
  have padded : IsMadeOf isWordChar (zeros (places + 1 - digits.length) ++ digits) :=
    isMadeOf_append.mpr ⟨isMadeOf_zeros _, made⟩
  unfold Decimal.withPoint
  rw [isMadeOf_append, isMadeOf_append]
  refine ⟨⟨?_, by decide⟩, ?_⟩ <;> refine List.all_eq_true.mpr fun c member => ?_ <;>
    rw [String.toList_ofList] at member
  · exact padded.mem (List.mem_of_mem_take member)
  · exact padded.mem (List.mem_of_mem_drop member)

theorem isMadeOf_decimal (decimal : Decimal) : IsMadeOf isWordChar decimal.plainText := by
  unfold Decimal.plainText
  split
  · exact isMadeOf_append.mpr ⟨isMadeOf_nat _, isMadeOf_zeros _⟩
  · exact isMadeOf_withPoint (isMadeOf_nat _) _

/-- Every number is written with letters, digits, a point and a sign. -/
theorem isMadeOf_plainText (x : Binary64) : IsMadeOf isWordChar x.plainText := by
  cases x with
  | nan => decide
  | infinite negative => cases negative <;> decide
  | finite negative rank =>
      unfold Binary64.plainText
      refine isMadeOf_append.mpr ⟨by cases negative <;> decide, ?_⟩
      split
      · decide
      · exact isMadeOf_decimal _

theorem isMadeOf_number (x : Binary64) : IsMadeOf isWordChar (Filter.number x) :=
  isMadeOf_plainText _

/-! ## Ends of bodies -/

/-- A text that is not empty and does not end in a comma. -/
def EndsInFilter (text : String) : Prop := ∃ c ∈ text.toList.getLast?, c ≠ ','

instance (text : String) : Decidable (EndsInFilter text) :=
  match last : text.toList.getLast? with
  | none => .isFalse fun ⟨c, found, _⟩ => by rw [last] at found; cases found
  | some c =>
    if comma : c = ',' then .isFalse fun ⟨other, found, differs⟩ => by
      rw [last] at found
      exact differs (Option.some.inj found ▸ comma)
    else .isTrue ⟨c, last, comma⟩

namespace EndsInFilter

variable {text more : String}

theorem append (text : String) (ends : EndsInFilter more) : EndsInFilter (text ++ more) := by
  obtain ⟨c, last, differs⟩ := ends
  refine ⟨c, ?_, differs⟩
  rw [String.toList_append]
  exact List.mem_getLast?_append_of_mem_getLast? last

/-- Words can be added at the end, even none. -/
theorem append_word (ends : EndsInFilter text) (word : IsMadeOf isWordChar more) :
    EndsInFilter (text ++ more) := by
  cases last : more.toList.getLast? with
  | none =>
      have empty : more = "" := String.toList_eq_nil_iff.mp (List.getLast?_eq_none_iff.mp last)
      rwa [empty, String.append_empty]
  | some c =>
      refine append text ⟨c, last, ?_⟩
      rintro rfl
      exact word.comma_notMem (List.mem_of_getLast? last)

theorem intercalate {parts : List String} (some : parts ≠ [])
    (each : ∀ part ∈ parts, EndsInFilter part) : EndsInFilter (",".intercalate parts) := by
  induction parts with
  | nil => exact absurd rfl some
  | cons part rest ih =>
      rw [List.forall_mem_cons] at each
      cases rest with
      | nil => rw [String.intercalate_singleton]; exact each.1
      | cons next others =>
          rw [String.intercalate_cons_cons]
          exact (ih (List.cons_ne_nil _ _) each.2).append _

end EndsInFilter

/-! ## Bodies -/

/-- A text of filters that ends in one. -/
theorem isBody_of_filters {text : String} (made : IsMadeOf isFilterChar text)
    (ends : EndsInFilter text) : IsBody text.toList where
  ordinary := fun _ member => (isOrdinary_of_isFilterChar (made.mem member)).1
  closed := after_of_isPlain rfl fun _ member => (isOrdinary_of_isFilterChar (made.mem member)).2
  ends := by
    obtain ⟨c, last, differs⟩ := ends
    obtain ⟨front, split⟩ := List.getLast?_eq_some_iff.mp last
    exact ⟨front, [c], split, List.cons_ne_nil _ _, by simpa using Ne.symm differs⟩

/-- A text of filters whose last option is quoted. -/
theorem isBody_of_quoted {text value : String} (made : IsMadeOf isFilterChar text)
    (made' : IsMadeOf isFilterChar value) :
    IsBody (text ++ "'" ++ value ++ "'").toList := by
  have chars : (text ++ "'" ++ value ++ "'").toList =
      text.toList ++ '\'' :: (value.toList ++ ['\'']) := by simp
  rw [chars]
  refine ⟨?_, ?_, text.toList ++ '\'' :: value.toList, ['\''], by simp, by simp, by decide⟩
  · have quote : IsOrdinary '\'' := by constructor <;> decide
    rw [List.forall_mem_append, List.forall_mem_cons, List.forall_mem_append,
      List.forall_mem_singleton]
    exact ⟨fun c member => (isOrdinary_of_isFilterChar (made.mem member)).1, quote,
      fun c member => (isOrdinary_of_isFilterChar (made'.mem member)).1, quote⟩
  · -- the first quote opens, the value leaves it open, and the last one closes it
    have before : QuoteState.after {} text.toList = {} :=
      after_of_isPlain rfl fun _ member => (isOrdinary_of_isFilterChar (made.mem member)).2
    have inside : QuoteState.after ⟨true, false⟩ value.toList = ⟨true, false⟩ :=
      after_of_isPlain rfl fun _ member => (isOrdinary_of_isFilterChar (made'.mem member)).2
    have opens : QuoteState.step {} '\'' = ⟨true, false⟩ := by decide
    unfold EndsUnquoted
    rw [QuoteState.after_append, before, QuoteState.after_cons, opens, QuoteState.after_append,
      inside]
    decide

/-! ## The bodies of the routes -/

/-- What holds of every digit holds of those of a colour. -/
theorem Color.forall_mem_digits {holds : Char → Prop} (each : ∀ n < 16, holds (digit n))
    (color : Color) : ∀ c ∈ color.digits, holds c := by
  have component : ∀ part : UInt8, ∀ c ∈ componentDigits part, holds c := by
    intro part
    have bound := part.toNat_lt
    simp only [componentDigits, List.forall_mem_cons]
    exact ⟨each _ (by omega), each _ (by omega), fun _ none => absurd none List.not_mem_nil⟩
  rw [digits, List.forall_mem_append, List.forall_mem_append]
  exact ⟨⟨component color.red, component color.green⟩, component color.blue⟩

theorem isMadeOf_filterText (color : Color) : IsMadeOf isWordChar color.filterText := by
  refine isMadeOf_append.mpr ⟨by decide, List.all_eq_true.mpr ?_⟩
  rw [String.toList_ofList]
  exact color.forall_mem_digits (by decide)

theorem isMadeOf_axis (extent : Option UInt32) : IsMadeOf isWordChar (Filter.axis extent) := by
  cases extent with
  | none => decide
  | some extent => exact isMadeOf_nat _

theorem isMadeOf_enableWindow (start : Binary64) (finish : Option Binary64) :
    IsMadeOf isFilterChar (Filter.enableWindow start finish) := by
  unfold Filter.enableWindow
  split <;> simp only [isMadeOf_append, (isMadeOf_number _).filters, and_true] <;> decide

namespace Filter

theorem isBody_normalizeVideo (target : Resolution) (fps : Binary64) :
    IsBody (normalizeVideo target fps).toList := by
  unfold normalizeVideo
  simp only
  refine isBody_of_filters ?_ (.append _ (by decide))
  simp only [isMadeOf_append, (isMadeOf_nat _).filters, (isMadeOf_number _).filters, and_true]
  decide

theorem isBody_normalizeAudio (rate : UInt32) : IsBody (normalizeAudio rate).toList := by
  unfold normalizeAudio
  refine isBody_of_filters ?_ (.append _ (by decide))
  simp only [isMadeOf_append, (isMadeOf_nat _).filters, and_true]
  decide

theorem isBody_silentAudio (rate : UInt32) (duration : Binary64) :
    IsBody (silentAudio rate duration).toList := by
  unfold silentAudio
  refine isBody_of_filters ?_ (.append _ (by decide))
  simp only [isMadeOf_append, (isMadeOf_nat _).filters, (isMadeOf_number _).filters,
    and_true]
  decide

theorem isBody_concat (segments : Nat) (video audio : Bool) :
    IsBody (concat segments video audio).toList := by
  unfold concat
  refine isBody_of_filters ?_ (.append_word (.append _ (by decide)) (isMadeOf_nat _))
  simp only [isMadeOf_append, (isMadeOf_nat _).filters, and_true]
  decide

theorem isBody_timePad (seconds : Binary64) : IsBody (timePad seconds).toList := by
  unfold timePad
  refine isBody_of_filters ?_ (.append _ (by decide))
  simp only [isMadeOf_append, (isMadeOf_number _).filters, and_true]
  decide

theorem isBody_colorKey (color : Color) (similarity blend : Binary64) :
    IsBody (colorKey color similarity blend).toList := by
  unfold colorKey
  refine isBody_of_filters ?_ (.append_word (.append _ (by decide)) (isMadeOf_number _))
  simp only [isMadeOf_append, (isMadeOf_filterText _).filters,
    (isMadeOf_number _).filters, and_true]
  decide

theorem isMadeOf_scale (width height : Option UInt32) :
    IsMadeOf isFilterChar (scale width height) := by
  unfold scale
  simp only [isMadeOf_append, (isMadeOf_axis _).filters, and_true]
  decide

theorem endsInFilter_scale (width height : Option UInt32) : EndsInFilter (scale width height) := by
  unfold scale
  exact .append_word (.append _ (by decide)) (isMadeOf_axis _)

theorem isMadeOf_alpha (opacity : Binary64) : IsMadeOf isFilterChar (alpha opacity) := by
  unfold alpha
  exact isMadeOf_append.mpr ⟨by decide, (isMadeOf_number _).filters⟩

theorem endsInFilter_alpha (opacity : Binary64) : EndsInFilter (alpha opacity) := by
  unfold alpha
  exact .append_word (by decide) (isMadeOf_number _)

theorem isBody_overlay (position : Position) {window : Option String}
    (made : ∀ text ∈ window, IsMadeOf isFilterChar text) :
    IsBody (overlay position window).toList := by
  have fixed : ∀ more : String, IsMadeOf isFilterChar more →
      IsMadeOf isFilterChar ("overlay=x=" ++ (coordinates position).1 ++ ":y=" ++
        (coordinates position).2 ++ ":format=auto" ++ more) := by
    intro more made'
    rw [isMadeOf_append]
    exact ⟨by cases position <;> decide, made'⟩
  cases window with
  | none => exact isBody_of_filters (fixed "" (by decide)) (by cases position <;> decide)
  | some window =>
      have body := isBody_of_quoted (fixed ":enable=" (by decide)) (made window rfl)
      have same : overlay position (some window) = "overlay=x=" ++ (coordinates position).1 ++
          ":y=" ++ (coordinates position).2 ++ ":format=auto" ++ ":enable=" ++ "'" ++ window ++
            "'" := by
        have option : (":enable='" : String) = ":enable=" ++ "'" := by decide
        unfold overlay
        simp only [option, String.append_assoc]
      rw [same]
      exact body

/-- A time window delays or trims. -/
theorem isBody_audioTiming {start : Binary64} {finish : Option Binary64}
    (timed : 0 < start ∨ finish.isSome) : IsBody (audioTiming start finish).toList := by
  unfold audioTiming
  refine isBody_of_filters (isMadeOf_intercalate ?_) (.intercalate ?_ ?_)
  · rw [List.forall_mem_append]
    refine ⟨fun part member => ?_, fun part member => ?_⟩
    · obtain ⟨-, found⟩ := List.mem_ite_nil_right.mp member
      rw [List.mem_singleton.mp found]
      simp only [isMadeOf_append, (isMadeOf_number _).filters, and_true]
      decide
    · obtain ⟨value, -, rfl⟩ := Option.map_eq_some_iff.mp (Option.mem_toList.mp member)
      exact isMadeOf_append.mpr ⟨by decide, (isMadeOf_number _).filters⟩
  · rcases timed with delayed | trimmed
    · simp [delayed]
    · obtain ⟨value, rfl⟩ := Option.isSome_iff_exists.mp trimmed
      simp
  · rw [List.forall_mem_append]
    refine ⟨fun part member => ?_, fun part member => ?_⟩
    · obtain ⟨-, found⟩ := List.mem_ite_nil_right.mp member
      rw [List.mem_singleton.mp found]
      exact .append _ (by decide)
    · obtain ⟨value, -, rfl⟩ := Option.map_eq_some_iff.mp (Option.mem_toList.mp member)
      exact .append_word (by decide) (isMadeOf_number _)

theorem isBody_mix (inputs : Nat) : IsBody (mix inputs).toList := by
  unfold mix
  refine isBody_of_filters ?_ (.append _ (by decide))
  simp only [isMadeOf_append, (isMadeOf_nat _).filters, and_true]
  decide

end Filter

end Montage
