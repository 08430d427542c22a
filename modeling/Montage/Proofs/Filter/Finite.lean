import Montage.Proofs.Decimal.Overflow
import Montage.Proofs.Filter.Bodies
import Mathlib.Data.List.Infix

/-!
# Finite numbers in bodies

A number that is not finite is written as a word, `inf` or `NaN`. No body has
these letters in another word, so a body has one of the words in it just when
one of its numbers is not finite (`isFiniteText_number_iff`), and which numbers
these are is said for each filter.
-/

namespace Montage

/-! ## Words in texts -/

section

variable {α : Type} {word before after : List α} {c : α}

/-- A word before a letter that it does not have ends before that letter. -/
theorem prefix_append_cons_iff (foreign : c ∉ word) :
    word <+: before ++ c :: after ↔ word <+: before := by
  constructor
  · intro front
    rcases List.prefix_or_prefix_of_prefix front (List.prefix_append before (c :: after)) with
      shorter | longer
    · exact shorter
    · obtain ⟨more, rfl⟩ := longer
      cases more with
      | nil => simp
      | cons other rest =>
          have same : other = c := by
            have inside := (List.prefix_append_right_inj before).mp front
            exact (List.cons_prefix_cons.mp inside).1
          exact absurd (List.mem_append_right before (same ▸ List.mem_cons_self)) foreign
  · exact fun front => front.trans (List.prefix_append _ _)

/-- A letter that a word does not have parts the places where it can be. -/
theorem infix_append_cons_iff (foreign : c ∉ word) :
    word <:+: before ++ c :: after ↔ word <:+: before ∨ word <:+: after := by
  induction before with
  | nil =>
      rw [List.nil_append, List.infix_cons_iff]
      have start : word <+: [] ++ c :: after ↔ word <+: [] := prefix_append_cons_iff foreign
      rw [List.nil_append] at start
      rw [start, List.infix_nil, List.prefix_nil]
  | cons first rest ih =>
      rw [List.cons_append, List.infix_cons_iff, ih, ← List.cons_append,
        prefix_append_cons_iff foreign, List.infix_cons_iff, or_assoc]

/-- So do more than one of them. -/
theorem infix_around_iff {middle : List α} (some_ : middle ≠ [])
    (foreign : ∀ c ∈ middle, c ∉ word) :
    word <:+: before ++ (middle ++ after) ↔ word <:+: before ∨ word <:+: after := by
  induction middle generalizing before with
  | nil => exact absurd rfl some_
  | cons c rest ih =>
      rw [List.forall_mem_cons] at foreign
      rw [List.cons_append, infix_append_cons_iff foreign.1]
      cases rest with
      | nil => rw [List.nil_append]
      | cons next others =>
          have inner : word <:+: [] ++ (next :: others ++ after) ↔
              word <:+: [] ∨ word <:+: after := ih (List.cons_ne_nil _ _) foreign.2
          rw [List.nil_append] at inner
          rw [inner, List.infix_nil]
          constructor
          · rintro (front | rfl | back)
            · exact .inl front
            · exact .inl List.nil_infix
            · exact .inr back
          · exact fun found => found.imp_right .inr

end

/-- A text without the words for values that are not finite. -/
def IsFiniteText (text : String) : Prop := ∀ word ∈ ["inf", "NaN"], ¬word.toList <:+: text.toList

instance (text : String) : Decidable (IsFiniteText text) :=
  decidable_of_iff (text.toList.tails.all fun rest =>
      !(['i', 'n', 'f'].isPrefixOf rest) && !(['N', 'a', 'N'].isPrefixOf rest)) <| by
    have tails : ∀ word : List Char, word <:+: text.toList ↔
        ∃ rest ∈ text.toList.tails, word <+: rest := by
      simp [List.infix_iff_prefix_suffix, and_comm]
    simp [IsFiniteText, tails, forall_and, ← List.isPrefixOf_iff_prefix]

/-- A text that parts words: it is not empty and has none of their letters. -/
structure Separates (text : String) : Prop where
  some : text ≠ ""
  foreign : ∀ c ∈ text.toList, c ∉ "infNaN".toList

section

variable {before text after : String} {x : Binary64}

theorem isFiniteText_around (separates : Separates text) :
    IsFiniteText (before ++ text ++ after) ↔ IsFiniteText before ∧ IsFiniteText after := by
  have each : ∀ word ∈ ["inf", "NaN"], word.toList <:+: (before ++ text ++ after).toList ↔
      word.toList <:+: before.toList ∨ word.toList <:+: after.toList := by
    intro word listed
    have letters : ∀ word ∈ ["inf", "NaN"], word.toList ⊆ "infNaN".toList := by decide
    rw [String.toList_append, String.toList_append, List.append_assoc]
    exact infix_around_iff (fun none => separates.some (String.toList_eq_nil_iff.mp none))
      fun c member inside => separates.foreign c member (letters word listed inside)
  unfold IsFiniteText
  rw [← forall₂_and]
  exact forall₂_congr fun word listed => by rw [each word listed, not_or]

theorem isFiniteText_append (separates : Separates text) :
    IsFiniteText (before ++ text) ↔ IsFiniteText before := by
  have nothing : IsFiniteText "" := by decide
  have around : IsFiniteText (before ++ text ++ "") ↔ IsFiniteText before ∧ IsFiniteText "" :=
    isFiniteText_around separates
  rw [String.append_empty] at around
  rw [around, and_iff_left nothing]

theorem isFiniteText_intercalate {parts : List String} (each : ∀ part ∈ parts, IsFiniteText part) :
    IsFiniteText (",".intercalate parts) := by
  have comma : Separates "," := ⟨by decide, by simp⟩
  induction parts with
  | nil =>
      rw [String.intercalate_nil]
      decide
  | cons part rest ih =>
      rw [List.forall_mem_cons] at each
      cases rest with
      | nil =>
          rw [String.intercalate_singleton]
          exact each.1
      | cons next others =>
          rw [String.intercalate_cons_cons, isFiniteText_around comma]
          exact ⟨each.1, ih each.2⟩

theorem Separates.append (separates : Separates before) (separates' : Separates text) :
    Separates (before ++ text) where
  some := fun none => by
    have chars := congrArg String.toList none
    rw [String.toList_append] at chars
    exact separates.some (String.toList_eq_nil_iff.mp (List.append_eq_nil_iff.mp chars).1)
  foreign := by
    rw [String.toList_append, List.forall_mem_append]
    exact ⟨separates.foreign, separates'.foreign⟩

/-- A text of characters that no word has, and there are some. -/
theorem separates_of_chars {c : Char} {rest : List Char} (chars : text.toList = c :: rest)
    (foreign : ∀ c ∈ text.toList, c ∉ "infNaN".toList) : Separates text where
  some := fun none => by
    rw [none] at chars
    cases chars
  foreign := foreign

theorem foreign_of_isDigit {c : Char} (digit : c.isDigit = true) : c ∉ "infNaN".toList := by
  have letters : ∀ c ∈ "infNaN".toList, c.isDigit = false := by simp
  intro member
  rw [letters c member] at digit
  cases digit

/-! ## Numbers in texts -/

theorem separates_nat (n : Nat) : Separates (toString n) := by
  obtain ⟨c, rest, split⟩ := List.exists_cons_of_ne_nil (Nat.toDigits_ne_nil (n := n) (b := 10))
  refine separates_of_chars ((toList_toString n).trans split) fun c member => ?_
  rw [toList_toString] at member
  exact foreign_of_isDigit (toDigits_isDigit member)

theorem separates_decimal {d : Decimal} (some_ : d.digits ≠ 0) : Separates d.plainText := by
  obtain ⟨front, fraction, plain⟩ := Decimal.exists_plainText some_
  obtain ⟨c, rest, split⟩ := List.exists_cons_of_ne_nil plain.whole.nonempty
  refine separates_of_chars (by rw [plain.split, split]; rfl) fun c member => ?_
  rw [plain.split, List.mem_append] at member
  rcases member with front | back
  · exact foreign_of_isDigit (plain.whole.digits c front)
  · split at back
    · cases back
    · rcases List.mem_cons.mp back with rfl | digit
      · decide
      · exact foreign_of_isDigit (plain.digits c digit)

theorem separates_signed (separates : Separates text) (negative : Bool) :
    Separates ((if negative then "-" else "") ++ text) := by
  cases negative with
  | true => exact Separates.append ⟨by decide, by simp⟩ separates
  | false => simpa using separates

/-- A finite number is written without any letter. -/
theorem separates_plainText (finite : x.isFinite = true) : Separates x.plainText := by
  obtain ⟨negative, rank, rfl⟩ := Binary64.exists_finite finite
  have layout : (Binary64.finite negative rank).plainText = (if negative then "-" else "") ++
      (if rank.val = 0 then "0" else (Decimal.shortest .up rank).plainText) := rfl
  rw [layout]
  refine separates_signed ?_ negative
  split
  · exact ⟨by decide, by simp⟩
  · rename_i some_
    exact separates_decimal ((Decimal.standsFor_shortest .up some_).digits_ne_zero some_)

/-- Other numbers are written as words. -/
theorem exists_word (infinite : x.isFinite = false) :
    ∃ word ∈ ["inf", "NaN"], word.toList <:+: x.plainText.toList := by
  cases x with
  | nan => exact ⟨"NaN", by decide, by decide⟩
  | infinite negative => exact ⟨"inf", by decide, by cases negative <;> decide⟩
  | finite negative rank => cases infinite

/-- A body has no word for a number just when the number is finite. -/
theorem isFiniteText_number_iff :
    IsFiniteText (before ++ Filter.number x ++ after) ↔
      x.isFinite = true ∧ IsFiniteText before ∧ IsFiniteText after := by
  rw [← Binary64.isFinite_add_zero x, Filter.number, Binary64.unsignedZeroText]
  cases finite : (x + 0).isFinite with
  | true => rw [isFiniteText_around (separates_plainText finite), eq_self, true_and]
  | false =>
      refine iff_of_false (fun none => ?_) (fun all => Bool.false_ne_true all.1)
      obtain ⟨word, listed, inside⟩ := exists_word finite
      refine none word listed (inside.trans ?_)
      rw [String.toList_append, String.toList_append]
      exact List.infix_append _ _ _

theorem isFiniteText_append_number_iff :
    IsFiniteText (before ++ Filter.number x) ↔ x.isFinite = true ∧ IsFiniteText before := by
  have around : IsFiniteText (before ++ Filter.number x ++ "") ↔
      x.isFinite = true ∧ IsFiniteText before ∧ IsFiniteText "" := isFiniteText_number_iff
  have nothing : IsFiniteText "" := by decide
  rwa [String.append_empty, and_iff_left nothing] at around

end

theorem separates_axis (extent : Option UInt32) : Separates (Filter.axis extent) := by
  cases extent with
  | none => exact ⟨by decide, by simp [Filter.axis]⟩
  | some extent => exact separates_nat _

theorem separates_filterText (color : Color) : Separates color.filterText := by
  have chars : color.filterText.toList = '0' :: 'x' :: color.digits := by
    simp [Color.filterText]
  refine separates_of_chars chars ?_
  rw [chars, List.forall_mem_cons, List.forall_mem_cons]
  exact ⟨by decide, by decide, color.forall_mem_digits (by decide)⟩

namespace Filter

/-! ## Bodies -/

theorem isFiniteText_normalizeVideo_iff {target : Resolution} {fps : Binary64} :
    IsFiniteText (normalizeVideo target fps) ↔ fps.isFinite = true := by
  have size : Separates (toString target.width.toNat ++ ":" ++ toString target.height.toNat) :=
    ((separates_nat _).append ⟨by decide, by simp⟩).append (separates_nat _)
  unfold normalizeVideo
  dsimp only
  rw [isFiniteText_number_iff, isFiniteText_around size, isFiniteText_around size]
  exact and_iff_left (by decide)

theorem isFiniteText_normalizeAudio (rate : UInt32) : IsFiniteText (normalizeAudio rate) := by
  unfold normalizeAudio
  rw [String.append_assoc, isFiniteText_around (separates_nat _)]
  decide

theorem isFiniteText_silentAudio_iff {rate : UInt32} {duration : Binary64} :
    IsFiniteText (silentAudio rate duration) ↔ duration.isFinite = true := by
  unfold silentAudio
  rw [String.append_assoc, isFiniteText_number_iff, isFiniteText_around (separates_nat _)]
  exact and_iff_left (by decide)

theorem isFiniteText_concat (segments : Nat) (video audio : Bool) :
    IsFiniteText (concat segments video audio) := by
  unfold concat
  rw [isFiniteText_append (separates_nat _), isFiniteText_around (separates_nat _),
    isFiniteText_around (separates_nat _)]
  decide

theorem isFiniteText_timePad_iff {seconds : Binary64} :
    IsFiniteText (timePad seconds) ↔ seconds.isFinite = true := by
  unfold timePad
  rw [isFiniteText_number_iff]
  exact and_iff_left (by decide)

theorem isFiniteText_colorKey_iff {color : Color} {similarity blend : Binary64} :
    IsFiniteText (colorKey color similarity blend) ↔
      blend.isFinite = true ∧ (similarity.larger minSimilarity).isFinite = true := by
  unfold colorKey
  rw [isFiniteText_append_number_iff, isFiniteText_number_iff,
    isFiniteText_around (separates_filterText _)]
  exact and_congr_right fun _ => and_iff_left (by decide)

theorem isFiniteText_scale (width height : Option UInt32) : IsFiniteText (scale width height) := by
  unfold scale
  rw [isFiniteText_append (separates_axis _), isFiniteText_around (separates_axis _)]
  decide

theorem isFiniteText_alpha_iff {opacity : Binary64} :
    IsFiniteText (alpha opacity) ↔ opacity.isFinite = true := by
  unfold alpha
  rw [isFiniteText_append_number_iff]
  exact and_iff_left (by decide)

theorem separates_coordinates (position : Position) :
    Separates (coordinates position).1 ∧ Separates (coordinates position).2 := by
  have foreign : ∀ text ∈ ["0", "W-w", "H-h", "(W-w)/2", "(H-h)/2"],
      ∀ c ∈ text.toList, c ∉ "infNaN".toList := by simp
  have each : ∀ text ∈ ["0", "W-w", "H-h", "(W-w)/2", "(H-h)/2"], Separates text :=
    fun text listed => ⟨by rintro rfl; exact absurd listed (by decide), foreign text listed⟩
  cases position <;> exact ⟨each _ (by decide), each _ (by decide)⟩

/-- An overlay is written with its window. -/
theorem isFiniteText_overlay_iff {position : Position} {window : Option String} :
    IsFiniteText (overlay position window) ↔
      IsFiniteText (":format=auto" ++
        (window.map fun window => ":enable='" ++ window ++ "'").getD "") := by
  obtain ⟨x, y⟩ := separates_coordinates position
  have before : IsFiniteText "overlay=x=" ∧ IsFiniteText ":y=" := by decide
  unfold overlay
  dsimp only
  rw [String.append_assoc, isFiniteText_around y, isFiniteText_around x, and_iff_right before]
  cases window <;> rfl

theorem isFiniteText_overlay_none (position : Position) : IsFiniteText (overlay position none) := by
  rw [isFiniteText_overlay_iff]
  decide

/-- A window is written with its bounds. -/
theorem isFiniteText_overlay_window_iff {position : Position} {start : Binary64}
    {finish : Option Binary64} :
    IsFiniteText (overlay position (some (enableWindow start finish))) ↔
      start.isFinite = true ∧ ∀ x ∈ finish, x.isFinite = true := by
  rw [isFiniteText_overlay_iff]
  cases finish with
  | none =>
      have texts : IsFiniteText (":format=auto" ++ ":enable='" ++ "gte(t,") ∧
          IsFiniteText (")" ++ "'") := by decide
      have split : ":format=auto" ++ (":enable='" ++ enableWindow start none ++ "'") =
          ":format=auto" ++ ":enable='" ++ "gte(t," ++ number start ++ (")" ++ "'") := by
        unfold enableWindow
        simp only [String.append_assoc]
      rw [Option.map_some, Option.getD_some, split, isFiniteText_number_iff, and_iff_left texts]
      simp
  | some finish =>
      have texts : IsFiniteText (":format=auto" ++ ":enable='" ++ "between(t,") ∧
          IsFiniteText "," := by decide
      have last : IsFiniteText (")" ++ "'") := by decide
      have split : ":format=auto" ++ (":enable='" ++ enableWindow start (some finish) ++ "'") =
          ":format=auto" ++ ":enable='" ++ "between(t," ++ number start ++ "," ++
            number finish ++ (")" ++ "'") := by
        unfold enableWindow
        simp only [String.append_assoc]
      rw [Option.map_some, Option.getD_some, split, isFiniteText_number_iff,
        isFiniteText_number_iff, and_iff_left texts, and_iff_left last, and_comm]
      simp

/-- A delay is written in milliseconds. -/
theorem isFiniteText_audioTiming_iff {start : Binary64} {finish : Option Binary64} :
    IsFiniteText (audioTiming start finish) ↔
      (0 < start → (start * 1000).isFinite = true) ∧ ∀ x ∈ finish, x.isFinite = true := by
  have trim : IsFiniteText "atrim=end=" := by decide
  have delay : IsFiniteText "adelay=delays=" ∧ IsFiniteText ":all=1" := by decide
  have both : IsFiniteText "adelay=delays=" ∧ IsFiniteText (":all=1" ++ "," ++ "atrim=end=") := by
    decide
  unfold audioTiming
  dsimp only
  by_cases delayed : 0 < start
  · rw [if_pos delayed]
    cases finish with
    | none =>
        rw [Option.map_none, Option.toList_none, List.append_nil, String.intercalate_singleton,
          isFiniteText_number_iff, and_iff_left delay]
        simp [delayed]
    | some finish =>
        have split : ",".intercalate ["adelay=delays=" ++ number (start * 1000) ++ ":all=1",
            "atrim=end=" ++ number finish] = "adelay=delays=" ++ number (start * 1000) ++
              (":all=1" ++ "," ++ "atrim=end=") ++ number finish := by
          rw [String.intercalate_cons_cons, String.intercalate_singleton]
          simp only [String.append_assoc]
        rw [Option.map_some, Option.toList_some, List.singleton_append, split,
          isFiniteText_append_number_iff, isFiniteText_number_iff, and_iff_left both, and_comm]
        simp [delayed]
  · rw [if_neg delayed, List.nil_append]
    cases finish with
    | none =>
        have nothing : IsFiniteText "" := by decide
        simpa [delayed] using nothing
    | some finish =>
        rw [Option.map_some, Option.toList_some, String.intercalate_singleton,
          isFiniteText_append_number_iff, and_iff_left trim]
        simp [delayed]

theorem isFiniteText_mix (inputs : Nat) : IsFiniteText (mix inputs) := by
  unfold mix
  rw [isFiniteText_around (separates_nat _)]
  decide

end Filter

end Montage
