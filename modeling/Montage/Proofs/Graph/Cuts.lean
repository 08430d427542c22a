import Montage.Proofs.Graph.Chains

/-!
# Cuts

Splitting a text loses nothing: its parts with the separator between them are
the text (`intercalate_splitFrom`). It is cut at the separators that are
neither escaped nor inside quotes and nowhere else, where a character is
escaped by a backslash before it that is not escaped itself, and inside quotes
after an odd number of quotes that are not escaped (`joints_splitUnquoted`).
-/

namespace Montage.Fragment

variable {separator c : Char} {cs : List Char} {place : Nat}

/-! ## Places in a text -/

/-- Whether a backslash that is not escaped itself stands before a place. -/
def isEscapedAt (cs : List Char) : Nat → Bool
  | 0 => false
  | place + 1 => decide (cs[place]? = some '\\') && !isEscapedAt cs place

/-- Whether a quote that is not escaped stands at a place. -/
def isQuoteAt (cs : List Char) (place : Nat) : Bool :=
  decide (cs[place]? = some '\'') && !isEscapedAt cs place

/-- Whether a place is inside quotes: an odd number of them stands before it. -/
def isQuotedAt (cs : List Char) (place : Nat) : Bool :=
  (List.range place).countP (isQuoteAt cs) % 2 == 1

/-- Whether a place is outside quotes and not escaped. -/
def isOpenAt (cs : List Char) (place : Nat) : Bool := !isQuotedAt cs place && !isEscapedAt cs place

/-- The places of the separators that count. -/
def separatorPlaces (separator : Char) (cs : List Char) : List Nat :=
  (List.range cs.length).filter fun place =>
    decide (cs[place]? = some separator) && isOpenAt cs place

/-- The places of the separators between some parts, in the text that they make. -/
def joints : List (List Char) → List Nat
  | part :: next :: rest => part.length :: (joints (next :: rest)).map (part.length + 1 + ·)
  | _ => []

theorem isQuotedAt_succ (cs : List Char) (place : Nat) :
    isQuotedAt cs (place + 1) = (isQuotedAt cs place ^^ isQuoteAt cs place) := by
  unfold isQuotedAt
  rw [List.range_succ, List.countP_append, List.countP_singleton]
  cases isQuoteAt cs place with
  | false => simp
  | true =>
      have parity := Nat.mod_two_eq_zero_or_one ((List.range place).countP (isQuoteAt cs))
      rcases parity with even | odd
      · simp [Nat.add_mod, even]
      · simp [Nat.add_mod, odd]

/-- The scanner's state at a place is what the text before it says. -/
theorem after_take (within : place ≤ cs.length) :
    QuoteState.after {} (cs.take place) = ⟨isQuotedAt cs place, isEscapedAt cs place⟩ := by
  induction place with
  | zero => rfl
  | succ place ih =>
      have inside : place < cs.length := within
      rw [List.take_succ_eq_append_getElem inside, QuoteState.after_append,
        ih (Nat.le_of_lt inside)]
      have here : cs[place]? = some cs[place] := List.getElem?_eq_getElem inside
      rw [isQuotedAt_succ, isEscapedAt]
      unfold isQuoteAt
      rw [here]
      cases isEscapedAt cs place with
      | true => simp [QuoteState.step]
      | false =>
          by_cases backslash : cs[place] = '\\'
          · simp [QuoteState.step, backslash]
          · by_cases quote : cs[place] = '\''
            · simp [QuoteState.step, quote]
            · simp [QuoteState.step, backslash, quote]

/-- A text ends outside quotes and escapes if the place after it does. -/
theorem endsUnquoted_iff : EndsUnquoted cs ↔ isOpenAt cs cs.length = true := by
  have whole := after_take (Nat.le_refl cs.length)
  rw [List.take_length] at whole
  rw [EndsUnquoted, whole]
  simp [isOpenAt]

/-! ## Parts of a text -/

theorem intercalate_kept (separator c : Char) {parts : List (List Char)} (some : parts ≠ []) :
    [separator].intercalate (parts.modifyHead (c :: ·)) =
      c :: [separator].intercalate parts := by
  obtain ⟨part, rest, rfl⟩ := List.exists_cons_of_ne_nil some
  cases rest with
  | nil => simp
  | cons next rest =>
      rw [List.modifyHead_cons, List.intercalate_cons_cons, List.intercalate_cons_cons]
      rfl

/-- The parts with the separator between them are the text. -/
theorem intercalate_splitFrom (separator : Char) (state : QuoteState) (cs : List Char) :
    [separator].intercalate (splitFrom separator state cs) = cs := by
  induction cs generalizing state with
  | nil => rfl
  | cons c rest ih =>
      cases cut : (decide (c = separator) && state.isOpen) with
      | true =>
          have equal : c = separator := of_decide_eq_true (Bool.and_eq_true_iff.mp cut).1
          rw [splitFrom_cut cut, List.intercalate_cons_of_ne_nil (splitFrom_ne_nil _ _ _), ih,
            equal]
          rfl
      | false => rw [splitFrom_kept cut, intercalate_kept _ _ (splitFrom_ne_nil _ _ _), ih]

theorem joints_cut {parts : List (List Char)} (some : parts ≠ []) :
    joints ([] :: parts) = 0 :: (joints parts).map Nat.succ := by
  obtain ⟨part, rest, rfl⟩ := List.exists_cons_of_ne_nil some
  simp [joints, Nat.add_comm]

theorem joints_kept (c : Char) (parts : List (List Char)) :
    joints (parts.modifyHead (c :: ·)) = (joints parts).map Nat.succ := by
  cases parts with
  | nil => rfl
  | cons part rest =>
      cases rest with
      | nil => rfl
      | cons next rest => simp [joints, Nat.add_right_comm]

theorem joints_splitFrom (plain : IsPlain separator) (state : QuoteState) (cs : List Char) :
    joints (splitFrom separator state cs) =
      (List.range cs.length).filter fun place =>
        decide (cs[place]? = some separator) && (state.after (cs.take place)).isOpen := by
  induction cs generalizing state with
  | nil => rfl
  | cons c rest ih =>
      -- what counts at a later place is told from the state after the first character
      have later : (fun place => decide ((c :: rest)[place]? = some separator) &&
          (state.after ((c :: rest).take place)).isOpen) ∘ Nat.succ =
          fun place => decide (rest[place]? = some separator) &&
            ((state.step c).after (rest.take place)).isOpen := by
        funext place
        simp
      have first : (decide ((c :: rest)[0]? = some separator) &&
          (state.after ((c :: rest).take 0)).isOpen) =
          (decide (c = separator) && state.isOpen) := by
        simp
      rw [List.length_cons, List.range_succ_eq_map, List.filter_cons, List.filter_map, later, first,
        ← ih]
      cases cut : (decide (c = separator) && state.isOpen) with
      | true =>
          rw [splitFrom_cut cut, joints_cut (splitFrom_ne_nil _ _ _), step_of_cut plain cut,
            if_pos rfl]
      | false => rw [splitFrom_kept cut, joints_kept, if_neg Bool.false_ne_true]

/-- A text is cut at the separators that count. -/
theorem joints_splitUnquoted (plain : IsPlain separator) (cs : List Char) :
    joints (splitUnquoted separator cs) = separatorPlaces separator cs := by
  rw [splitUnquoted, joints_splitFrom plain]
  refine List.filter_congr fun place member => ?_
  rw [after_take (Nat.le_of_lt (List.mem_range.mp member))]
  rfl

/-! ## Splitting -/

/-- Splitting loses nothing and cuts at the separators that count, and a text that
ends where one would count is split apart from what follows the separator. -/
theorem splits_exactly (plain : IsPlain separator) (cs : List Char) :
    [separator].intercalate (splitUnquoted separator cs) = cs ∧
    joints (splitUnquoted separator cs) = separatorPlaces separator cs ∧
    (isOpenAt cs cs.length = true → ∀ rest,
      splitUnquoted separator (cs ++ separator :: rest) =
        splitUnquoted separator cs ++ splitUnquoted separator rest) :=
  ⟨intercalate_splitFrom separator {} cs, joints_splitUnquoted plain cs, fun opened rest =>
    splitFrom_append_closed plain (endsUnquoted_iff.mpr opened) rest⟩

/-- A text with separators that do not count: after a backslash, in quotes, and
behind a quote that a backslash takes the meaning of. -/
def guarded : List Char := "a\\\\;b\\;c;'d;\\';e';;f".toList

theorem splits_exactly_guarded :
    [';'].intercalate (splitUnquoted ';' guarded) = guarded ∧
    joints (splitUnquoted ';' guarded) = [3, 8, 17, 18] ∧
    splitUnquoted ';' (guarded ++ ';' :: "'x;y'".toList) =
      ["a\\\\".toList, "b\\;c".toList, "'d;\\';e'".toList, [], "f".toList, "'x;y'".toList] := by
  obtain ⟨whole, cuts, apart⟩ := splits_exactly isPlain_semicolon guarded
  refine ⟨whole, ?_, ?_⟩
  · rw [cuts]
    decide
  · rw [apart (by decide) "'x;y'".toList]
    decide

end Montage.Fragment
