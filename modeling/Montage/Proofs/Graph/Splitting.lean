import Montage.Graph.Fragment
import Montage.Proofs.Text.Trimming
import Mathlib.Data.List.Basic

/-!
# Splitting

A text is split at the separators that stand outside quotes and escapes. What
a text says about the characters after it is its last quoting state
(`QuoteState.after`). A text without a separator that counts is left whole
(`Uncut`), and what follows a text is split apart from it if the text ends
outside quotes and escapes (`splitFrom_append_closed`).
-/

namespace Montage.Fragment

variable {separator c : Char} {state : QuoteState} {cs a b : List Char}

/-! ## Quoting states -/

namespace QuoteState

/-- The state after some more text. -/
def after (state : QuoteState) (cs : List Char) : QuoteState := cs.foldl step state

@[simp] theorem after_nil (state : QuoteState) : state.after [] = state := rfl

@[simp] theorem after_cons (state : QuoteState) (c : Char) (cs : List Char) :
    state.after (c :: cs) = (state.step c).after cs := rfl

theorem after_append (state : QuoteState) (a b : List Char) :
    state.after (a ++ b) = (state.after a).after b := List.foldl_append

theorem isOpen_iff : state.isOpen = true ↔ state = {} := by
  cases state
  simp [isOpen]

end QuoteState

/-- A character that neither quotes nor escapes. -/
def IsPlain (c : Char) : Prop := c ≠ '\\' ∧ c ≠ '\''

theorem step_of_isPlain (unescaped : state.escaped = false) (plain : IsPlain c) :
    state.step c = state := by
  simp [QuoteState.step, unescaped, plain.1, plain.2]

theorem after_of_isPlain (unescaped : state.escaped = false) (plain : ∀ c ∈ cs, IsPlain c) :
    state.after cs = state := by
  induction cs with
  | nil => rfl
  | cons c rest ih =>
      rw [List.forall_mem_cons] at plain
      rw [QuoteState.after_cons, step_of_isPlain unescaped plain.1, ih plain.2]

theorem isPlain_of_isBlank (blank : Text.isBlank c = true) : IsPlain c := by
  constructor <;> rintro rfl <;> exact absurd blank (by decide)

theorem after_of_allBlank (blank : Text.AllBlank cs) : QuoteState.after {} cs = {} :=
  after_of_isPlain rfl fun c member => isPlain_of_isBlank (blank c member)

/-! ## Whole texts -/

theorem consFirst_eq {parts : List (List Char)} (some : parts ≠ []) :
    consFirst c parts = parts.modifyHead (c :: ·) := by
  cases parts with
  | nil => exact absurd rfl some
  | cons part rest => rfl

theorem splitFrom_ne_nil (separator : Char) (state : QuoteState) (cs : List Char) :
    splitFrom separator state cs ≠ [] := by
  cases cs with
  | nil => simp [splitFrom]
  | cons c rest =>
      unfold splitFrom
      split
      · simp
      · cases splitFrom separator (state.step c) rest <;> simp [consFirst]

/-- A separator that counts leaves the state as it is. -/
theorem step_of_cut (plain : IsPlain separator) (cut : (c = separator && state.isOpen) = true) :
    state.step c = state := by
  rw [Bool.and_eq_true, decide_eq_true_eq, QuoteState.isOpen_iff] at cut
  obtain ⟨rfl, rfl⟩ := cut
  exact step_of_isPlain rfl plain

theorem splitFrom_cut (cut : (c = separator && state.isOpen) = true) (cs : List Char) :
    splitFrom separator state (c :: cs) = [] :: splitFrom separator state cs := by
  rw [splitFrom, if_pos cut]

theorem splitFrom_kept (kept : (c = separator && state.isOpen) = false) (cs : List Char) :
    splitFrom separator state (c :: cs) =
      (splitFrom separator (state.step c) cs).modifyHead (c :: ·) := by
  rw [splitFrom, kept, if_neg Bool.false_ne_true, consFirst_eq (splitFrom_ne_nil _ _ _)]

/-- A text without a separator that counts. -/
def Uncut (separator : Char) (state : QuoteState) (cs : List Char) : Prop :=
  splitFrom separator state cs = [cs]

theorem uncut_nil (separator : Char) (state : QuoteState) : Uncut separator state [] := rfl

theorem uncut_cons :
    Uncut separator state (c :: cs) ↔
      (c = separator && state.isOpen) = false ∧ Uncut separator (state.step c) cs := by
  unfold Uncut
  cases cut : (decide (c = separator) && state.isOpen) with
  | true =>
      rw [splitFrom_cut cut]
      simp [splitFrom_ne_nil]
  | false =>
      rw [splitFrom_kept cut]
      cases splitFrom separator (state.step c) cs <;> simp

theorem uncut_append :
    Uncut separator state (a ++ b) ↔
      Uncut separator state a ∧ Uncut separator (state.after a) b := by
  induction a generalizing state with
  | nil => simp [uncut_nil]
  | cons c rest ih => rw [List.cons_append, uncut_cons, ih, uncut_cons, and_assoc]; rfl

theorem uncut_of_notMem (absent : separator ∉ cs) : Uncut separator state cs := by
  induction cs generalizing state with
  | nil => exact uncut_nil _ _
  | cons c rest ih =>
      rw [List.mem_cons, not_or] at absent
      refine uncut_cons.mpr ⟨?_, ih absent.2⟩
      simp [Ne.symm absent.1]

/-! ## What follows a text -/

/-- A text without a separator that counts goes on in the first part of what
follows. -/
theorem splitFrom_append_uncut (whole : Uncut separator state a) (b : List Char) :
    splitFrom separator state (a ++ b) =
      (splitFrom separator (state.after a) b).modifyHead (a ++ ·) := by
  induction a generalizing state with
  | nil => cases parts : splitFrom separator state b <;> simp [parts]
  | cons c rest ih =>
      obtain ⟨kept, whole⟩ := uncut_cons.mp whole
      rw [List.cons_append, splitFrom_kept kept, ih whole, List.modifyHead_modifyHead]
      rfl

/-- After a text that ends outside quotes and escapes a separator counts. -/
theorem splitFrom_append_closed (plain : IsPlain separator) (closed : state.after a = {})
    (b : List Char) :
    splitFrom separator state (a ++ separator :: b) =
      splitFrom separator state a ++ splitFrom separator {} b := by
  induction a generalizing state with
  | nil =>
      obtain rfl : state = {} := closed
      rw [List.nil_append, splitFrom_cut (by simp [QuoteState.isOpen])]
      rfl
  | cons c rest ih =>
      rw [QuoteState.after_cons] at closed
      rw [List.cons_append]
      cases cut : (decide (c = separator) && state.isOpen) with
      | true =>
          rw [step_of_cut plain cut] at closed
          rw [splitFrom_cut cut, splitFrom_cut cut, ih closed, List.cons_append]
      | false =>
          rw [splitFrom_kept cut, splitFrom_kept cut, ih closed]
          cases parts : splitFrom separator (state.step c) rest with
          | nil => exact absurd parts (splitFrom_ne_nil _ _ _)
          | cons first others => rfl

/-- After any other text a separator stays in the part. -/
theorem splitFrom_append_unclosed (whole : Uncut separator state a) (open_ : state.after a ≠ {})
    (b : List Char) :
    ∃ more parts, splitFrom separator state (a ++ separator :: b) =
      (a ++ separator :: more) :: parts := by
  have kept : (separator = separator && (state.after a).isOpen) = false := by
    rw [Bool.and_eq_false_iff]
    exact .inr (Bool.eq_false_iff.mpr fun counts => open_ (QuoteState.isOpen_iff.mp counts))
  rw [splitFrom_append_uncut whole, splitFrom_kept kept]
  cases parts : splitFrom separator ((state.after a).step separator) b with
  | nil => exact absurd parts (splitFrom_ne_nil _ _ _)
  | cons first others => exact ⟨first, others, rfl⟩

/-- The first part is whole where it stands, and the others are on their own. -/
theorem uncut_parts (separator : Char) (state : QuoteState) (cs : List Char) :
    ∃ first others, splitFrom separator state cs = first :: others ∧
      Uncut separator state first ∧ ∀ part ∈ others, Uncut separator {} part := by
  induction cs generalizing state with
  | nil => exact ⟨[], [], rfl, uncut_nil _ _, by simp⟩
  | cons c rest ih =>
      cases cut : (decide (c = separator) && state.isOpen) with
      | true =>
          rw [splitFrom_cut cut]
          rw [Bool.and_eq_true, QuoteState.isOpen_iff] at cut
          obtain ⟨-, rfl⟩ := cut
          obtain ⟨first, others, parts, whole, wholes⟩ := ih {}
          refine ⟨[], _, rfl, uncut_nil _ _, ?_⟩
          rw [parts, List.forall_mem_cons]
          exact ⟨whole, wholes⟩
      | false =>
          obtain ⟨first, others, parts, whole, wholes⟩ := ih (state.step c)
          rw [splitFrom_kept cut, parts]
          exact ⟨c :: first, others, rfl, uncut_cons.mpr ⟨cut, whole⟩, wholes⟩

/-- No part of a text can be split again. -/
theorem uncut_of_mem {part : List Char}
    (member : part ∈ splitUnquoted separator cs) : Uncut separator {} part := by
  obtain ⟨first, others, parts, whole, wholes⟩ := uncut_parts separator {} cs
  rw [splitUnquoted, parts, List.mem_cons] at member
  rcases member with rfl | later
  · exact whole
  · exact wholes part later

/-- Trimming leaves a whole text whole. -/
theorem uncut_trimChars (whole : Uncut separator {} cs) :
    Uncut separator {} (Text.trimChars cs) := by
  obtain ⟨leading, trailing, blank, -, split⟩ := Text.exists_trimChars cs
  rw [split, uncut_append, after_of_allBlank blank, uncut_append] at whole
  exact whole.2.1

end Montage.Fragment
