import Montage.Text.Blank
import Mathlib.Data.List.DropRight

/-!
# Trimming

What trimming takes away is blank (`exists_trimChars`), and what it leaves
begins and ends with characters that are not, so that trimming once more
changes nothing (`isTrimmed_trimChars`). Blanks that are put around a text make
no difference (`trimChars_between`).
-/

namespace Montage.Text

variable {blanks cs before after : List Char} {c : Char}

/-- A text with blanks only. -/
def AllBlank (cs : List Char) : Prop := ∀ c ∈ cs, isBlank c = true

instance (cs : List Char) : Decidable (AllBlank cs) :=
  List.decidableBAll _ cs

theorem trimLeft_append_blank (blank : AllBlank blanks) (cs : List Char) :
    trimLeft (blanks ++ cs) = trimLeft cs := List.dropWhile_append_of_pos blank

theorem trimLeft_cons_of_not (solid : isBlank c = false) (cs : List Char) :
    trimLeft (c :: cs) = c :: cs := by
  simp [trimLeft, solid]

/-- Trimming stops at a character that is not blank. -/
theorem trimRight_append_cons (solid : isBlank c = false) (before after : List Char) :
    trimRight (before ++ c :: after) = before ++ c :: trimRight after := by
  unfold trimRight
  rw [List.reverse_append, List.reverse_cons, List.append_assoc, List.dropWhile_append]
  split
  · rename_i blank
    rw [List.isEmpty_iff] at blank
    simp [solid, blank]
  · simp

theorem trimRight_append_blank (blank : AllBlank blanks) (cs : List Char) :
    trimRight (cs ++ blanks) = trimRight cs := by
  unfold trimRight
  rw [List.reverse_append, List.dropWhile_append_of_pos]
  exact fun c member => blank c (List.mem_reverse.mp member)

/-- Blanks at both ends make no difference. -/
theorem trimChars_between (leading : AllBlank before) (trailing : AllBlank after)
    (cs : List Char) : trimChars (before ++ (cs ++ after)) = trimChars cs := by
  unfold trimChars
  rw [trimLeft_append_blank leading]
  cases left : trimLeft cs with
  | nil =>
      -- there is nothing but blanks
      have none : trimLeft (cs ++ after) = [] := by
        unfold trimLeft at left ⊢
        rw [List.dropWhile_append, left]
        exact List.dropWhile_eq_nil_iff.mpr trailing
      rw [none]
  | cons c rest =>
      have some_ : trimLeft (cs ++ after) = c :: rest ++ after := by
        unfold trimLeft at left ⊢
        rw [List.dropWhile_append, left]
        rfl
      rw [some_, trimRight_append_blank trailing]

/-- What is left of a text begins with no blank. -/
theorem trimLeft_cons (equal : trimLeft before = c :: after) : isBlank c = false := by
  have head := List.head?_dropWhile_not isBlank before
  unfold trimLeft at equal
  rw [equal] at head
  simpa using head

/-- A text is what trimming leaves of it, between blanks. -/
theorem exists_trimLeft (cs : List Char) :
    ∃ blanks, AllBlank blanks ∧ cs = blanks ++ trimLeft cs :=
  ⟨cs.takeWhile isBlank, fun _ member => List.mem_takeWhile_imp member,
    List.takeWhile_append_dropWhile.symm⟩

theorem exists_trimRight (cs : List Char) :
    ∃ blanks, AllBlank blanks ∧ cs = trimRight cs ++ blanks := by
  obtain ⟨blanks, blank, split⟩ := exists_trimLeft cs.reverse
  refine ⟨blanks.reverse, fun c member => blank c (List.mem_reverse.mp member), ?_⟩
  rw [← List.reverse_inj, split, List.reverse_append, List.reverse_reverse]
  show _ = blanks ++ (trimLeft cs.reverse).reverse.reverse
  rw [List.reverse_reverse]

theorem exists_trimChars (cs : List Char) :
    ∃ leading trailing, AllBlank leading ∧ AllBlank trailing ∧
      cs = leading ++ (trimChars cs ++ trailing) := by
  obtain ⟨leading, blank, split⟩ := exists_trimLeft cs
  obtain ⟨trailing, blank', split'⟩ := exists_trimRight (trimLeft cs)
  refine ⟨leading, trailing, blank, blank', ?_⟩
  rw [trimChars, ← split', ← split]

/-- A text that begins and ends with characters that are not blank. -/
def IsTrimmed (cs : List Char) : Prop := trimChars cs = cs

instance (cs : List Char) : Decidable (IsTrimmed cs) := inferInstanceAs (Decidable (_ = _))

theorem trimChars_of_trimLeft {rest : List Char} (left : trimLeft cs = c :: rest) :
    trimChars cs = c :: trimRight rest := by
  rw [trimChars, left]
  exact trimRight_append_cons (trimLeft_cons left) [] rest

theorem isTrimmed_trimChars (cs : List Char) : IsTrimmed (trimChars cs) := by
  unfold IsTrimmed
  cases left : trimLeft cs with
  | nil =>
      have nothing : trimChars cs = [] := by
        rw [trimChars, left]
        rfl
      rw [nothing]
      rfl
  | cons c rest =>
      rw [trimChars_of_trimLeft left]
      have again : trimRight (trimRight rest) = trimRight rest :=
        List.rdropWhile_idempotent isBlank rest
      have same : trimLeft (c :: trimRight rest) = c :: trimRight rest :=
        trimLeft_cons_of_not (trimLeft_cons left) _
      rw [trimChars_of_trimLeft same, again]

/-- A trimmed text begins with no blank. -/
theorem IsTrimmed.head {cs : List Char} (trimmed : IsTrimmed (c :: cs)) : isBlank c = false := by
  unfold IsTrimmed at trimmed
  cases left : trimLeft (c :: cs) with
  | nil =>
      rw [trimChars, left] at trimmed
      exact absurd trimmed (by simp [trimRight])
  | cons first rest =>
      rw [trimChars_of_trimLeft left] at trimmed
      obtain ⟨rfl, -⟩ := List.cons.inj trimmed
      exact trimLeft_cons left

/-- A text without any blank. -/
theorem isTrimmed_of_solid (solid : ∀ c ∈ cs, isBlank c = false) : IsTrimmed cs := by
  unfold IsTrimmed
  cases cs with
  | nil => rfl
  | cons c rest =>
      rw [List.forall_mem_cons] at solid
      rw [trimChars_of_trimLeft (trimLeft_cons_of_not solid.1 rest)]
      -- the last character is not blank, so nothing is taken away from the right
      have last : trimRight rest = rest :=
        List.rdropWhile_eq_self_iff.mpr fun some => by
          rw [solid.2 _ (List.getLast_mem some)]
          decide
      rw [last]

/-- A text whose first and last characters are not blank. -/
theorem isTrimmed_of_ends {first last : Char} (solid : isBlank first = false)
    (solid' : isBlank last = false) (middle : List Char) :
    IsTrimmed (first :: (middle ++ [last])) := by
  unfold IsTrimmed
  rw [trimChars_of_trimLeft (trimLeft_cons_of_not solid _), trimRight_append_cons solid']
  rfl

end Montage.Text
