import Montage.Graph.Fragment
import Montage.Proofs.Text.Trimming
import Mathlib.Tactic.MkIffOfInductiveProp

/-!
# Filters and their labels

A filter's text is laid out as labels in brackets before it, the filter itself
and labels in brackets after it, with blanks between them (`FilterLayout`). The
labels before it are all that stand there, and of what is left those after it
are all that stand there. Every text has such a layout, and the labels that are
read from a text are those of its layouts (`filterLabels_eq_iff`).
-/

namespace Montage.Fragment

/-! ## Groups -/

theorem groups_nil (opening closing : Char) : groups opening closing [] = ([], []) := by
  rw [groups]

theorem groups_of_ne {opening closing c : Char} (other : c ≠ opening) (cs : List Char) :
    groups opening closing (c :: cs) = ([], c :: cs) := by
  rw [groups, if_neg other]

theorem groups_of_closed {opening closing : Char} {label : List Char} (apart : closing ∉ label)
    (rest : List Char) :
    groups opening closing (opening :: (label ++ closing :: rest)) =
      (label :: (groups opening closing (Text.trimLeft rest)).1,
        (groups opening closing (Text.trimLeft rest)).2) := by
  have skipped : ∀ c ∈ label, decide (c ≠ closing) = true := fun c member =>
    decide_eq_true fun equal => apart (equal ▸ member)
  have found : (label ++ closing :: rest).dropWhile (fun c => decide (c ≠ closing)) =
      closing :: rest := by
    rw [List.dropWhile_append_of_pos skipped]
    simp
  have taken : (label ++ closing :: rest).takeWhile (fun c => decide (c ≠ closing)) = label := by
    rw [List.takeWhile_append_of_pos skipped]
    simp
  rw [groups, if_pos rfl]
  split
  · rename_i none
    rw [found] at none
    exact absurd none (List.cons_ne_nil _ _)
  · rename_i after some
    rw [found, List.cons.injEq] at some
    rw [taken, some.2]

/-- Texts in brackets with blanks after each. -/
def spaced (opening closing : Char) (groups : List (List Char × List Char)) : List Char :=
  groups.flatMap fun (label, blanks) => opening :: (label ++ closing :: blanks)

theorem spaced_cons (opening closing : Char) (label blanks : List Char)
    (groups : List (List Char × List Char)) :
    spaced opening closing ((label, blanks) :: groups) =
      opening :: (label ++ closing :: (blanks ++ spaced opening closing groups)) := by
  simp [spaced]

/-- A group that can be read: its label does not hold the bracket that ends it. -/
def IsGroup (closing : Char) (group : List Char × List Char) : Prop :=
  closing ∉ group.1 ∧ Text.AllBlank group.2

/-- A text that does not begin with a blank. -/
def StartsSolid (cs : List Char) : Prop := ∀ c ∈ cs.head?, Text.isBlank c = false

/-- A text in which no group begins. -/
def NoGroup (opening closing : Char) (cs : List Char) : Prop :=
  cs.head? = some opening → closing ∉ cs

instance (closing : Char) (group : List Char × List Char) : Decidable (IsGroup closing group) :=
  inferInstanceAs (Decidable (_ ∧ _))

instance (cs : List Char) : Decidable (StartsSolid cs) := Option.decidableForallMem cs.head?

instance (opening closing : Char) (cs : List Char) : Decidable (NoGroup opening closing cs) :=
  inferInstanceAs (Decidable (_ → _))

variable {opening closing : Char} {cs rest : List Char}
  {found : List (List Char × List Char)}

theorem startsSolid_trimLeft (cs : List Char) : StartsSolid (Text.trimLeft cs) := by
  intro c head
  cases left : Text.trimLeft cs with
  | nil =>
      rw [left] at head
      cases head
  | cons first rest =>
      rw [left] at head
      obtain rfl := Option.some.inj head
      exact Text.trimLeft_cons left

theorem StartsSolid.trimLeft_eq (solid : StartsSolid cs) : Text.trimLeft cs = cs := by
  cases cs with
  | nil => rfl
  | cons c rest => exact Text.trimLeft_cons_of_not (solid c rfl) rest

theorem groups_of_noGroup (none : NoGroup opening closing cs) :
    groups opening closing cs = ([], cs) := by
  cases cs with
  | nil => exact groups_nil _ _
  | cons c rest =>
      by_cases same : c = opening
      · obtain rfl := same
        have absent : closing ∉ rest := fun member =>
          none rfl (List.mem_cons_of_mem _ member)
        have unclosed : rest.dropWhile (fun x => decide (x ≠ closing)) = [] :=
          List.dropWhile_eq_nil_iff.mpr fun x member =>
            decide_eq_true fun equal => absent (equal ▸ member)
        rw [groups, if_pos rfl]
        split
        · rfl
        · rename_i some
          rw [unclosed] at some
          cases some
      · exact groups_of_ne same rest

/-- Groups are read up to a text in which none begins. -/
theorem groups_spaced (solid : Text.isBlank opening = false)
    (each : ∀ group ∈ found, IsGroup closing group) (starts : StartsSolid rest)
    (none : NoGroup opening closing rest) :
    groups opening closing (spaced opening closing found ++ rest) =
      (found.map Prod.fst, rest) := by
  induction found with
  | nil => exact groups_of_noGroup none
  | cons group others ih =>
      obtain ⟨label, blanks⟩ := group
      rw [List.forall_mem_cons] at each
      obtain ⟨⟨apart, blank⟩, each⟩ := each
      have next : StartsSolid (spaced opening closing others ++ rest) := by
        cases others with
        | nil => exact starts
        | cons other more =>
            rintro _ ⟨rfl⟩
            exact solid
      rw [spaced_cons, List.cons_append, List.append_assoc, List.cons_append,
        List.append_assoc, groups_of_closed apart, Text.trimLeft_append_blank blank,
        next.trimLeft_eq, ih each]
      rfl

/-- Every text is groups with blanks between them and a rest in which none begins. -/
theorem exists_spaced (differ : opening ≠ closing) (starts : StartsSolid cs) :
    ∃ found rest, cs = spaced opening closing found ++ rest ∧
      (∀ group ∈ found, IsGroup closing group) ∧ StartsSolid rest ∧
      NoGroup opening closing rest := by
  induction length : cs.length using Nat.strong_induction_on generalizing cs with
  | _ n ih =>
    by_cases none : NoGroup opening closing cs
    · exact ⟨[], cs, rfl, by simp, starts, none⟩
    · unfold NoGroup at none
      push Not at none
      obtain ⟨head, member⟩ := none
      obtain ⟨inner, rfl⟩ := List.head?_eq_some_iff.mp head
      have closed : closing ∈ inner := (List.mem_cons.mp member).resolve_left (Ne.symm differ)
      -- the group ends at the first bracket, and the next one may begin after the blanks
      obtain ⟨label, after, rfl, apart⟩ := List.eq_append_cons_of_mem closed
      obtain ⟨blanks, blank, split⟩ := Text.exists_trimLeft after
      have shorter : (Text.trimLeft after).length < n := by
        have lengths := congrArg List.length split
        simp only [List.length_append, List.length_cons] at lengths length
        omega
      obtain ⟨found, rest, whole, each, solid, none⟩ :=
        ih _ shorter (startsSolid_trimLeft after) rfl
      refine ⟨(label, blanks) :: found, rest, ?_, ?_, solid, none⟩
      · rw [spaced_cons, List.cons_append, List.append_assoc, List.cons_append,
          List.append_assoc, ← whole, ← split]
      · exact List.forall_mem_cons.mpr ⟨⟨apart, blank⟩, each⟩

/-! ## Layouts -/

/-- Where the labels of a filter stand in its text, from left to right. -/
structure FilterLayout where
  /-- blanks -/
  before : List Char := []
  /-- the labels before the filter, with the blanks after each -/
  leading : List (List Char × List Char) := []
  /-- the filter itself -/
  core : List Char := []
  /-- the labels after the filter, with the blanks before each -/
  trailing : List (List Char × List Char) := []
  /-- blanks -/
  after : List Char := []

/-- Labels in brackets with blanks before each. -/
def trailingText (groups : List (List Char × List Char)) : List Char :=
  groups.flatMap fun (label, blanks) => blanks ++ '[' :: (label ++ [']'])

namespace FilterLayout

/-- The text without the blanks at its ends. -/
def inner (layout : FilterLayout) : List Char :=
  spaced '[' ']' layout.leading ++ (layout.core ++ trailingText layout.trailing)

def text (layout : FilterLayout) : List Char := layout.before ++ (layout.inner ++ layout.after)

/-- The labels before the filter and those after it. -/
def labels (layout : FilterLayout) : List String × List String :=
  (layout.leading.map fun group => String.ofList group.1,
    layout.trailing.map fun group => String.ofList group.1)

/-- A layout in which each bracket has its meaning: a label ends at the next
bracket, all labels that stand before the filter are taken, and of what is left
all that stand after it. -/
@[mk_iff]
structure IsSound (layout : FilterLayout) : Prop where
  before : Text.AllBlank layout.before
  after : Text.AllBlank layout.after
  trimmed : Text.IsTrimmed layout.inner
  leading : ∀ group ∈ layout.leading, IsGroup ']' group
  trailing : ∀ group ∈ layout.trailing, IsGroup '[' group
  coreStarts : StartsSolid layout.core
  coreEnds : StartsSolid layout.core.reverse
  -- a label after nothing would be one before the filter
  bare : layout.core = [] → layout.trailing = []
  leadingAll : NoGroup '[' ']' (layout.core ++ trailingText layout.trailing)
  trailingAll : NoGroup ']' '[' layout.core.reverse

instance (layout : FilterLayout) : Decidable layout.IsSound :=
  decidable_of_iff' _ (isSound_iff layout)

end FilterLayout

/-! ## Reading -/

/-- Groups as they are read from the end of a text. -/
def mirrored (groups : List (List Char × List Char)) : List (List Char × List Char) :=
  groups.reverse.map fun group => (group.1.reverse, group.2.reverse)

theorem mirrored_mirrored (groups : List (List Char × List Char)) :
    mirrored (mirrored groups) = groups := by
  simp [mirrored, List.map_reverse, Function.comp_def]

theorem isGroup_mirrored {groups : List (List Char × List Char)}
    (each : ∀ group ∈ groups, IsGroup closing group) :
    ∀ group ∈ mirrored groups, IsGroup closing group := by
  intro group member
  obtain ⟨original, inside, rfl⟩ := List.mem_map.mp member
  obtain ⟨apart, blank⟩ := each original (List.mem_reverse.mp inside)
  exact ⟨fun found => apart (List.mem_reverse.mp found),
    fun c found => blank c (List.mem_reverse.mp found)⟩

theorem reverse_trailingText (groups : List (List Char × List Char)) :
    (trailingText groups).reverse = spaced ']' '[' (mirrored groups) := by
  induction groups with
  | nil => rfl
  | cons group rest ih =>
      simp only [trailingText, spaced, mirrored] at ih ⊢
      simp [ih]

variable {layout : FilterLayout} {filter : List Char}

/-- The labels of a layout are read from its text. -/
theorem FilterLayout.IsSound.filterLabels_text (sound : layout.IsSound) :
    filterLabels layout.text = layout.labels := by
  have trimmed : Text.trimChars layout.text =
      spaced '[' ']' layout.leading ++ (layout.core ++ trailingText layout.trailing) := by
    rw [FilterLayout.text, Text.trimChars_between sound.before sound.after]
    exact sound.trimmed
  have starts : StartsSolid (layout.core ++ trailingText layout.trailing) := by
    have first := sound.coreStarts
    cases core : layout.core with
    | nil =>
        rw [sound.bare core]
        rintro c ⟨⟩
    | cons c rest =>
        rw [core] at first
        exact first
  have leading := groups_spaced (by decide) sound.leading starts sound.leadingAll
  have trailing := groups_spaced (by decide) (isGroup_mirrored sound.trailing) sound.coreEnds
    sound.trailingAll
  rw [← reverse_trailingText, ← List.reverse_append] at trailing
  unfold filterLabels
  rw [trimmed]
  simp only [leading, trailing, FilterLayout.labels, mirrored, List.map_map, List.map_reverse,
    List.reverse_reverse]
  simp [Function.comp_def]

theorem startsSolid_trimChars (cs : List Char) : StartsSolid (Text.trimChars cs) := by
  intro c head
  have trimmed := Text.isTrimmed_trimChars cs
  obtain ⟨rest, equal⟩ := List.head?_eq_some_iff.mp head
  rw [equal] at trimmed
  exact trimmed.head

theorem startsSolid_reverse_trimChars (cs : List Char) :
    StartsSolid (Text.trimChars cs).reverse := by
  unfold Text.trimChars Text.trimRight
  rw [List.reverse_reverse]
  exact startsSolid_trimLeft _

theorem StartsSolid.of_append {before after : List Char} (starts : StartsSolid (before ++ after)) :
    StartsSolid before := by
  intro c head
  refine starts c ?_
  rw [List.head?_append, Option.mem_def.mp head]
  rfl

/-- From the end, every text is groups with blanks before each and a rest in which
none ends. -/
theorem exists_trailing (ends : StartsSolid rest.reverse) :
    ∃ core trailing, rest = core ++ trailingText trailing ∧
      (∀ group ∈ trailing, IsGroup '[' group) ∧ StartsSolid core.reverse ∧
      NoGroup ']' '[' core.reverse := by
  obtain ⟨found, core, whole, each, solid, none⟩ := exists_spaced (by decide : ']' ≠ '[') ends
  refine ⟨core.reverse, mirrored found, ?_, isGroup_mirrored each, ?_⟩
  · rw [← List.reverse_inj, List.reverse_append, reverse_trailingText, mirrored_mirrored,
      List.reverse_reverse]
    exact whole
  · rw [List.reverse_reverse]
    exact ⟨solid, none⟩

/-- No labels stand after nothing: they would be read before it. -/
theorem eq_nil_of_noGroup {groups : List (List Char × List Char)}
    (each : ∀ group ∈ groups, IsGroup '[' group) (starts : StartsSolid (trailingText groups))
    (none : NoGroup '[' ']' (trailingText groups)) : groups = [] := by
  cases groups with
  | nil => rfl
  | cons group rest =>
      obtain ⟨label, blanks⟩ := group
      obtain ⟨⟨-, blank⟩, -⟩ := List.forall_mem_cons.mp each
      have text : trailingText ((label, blanks) :: rest) =
          blanks ++ '[' :: (label ++ ']' :: trailingText rest) := by
        simp [trailingText]
      rw [text] at starts none
      cases blanks with
      | nil => exact absurd (by simp) (none rfl)
      | cons c others =>
          have solid := starts c rfl
          rw [blank c (List.mem_cons_self ..)] at solid
          cases solid

/-- Every text has a layout: the labels before the filter are taken first, and then
those after it from the end. -/
theorem exists_layout (filter : List Char) :
    ∃ layout : FilterLayout, layout.IsSound ∧ layout.text = filter := by
  obtain ⟨before, after, blank, blank', split⟩ := Text.exists_trimChars filter
  have trimmed := Text.isTrimmed_trimChars filter
  have ends := startsSolid_reverse_trimChars filter
  obtain ⟨leading, rest, whole, leadingEach, starts, leadingAll⟩ :=
    exists_spaced (by decide : '[' ≠ ']') (startsSolid_trimChars filter)
  rw [whole] at trimmed split ends
  rw [List.reverse_append] at ends
  obtain ⟨core, trailing, rfl, trailingEach, coreEnds, trailingAll⟩ :=
    exists_trailing ends.of_append
  refine ⟨⟨before, leading, core, trailing, after⟩, ?_, split.symm⟩
  refine ⟨blank, blank', trimmed, leadingEach, trailingEach, starts.of_append, coreEnds, ?_,
    leadingAll, trailingAll⟩
  rintro (rfl : core = [])
  exact eq_nil_of_noGroup trailingEach starts leadingAll

/-- The labels that are read from a text are those of its layout. -/
theorem filterLabels_eq_iff {labels : List String × List String} :
    filterLabels filter = labels ↔
      ∃ layout : FilterLayout, layout.IsSound ∧ layout.text = filter ∧ layout.labels = labels := by
  constructor
  · rintro rfl
    obtain ⟨layout, sound, rfl⟩ := exists_layout filter
    exact ⟨layout, sound, rfl, sound.filterLabels_text.symm⟩
  · rintro ⟨layout, sound, rfl, rfl⟩
    exact sound.filterLabels_text

end Montage.Fragment
