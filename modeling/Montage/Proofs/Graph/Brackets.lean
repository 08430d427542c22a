import Montage.Proofs.Graph.Chains
import Montage.Proofs.Graph.Filters

/-!
# Labels around a body

A statement's text is its body between its labels in brackets. If no character
of the body or of the labels can be taken for another (`IsBody`, `IsName`), the
reader finds the labels again: those before the first filter of the body and
those after its last one (`chainLabels_wrapped`). So such a statement is read
back from its text (`Statement.readsBack`).
-/

namespace Montage.Fragment

/-! ## Characters between labels -/

/-- Texts between brackets, one after the other. -/
def wrapped (opening closing : Char) (labels : List (List Char)) : List Char :=
  labels.flatMap fun label => opening :: (label ++ [closing])

theorem wrapped_cons (opening closing : Char) (label : List Char) (labels : List (List Char)) :
    wrapped opening closing (label :: labels) =
      opening :: (label ++ closing :: wrapped opening closing labels) := by
  simp [wrapped]

/-- A character that no reader takes for the end of a label or of a chain. -/
structure IsOrdinary (c : Char) : Prop where
  solid : Text.isBlank c = false
  opening : c ≠ '['
  closing : c ≠ ']'
  semicolon : c ≠ ';'
  backslash : c ≠ '\\'

/-- A label that can stand in brackets anywhere. -/
def IsName (label : String) : Prop :=
  ∀ c ∈ label.toList, IsOrdinary c ∧ c ≠ ',' ∧ c ≠ '\''

/-- The text between the labels of a statement: one or more filters, the last
of them not empty. -/
structure IsBody (body : List Char) : Prop where
  ordinary : ∀ c ∈ body, IsOrdinary c
  closed : EndsUnquoted body
  ends : ∃ front last, body = front ++ last ∧ last ≠ [] ∧ ',' ∉ last

/-- Labels in brackets. -/
def labelText (labels : List String) : List Char := wrapped '[' ']' (labels.map String.toList)

theorem labelText_cons (label : String) (labels : List String) :
    labelText (label :: labels) = '[' :: (label.toList ++ ']' :: labelText labels) :=
  wrapped_cons ..

section

variable {labels : List String} (names : ∀ label ∈ labels, IsName label)

include names

theorem mem_labelText {c : Char} (member : c ∈ labelText labels) :
    Text.isBlank c = false ∧ c ≠ ';' ∧ c ≠ ',' ∧ IsPlain c := by
  induction labels with
  | nil => exact absurd member (by simp [labelText, wrapped])
  | cons label rest ih =>
      rw [List.forall_mem_cons] at names
      rw [labelText_cons] at member
      simp only [List.mem_cons, List.mem_append] at member
      rcases member with rfl | inside | rfl | later
      · exact ⟨by decide, by decide, by decide, by decide, by decide⟩
      · obtain ⟨ordinary, comma, quote⟩ := names.1 c inside
        exact ⟨ordinary.solid, ordinary.semicolon, comma, ordinary.backslash, quote⟩
      · exact ⟨by decide, by decide, by decide, by decide, by decide⟩
      · exact ih names.2 later

theorem uncut_labelText {separator : Char} (state : QuoteState)
    (separates : separator = ';' ∨ separator = ',') :
    Uncut separator state (labelText labels) := by
  refine uncut_of_notMem fun member => ?_
  obtain ⟨-, semicolon, comma, -⟩ := mem_labelText names member
  rcases separates with rfl | rfl
  · exact semicolon rfl
  · exact comma rfl

theorem endsUnquoted_labelText : EndsUnquoted (labelText labels) :=
  after_of_isPlain rfl fun _ member => (mem_labelText names member).2.2.2

end

/-! ## Labels of one filter -/

/-- Labels with no blanks beside them. -/
def groupsOf (labels : List String) : List (List Char × List Char) :=
  labels.map fun label => (label.toList, [])

theorem spaced_groupsOf (labels : List String) :
    spaced '[' ']' (groupsOf labels) = labelText labels := by
  simp [spaced, groupsOf, labelText, wrapped, List.flatMap_map]

theorem trailingText_groupsOf (labels : List String) :
    trailingText (groupsOf labels) = labelText labels := by
  simp [trailingText, groupsOf, labelText, wrapped, List.flatMap_map]

theorem isGroup_groupsOf {labels : List String} (names : ∀ label ∈ labels, IsName label) :
    (∀ group ∈ groupsOf labels, IsGroup ']' group) ∧
      ∀ group ∈ groupsOf labels, IsGroup '[' group := by
  simp only [groupsOf, List.forall_mem_map]
  exact ⟨fun label member =>
      ⟨fun inside => (names label member _ inside).1.closing rfl, List.forall_mem_nil _⟩,
    fun label member =>
      ⟨fun inside => (names label member _ inside).1.opening rfl, List.forall_mem_nil _⟩⟩

/-- A filter between its labels, with no blanks. -/
def layoutOf (inputs : List String) (body : List Char) (outputs : List String) : FilterLayout where
  leading := groupsOf inputs
  core := body
  trailing := groupsOf outputs

theorem labels_layoutOf (inputs outputs : List String) (body : List Char) :
    (layoutOf inputs body outputs).labels = (inputs, outputs) := by
  simp [FilterLayout.labels, layoutOf, groupsOf, Function.comp_def]

theorem inner_layoutOf (inputs outputs : List String) (body : List Char) :
    (layoutOf inputs body outputs).inner = labelText inputs ++ (body ++ labelText outputs) := by
  simp only [FilterLayout.inner, layoutOf, spaced_groupsOf, trailingText_groupsOf]

theorem text_layoutOf (inputs outputs : List String) (body : List Char) :
    (layoutOf inputs body outputs).text = labelText inputs ++ (body ++ labelText outputs) := by
  rw [FilterLayout.text, inner_layoutOf]
  exact List.append_nil _

section

variable {inputs outputs : List String} {body : List Char}
  (inputNames : ∀ label ∈ inputs, IsName label) (outputNames : ∀ label ∈ outputs, IsName label)
  (ordinary : ∀ c ∈ body, IsOrdinary c) (some : body ≠ [] ∨ outputs = [])

include inputNames outputNames ordinary some

/-- Without a filter no label may follow, since it would be taken for one before
it. -/
theorem isSound_layoutOf : (layoutOf inputs body outputs).IsSound where
  before := List.forall_mem_nil _
  after := List.forall_mem_nil _
  trimmed := by
    rw [inner_layoutOf]
    refine Text.isTrimmed_of_solid ?_
    simp only [List.forall_mem_append]
    exact ⟨fun c member => (mem_labelText inputNames member).1,
      fun c member => (ordinary c member).solid,
      fun c member => (mem_labelText outputNames member).1⟩
  leading := (isGroup_groupsOf inputNames).1
  trailing := (isGroup_groupsOf outputNames).2
  coreStarts := fun c head => (ordinary c (List.mem_of_mem_head? head)).solid
  coreEnds := fun c head =>
    (ordinary c (List.mem_reverse.mp (List.mem_of_mem_head? head))).solid
  bare := fun empty => by
    rw [layoutOf, some.resolve_left (not_not_intro empty)]
    rfl
  leadingAll := by
    show NoGroup '[' ']' (body ++ trailingText (groupsOf outputs))
    intro head
    rw [trailingText_groupsOf] at head
    cases body with
    | nil =>
        rw [some.resolve_left (not_not_intro rfl)] at head
        cases head
    | cons c rest =>
        exact absurd (Option.some.inj head) (ordinary c (List.mem_cons_self ..)).opening
  trailingAll := fun head =>
    absurd rfl (ordinary _ (List.mem_reverse.mp (List.mem_of_mem_head? head))).closing

/-- The labels of a filter between its labels. -/
theorem filterLabels_wrapped :
    filterLabels (labelText inputs ++ (body ++ labelText outputs)) = (inputs, outputs) := by
  rw [← text_layoutOf, (isSound_layoutOf inputNames outputNames ordinary some).filterLabels_text,
    labels_layoutOf]

end

/-! ## Labels of a chain -/

/-- What follows a text without a separator that counts goes on in its last
part. -/
theorem splitFrom_append_last {separator : Char} {b : List Char} (state : QuoteState)
    (a : List Char) (plain : IsPlain separator) (whole : Uncut separator (state.after a) b) :
    ∃ init last, splitFrom separator state a = init ++ [last] ∧
      splitFrom separator state (a ++ b) = init ++ [last ++ b] := by
  induction a generalizing state with
  | nil => exact ⟨[], [], rfl, whole⟩
  | cons c rest ih =>
      rw [QuoteState.after_cons] at whole
      rw [List.cons_append]
      cases cut : (decide (c = separator) && state.isOpen) with
      | true =>
          rw [step_of_cut plain cut] at whole
          obtain ⟨init, last, parts, longer⟩ := ih _ whole
          rw [splitFrom_cut cut, splitFrom_cut cut, parts, longer]
          exact ⟨[] :: init, last, rfl, rfl⟩
      | false =>
          obtain ⟨init, last, parts, longer⟩ := ih _ whole
          rw [splitFrom_kept cut, splitFrom_kept cut, parts, longer]
          cases init with
          | nil => exact ⟨[], c :: last, rfl, rfl⟩
          | cons first others => exact ⟨(c :: first) :: others, last, rfl, rfl⟩

/-- The parts of a text have no other characters than the text. -/
theorem mem_of_mem_part {separator c : Char} {state : QuoteState} {cs part : List Char}
    (found : part ∈ splitFrom separator state cs) (member : c ∈ part) : c ∈ cs := by
  induction cs generalizing state part with
  | nil =>
      rw [splitFrom, List.mem_singleton] at found
      exact found ▸ member
  | cons first rest ih =>
      cases cut : (decide (first = separator) && state.isOpen) with
      | true =>
          rw [splitFrom_cut cut, List.mem_cons] at found
          rcases found with rfl | later
          · exact absurd member List.not_mem_nil
          · exact List.mem_cons_of_mem _ (ih later member)
      | false =>
          rw [splitFrom_kept cut] at found
          cases parts : splitFrom separator (state.step first) rest with
          | nil => exact absurd parts (splitFrom_ne_nil _ _ _)
          | cons head others =>
              rw [parts, List.modifyHead_cons, List.mem_cons] at found
              rcases found with rfl | later
              · rcases List.mem_cons.mp member with rfl | inside
                · exact List.mem_cons_self ..
                · exact List.mem_cons_of_mem _ (ih (parts ▸ List.mem_cons_self ..) inside)
              · exact List.mem_cons_of_mem _ (ih (parts ▸ List.mem_cons_of_mem _ later) member)

theorem isPlain_comma : IsPlain ',' := by
  constructor <;> decide

/-- The filters of a body, the last of which is not empty. -/
theorem IsBody.filters {body : List Char} (isBody : IsBody body) :
    ∃ init last, splitUnquoted ',' body = init ++ [last] ∧ last ≠ [] ∧
      (∀ filter ∈ init, ∀ c ∈ filter, IsOrdinary c) ∧ ∀ c ∈ last, IsOrdinary c := by
  obtain ⟨front, tail, split, some, apart⟩ := isBody.ends
  obtain ⟨init, last, -, parts⟩ := splitFrom_append_last {} front isPlain_comma
    (uncut_of_notMem apart)
  rw [← split] at parts
  have ordinary : ∀ filter ∈ init ++ [last ++ tail], ∀ c ∈ filter, IsOrdinary c :=
    fun filter found c member => isBody.ordinary c (mem_of_mem_part (parts ▸ found) member)
  rw [List.forall_mem_append, List.forall_mem_singleton] at ordinary
  exact ⟨init, last ++ tail, parts, by simp [some], ordinary.1, ordinary.2⟩

namespace ChainLabels

/-- Labels are links from outside as long as no output is open. -/
theorem foldl_consume_inputs (labels : ChainLabels) (leading : List String)
    (none : labels.outputs = []) :
    leading.foldl consume labels = { labels with inputs := labels.inputs ++ leading } := by
  induction leading generalizing labels with
  | nil => simp
  | cons label rest ih =>
      have outside : labels.consume label = { labels with inputs := labels.inputs ++ [label] } := by
        simp [consume, none]
      have others := ih { labels with inputs := labels.inputs ++ [label] } none
      rw [List.foldl_cons, outside, others, List.append_assoc]
      rfl

/-- A filter with labels before it, as the first of a chain. -/
theorem readFilter_first {filter : List Char} {leading trailing : List String}
    (read : filterLabels filter = (leading, trailing)) :
    ChainLabels.readFilter {} filter = ⟨leading, trailing⟩ := by
  simp [readFilter, read, foldl_consume_inputs]

/-- A filter with no labels before it. -/
theorem readFilter_later {labels : ChainLabels} {filter : List Char} {trailing : List String}
    (read : filterLabels filter = ([], trailing)) :
    labels.readFilter filter = { labels with outputs := labels.outputs ++ trailing } := by
  simp [readFilter, read]

theorem foldl_readFilter_plain {labels : ChainLabels} {filters : List (List Char)}
    (plain : ∀ filter ∈ filters, ∀ c ∈ filter, IsOrdinary c) :
    filters.foldl readFilter labels = labels := by
  induction filters with
  | nil => rfl
  | cons filter rest ih =>
      rw [List.forall_mem_cons] at plain
      have read := filterLabels_wrapped (List.forall_mem_nil IsName) (List.forall_mem_nil IsName)
        plain.1 (.inr rfl)
      have none : filterLabels filter = ([], []) := by simpa [labelText, wrapped] using read
      rw [List.foldl_cons, readFilter_later none, List.append_nil]
      exact ih plain.2

end ChainLabels

section

variable {inputs outputs : List String} {body : List Char}
  (inputNames : ∀ label ∈ inputs, IsName label) (outputNames : ∀ label ∈ outputs, IsName label)
  (isBody : IsBody body)

include inputNames outputNames isBody

/-- The labels around a body are found again. -/
theorem chainLabels_wrapped :
    chainLabels (labelText inputs ++ (body ++ labelText outputs)) = ⟨inputs, outputs⟩ := by
  obtain ⟨init, last, parts, some, ordinary, ordinaryLast⟩ := isBody.filters
  obtain ⟨init', last', parts', longer⟩ := splitFrom_append_last {} body isPlain_comma
    (uncut_labelText outputNames _ (.inr rfl))
  -- the labels stand in the first filter and in the last one
  have closed : QuoteState.after {} (labelText inputs) = {} := endsUnquoted_labelText inputNames
  unfold chainLabels
  rw [splitUnquoted, splitFrom_append_uncut (uncut_labelText inputNames _ (.inr rfl)), closed,
    longer]
  rw [splitUnquoted, parts'] at parts
  obtain ⟨rfl, equal⟩ := List.append_inj' parts rfl
  obtain rfl := List.singleton_inj.mp equal
  cases init' with
  | nil =>
      have read := filterLabels_wrapped inputNames outputNames ordinaryLast (.inl some)
      simp only [List.nil_append, List.modifyHead_cons, List.foldl_cons, List.foldl_nil]
      exact ChainLabels.readFilter_first read
  | cons first others =>
      rw [List.forall_mem_cons] at ordinary
      have readFirst := filterLabels_wrapped inputNames (List.forall_mem_nil IsName)
        ordinary.1 (.inr rfl)
      have readLast := filterLabels_wrapped (List.forall_mem_nil IsName) outputNames
        ordinaryLast (.inl some)
      have noLabels : labelText [] = [] := rfl
      rw [noLabels, List.append_nil] at readFirst
      rw [noLabels, List.nil_append] at readLast
      rw [List.cons_append, List.modifyHead_cons, List.foldl_cons,
        ChainLabels.readFilter_first readFirst, List.foldl_append,
        ChainLabels.foldl_readFilter_plain ordinary.2, List.foldl_cons, List.foldl_nil,
        ChainLabels.readFilter_later readLast]
      rfl

theorem isChain_wrapped : IsChain (labelText inputs ++ (body ++ labelText outputs)) := by
  refine ⟨uncut_of_notMem fun member => ?_, Text.isTrimmed_of_solid ?_, ?_⟩
  · simp only [List.mem_append] at member
    rcases member with before | inside | behind
    · exact (mem_labelText inputNames before).2.1 rfl
    · exact (isBody.ordinary _ inside).semicolon rfl
    · exact (mem_labelText outputNames behind).2.1 rfl
  · simp only [List.forall_mem_append]
    exact ⟨fun c member => (mem_labelText inputNames member).1,
      fun c member => (isBody.ordinary c member).solid,
      fun c member => (mem_labelText outputNames member).1⟩
  · obtain ⟨front, last, split, some, -⟩ := isBody.ends
    simp [split, some]

theorem endsUnquoted_wrapped : EndsUnquoted (labelText inputs ++ (body ++ labelText outputs)) := by
  unfold EndsUnquoted
  rw [QuoteState.after_append, endsUnquoted_labelText inputNames, QuoteState.after_append,
    isBody.closed, endsUnquoted_labelText outputNames]

end

end Montage.Fragment

namespace Montage

/-- A statement whose labels and body can be told apart in its text. -/
structure Statement.IsLegible (statement : Statement) : Prop where
  written : statement.kind ≠ .raw
  inputs : ∀ label ∈ statement.inputs, Fragment.IsName label
  outputs : ∀ label ∈ statement.outputs, Fragment.IsName label
  body : Fragment.IsBody statement.body.toList

namespace Statement.IsLegible

variable {statement : Statement} (legible : statement.IsLegible)

include legible

theorem text_toList :
    statement.text.toList = Fragment.labelText statement.inputs ++
      (statement.body.toList ++ Fragment.labelText statement.outputs) := by
  have brackets : ∀ labels : List String,
      (String.join (labels.map bracketed)).toList = Fragment.labelText labels := by
    intro labels
    simp [String.toList_join, Fragment.labelText, Fragment.wrapped, List.flatMap_map, bracketed]
  have shape : statement.text = String.join (statement.inputs.map bracketed) ++ statement.body ++
      String.join (statement.outputs.map bracketed) := by
    unfold Statement.text
    split
    · rename_i raw
      exact absurd raw legible.written
    · rfl
  rw [shape, String.toList_append, String.toList_append, brackets, brackets, List.append_assoc]

theorem readsBack : statement.ReadsBack := by
  constructor
  · rw [legible.text_toList]
    exact Fragment.isChain_wrapped legible.inputs legible.outputs legible.body
  · have labels := Fragment.chainLabels_wrapped legible.inputs legible.outputs legible.body
    rw [← legible.text_toList] at labels
    simp [Fragment.statement, labels, asRead]

theorem endsUnquoted : Fragment.EndsUnquoted statement.text.toList := by
  rw [legible.text_toList]
  exact Fragment.endsUnquoted_wrapped legible.inputs legible.outputs legible.body

end Statement.IsLegible

end Montage
