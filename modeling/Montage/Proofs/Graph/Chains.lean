import Montage.Graph.Basic
import Montage.Proofs.Graph.Splitting

/-!
# Chains in a graph's text

A graph's text is its statements with separators between them. Reading it cuts
it into chains again, and these are the statements just when each of them but
the last ends outside quotes and escapes (`readsAs_iff`): the separator after
one that does not is taken for a part of it.
-/

namespace Montage

/-- Whether a text ends outside quotes and escapes. -/
def Fragment.EndsUnquoted (cs : List Char) : Prop := QuoteState.after {} cs = {}

instance (cs : List Char) : Decidable (Fragment.EndsUnquoted cs) :=
  inferInstanceAs (Decidable (_ = _))

namespace Fragment

variable {blanks chain rest : List Char} {texts : List (List Char)}

/-- A text that a fragment can have for a chain. -/
structure IsChain (chain : List Char) : Prop where
  whole : Uncut ';' {} chain
  trimmed : Text.IsTrimmed chain
  nonempty : chain ≠ []

theorem isPlain_semicolon : IsPlain ';' := by
  constructor <;> decide

/-- What remains of some parts of a fragment as chains. -/
def kept (parts : List (List Char)) : List (List Char) :=
  (parts.map Text.trimChars).filter fun chain => !chain.isEmpty

theorem chains_eq_kept (cs : List Char) : chains cs = kept (splitUnquoted ';' cs) := rfl

theorem kept_cons (isChain : IsChain chain) (parts : List (List Char)) :
    kept (chain :: parts) = chain :: kept parts := by
  have trimmed : Text.trimChars chain = chain := isChain.trimmed
  simp [kept, trimmed, isChain.nonempty]

theorem isChain_of_mem {cs : List Char} (member : chain ∈ chains cs) : IsChain chain := by
  unfold chains at member
  obtain ⟨found, some⟩ := List.mem_filter.mp member
  obtain ⟨part, inside, rfl⟩ := List.mem_map.mp found
  exact ⟨uncut_trimChars (uncut_of_mem inside), Text.isTrimmed_trimChars part,
    by simpa using some⟩

/-! ## One chain -/

theorem chains_of_isChain (isChain : IsChain chain) : chains chain = [chain] := by
  have whole : splitUnquoted ';' chain = [chain] := isChain.whole
  rw [chains_eq_kept, whole, kept_cons isChain]
  rfl

/-- Blanks before a chain do not count. -/
theorem chains_append_blank (blank : Text.AllBlank blanks) (rest : List Char) :
    chains (blanks ++ rest) = chains rest := by
  have whole : Uncut ';' {} blanks :=
    uncut_of_notMem fun member => absurd (blank ';' member) (by decide)
  rw [chains_eq_kept, chains_eq_kept, splitUnquoted, splitFrom_append_uncut whole,
    after_of_allBlank blank]
  unfold splitUnquoted
  cases parts : splitFrom ';' {} rest with
  | nil => exact absurd parts (splitFrom_ne_nil _ _ _)
  | cons first others =>
      simp only [List.modifyHead_cons, kept, List.map_cons, Text.trimChars,
        Text.trimLeft_append_blank blank]

/-- A chain that ends outside quotes and escapes is cut off. -/
theorem chains_append_closed (isChain : IsChain chain) (closed : EndsUnquoted chain)
    (rest : List Char) : chains (chain ++ ';' :: rest) = chain :: chains rest := by
  have whole : splitFrom ';' {} chain = [chain] := isChain.whole
  rw [chains_eq_kept, chains_eq_kept, splitUnquoted,
    splitFrom_append_closed isPlain_semicolon closed, whole]
  exact kept_cons isChain _

/-- Any other chain is read on with the separator in it. -/
theorem chains_append_unclosed (isChain : IsChain chain) (unclosed : ¬ EndsUnquoted chain)
    (rest : List Char) :
    ∃ longer others, chains (chain ++ ';' :: rest) = longer :: others ∧ longer ≠ chain := by
  obtain ⟨more, parts, split⟩ := splitFrom_append_unclosed isChain.whole unclosed rest
  have trimmed : Text.trimChars (chain ++ ';' :: more) = chain ++ ';' :: Text.trimRight more := by
    have left : Text.trimLeft (chain ++ ';' :: more) = chain ++ ';' :: more := by
      cases chain with
      | nil => exact absurd rfl isChain.nonempty
      | cons c tail => exact Text.trimLeft_cons_of_not isChain.trimmed.head _
    rw [Text.trimChars, left]
    exact Text.trimRight_append_cons (by decide) chain more
  refine ⟨chain ++ ';' :: Text.trimRight more, kept parts, ?_, ?_⟩
  · rw [chains_eq_kept, splitUnquoted, split]
    simp [kept, trimmed]
  · intro same
    simpa using congrArg List.length same

/-! ## Joined chains -/

/-- Chains with semicolons and blanks between them are read back just when each
of them but the last ends outside quotes and escapes. -/
theorem chains_intercalate_iff (blank : Text.AllBlank blanks)
    (each : ∀ chain ∈ texts, IsChain chain) :
    chains ((';' :: blanks).intercalate texts) = texts ↔
      ∀ chain ∈ texts.dropLast, EndsUnquoted chain := by
  induction texts with
  | nil =>
      rw [List.intercalate_nil]
      simp [chains, splitUnquoted, splitFrom, Text.trimChars, Text.trimLeft, Text.trimRight]
  | cons chain rest ih =>
      rw [List.forall_mem_cons] at each
      cases rest with
      | nil => simpa using chains_of_isChain each.1
      | cons next others =>
          rw [List.intercalate_cons_cons, List.append_assoc, List.cons_append,
            List.dropLast_cons_of_ne_nil (List.cons_ne_nil next others), List.forall_mem_cons]
          by_cases closed : EndsUnquoted chain
          · rw [chains_append_closed each.1 closed, chains_append_blank blank, List.cons.injEq,
              ih each.2]
            simp [closed]
          · -- the first chain that is read is longer than the one that is written
            obtain ⟨longer, more, read, differs⟩ := chains_append_unclosed each.1 closed
              (blanks ++ (';' :: blanks).intercalate (next :: others))
            rw [read, List.cons.injEq]
            simp [closed, differs]

end Fragment

/-! ## Statements of a graph -/

/-- A statement as a reader of its text knows it. -/
def Statement.asRead (statement : Statement) : Statement :=
  ⟨.raw, statement.inputs, statement.outputs, statement.text⟩

/-- A statement that is read from its own text. -/
structure Statement.ReadsBack (statement : Statement) : Prop where
  isChain : Fragment.IsChain statement.text.toList
  labels : Fragment.statement statement.text.toList = statement.asRead

/-- What a fragment's statements are read from is their text. -/
theorem Fragment.readsBack_of_mem {text : String} {statement : Statement}
    (member : statement ∈ Fragment.statements text) :
    statement.ReadsBack ∧ statement.asRead = statement := by
  obtain ⟨chain, found, rfl⟩ := List.mem_map.mp member
  have same : (Fragment.statement chain).text.toList = chain := String.toList_ofList
  refine ⟨⟨same.symm ▸ isChain_of_mem found, ?_⟩, rfl⟩
  rw [same]
  rfl

namespace FilterGraph

/-- Reading a graph's text gives its statements in their order just when each
of them but the last ends outside quotes and escapes. -/
theorem readsAs_iff (graph : FilterGraph) (blanks : String)
    (blank : Text.AllBlank blanks.toList)
    (each : ∀ statement ∈ graph.statements, statement.ReadsBack) :
    Fragment.statements (graph.textWith (";" ++ blanks)) =
        graph.statements.map Statement.asRead ↔
      ∀ statement ∈ graph.statements.dropLast, Fragment.EndsUnquoted statement.text.toList := by
  have chars : (graph.textWith (";" ++ blanks)).toList =
      (';' :: blanks.toList).intercalate
        (graph.statements.map fun statement => statement.text.toList) := by
    rw [textWith, String.toList_intercalate, List.map_map, String.toList_append]
    rfl
  have texts : (∀ chain ∈ (graph.statements.map fun statement => statement.text.toList),
      Fragment.IsChain chain) := by
    rw [List.forall_mem_map]
    exact fun statement member => (each statement member).isChain
  have labels : graph.statements.map Statement.asRead =
      (graph.statements.map fun statement => statement.text.toList).map Fragment.statement := by
    rw [List.map_map]
    exact List.map_congr_left fun statement member => (each statement member).labels.symm
  -- a statement that is read keeps its chain for its body
  have injective : Function.Injective Fragment.statement := fun chain chain' equal =>
    String.ofList_injective (congrArg Statement.body equal)
  rw [Fragment.statements, chars, labels, List.map_inj_right fun _ _ equal => injective equal,
    Fragment.chains_intercalate_iff blank texts, ← List.map_dropLast, List.forall_mem_map]

end FilterGraph

end Montage
