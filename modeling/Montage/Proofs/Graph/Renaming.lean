import Montage.Proofs.Graph.Flow

/-!
# Renaming links

A final stream gets the label that is asked for by renaming the output that
declares it, which exchanges one declaration for another
(`perm_renameLast?`). If the output is declared once and never consumed, that is
the same as renaming the label wherever it stands (`renameLast?_eq`), and flows
can be renamed as a whole (`Flow.relabelled`).
-/

namespace Montage

open Montage.Composition

/-- Labels with one of them under another name. -/
def renamed (old new label : String) : String := if label = old then new else label

@[simp] theorem renamed_old (old new : String) : renamed old new old = new := by simp [renamed]

theorem renamed_of_ne {old new label : String} (other : label ≠ old) :
    renamed old new label = label := by simp [renamed, other]

theorem map_renamed_of_notMem {old new : String} {labels : List String} (absent : old ∉ labels) :
    labels.map (renamed old new) = labels := by
  have each : ∀ label ∈ labels, renamed old new label = id label := fun label member =>
    renamed_of_ne fun equal => absent (equal ▸ member)
  rw [List.map_congr_left each, List.map_id]

/-- Labels that differ still do under a new label for one of them. -/
theorem nodup_map_renamed {old new : String} {labels : List String} (distinct : labels.Nodup)
    (fresh : new ∉ labels) : (labels.map (renamed old new)).Nodup := by
  -- two labels are made equal only if the new one was there before
  refine (List.nodup_map_iff_inj_on distinct).mpr ?_
  intro label inside label' inside' equal
  unfold renamed at equal
  split at equal <;> split at equal
  · rename_i here there
    exact here.trans there.symm
  · exact absurd (equal ▸ inside') fresh
  · exact absurd (equal ▸ inside) fresh
  · exact equal

/-- The first of some labels renamed is all of them renamed, if they differ. -/
theorem replace_eq_map_renamed {old new : String} {labels : List String}
    (distinct : labels.Nodup) : labels.replace old new = labels.map (renamed old new) := by
  induction labels with
  | nil => rfl
  | cons label rest ih =>
      rw [List.nodup_cons] at distinct
      by_cases here : label = old
      · subst here
        rw [List.replace_cons_self, List.map_cons, renamed_old,
          map_renamed_of_notMem distinct.1]
      · have differs : (old == label) = false := beq_eq_false_iff_ne.mpr (Ne.symm here)
        simp only [List.replace_cons, differs, List.map_cons, renamed_of_ne here, ih distinct.2]

theorem perm_replace {old new : String} {labels : List String} (member : old ∈ labels) :
    (old :: labels.replace old new).Perm (new :: labels) := by
  induction labels with
  | nil => exact absurd member (by simp)
  | cons label rest ih =>
      by_cases here : old = label
      · subst here
        rw [List.replace_cons_self]
        exact List.Perm.swap ..
      · have differs : (old == label) = false := beq_eq_false_iff_ne.mpr here
        have inside : old ∈ rest := (List.mem_cons.mp member).resolve_left here
        simp only [List.replace_cons, differs]
        exact (List.Perm.swap ..).trans (((ih inside).cons label).trans (List.Perm.swap ..))

/-! ## Renaming in statements -/

/-- A statement with all its labels renamed. -/
def Statement.relabelled (f : String → String) (statement : Statement) : Statement :=
  { statement with inputs := statement.inputs.map f, outputs := statement.outputs.map f }

theorem Statement.relabelled_of_notMem {old new : String} {statement : Statement}
    (unused : old ∉ statement.inputs) (undeclared : old ∉ statement.outputs) :
    statement.relabelled (renamed old new) = statement := by
  unfold Statement.relabelled
  rw [map_renamed_of_notMem unused, map_renamed_of_notMem undeclared]

theorem map_relabelled_of_notMem {old new : String} {statements : List Statement}
    (unused : old ∉ statements.flatMap (·.inputs))
    (undeclared : old ∉ statements.flatMap (·.outputs)) :
    statements.map (Statement.relabelled (renamed old new)) = statements := by
  have each : ∀ statement ∈ statements,
      statement.relabelled (renamed old new) = id statement := fun statement member =>
    Statement.relabelled_of_notMem
      (fun inside => unused (List.mem_flatMap.mpr ⟨statement, member, inside⟩))
      (fun inside => undeclared (List.mem_flatMap.mpr ⟨statement, member, inside⟩))
  rw [List.map_congr_left each, List.map_id]

theorem outputs_relabelled (f : String → String) (statements : List Statement) :
    (statements.map (Statement.relabelled f)).flatMap (·.outputs) =
      (statements.flatMap (·.outputs)).map f := by
  rw [List.flatMap_map, List.map_flatMap]
  rfl

namespace FilterGraph

/-- Just the labels that are declared can be renamed. -/
theorem renameLast?_eq_none_iff {old new : String} {statements : List Statement} :
    renameLast? old new statements = none ↔ old ∉ statements.flatMap (·.outputs) := by
  induction statements with
  | nil => simp [renameLast?]
  | cons statement rest ih =>
      rw [renameLast?, List.flatMap_cons, List.mem_append, not_or]
      cases later : renameLast? old new rest with
      | some renamed =>
          have inside : old ∈ rest.flatMap (·.outputs) := by
            by_contra absent
            rw [ih.mpr absent] at later
            cases later
          simp [inside]
      | none => simp [ih.mp later]

/-- The last statement that declares the label is the one that changes. -/
theorem exists_renameLast? {old new : String} {statements renamed : List Statement}
    (result : renameLast? old new statements = some renamed) :
    ∃ earlier statement later, statements = earlier ++ statement :: later ∧
      old ∈ statement.outputs ∧
      renamed = earlier ++ statement.renameOutput old new :: later := by
  induction statements generalizing renamed with
  | nil => simp [renameLast?] at result
  | cons first rest ih =>
      rw [renameLast?] at result
      cases onward : renameLast? old new rest with
      | some others =>
          simp only [onward, Option.some.injEq] at result
          obtain ⟨earlier, statement, later, rfl, declares, rfl⟩ := ih onward
          exact ⟨first :: earlier, statement, later, rfl, declares, result.symm⟩
      | none =>
          simp only [onward] at result
          obtain ⟨declares, equal⟩ := Option.ite_none_right_eq_some.mp result
          exact ⟨[], first, rest, rfl, List.contains_iff_mem.mp declares,
            (Option.some.inj equal).symm⟩

/-- The later of two parts is renamed if it declares the label. -/
theorem renameLast?_append_right {old new : String} {more renamed : List Statement}
    (result : renameLast? old new more = some renamed) (statements : List Statement) :
    renameLast? old new (statements ++ more) = some (statements ++ renamed) := by
  induction statements with
  | nil => exact result
  | cons statement rest ih => simp [renameLast?, ih]

/-- An output that is declared once and not consumed is renamed everywhere. -/
theorem renameLast?_eq {old new : String} {statements : List Statement}
    (declared : old ∈ statements.flatMap (·.outputs))
    (distinct : (statements.flatMap (·.outputs)).Nodup)
    (unused : old ∉ statements.flatMap (·.inputs)) :
    renameLast? old new statements =
      some (statements.map (Statement.relabelled (renamed old new))) := by
  induction statements with
  | nil => exact absurd declared (by simp)
  | cons statement rest ih =>
      rw [List.flatMap_cons, List.mem_append] at declared
      rw [List.flatMap_cons, List.nodup_append] at distinct
      rw [List.flatMap_cons, List.mem_append, not_or] at unused
      by_cases later : old ∈ rest.flatMap (·.outputs)
      · -- the statement stays as it is, since the label is declared once
        have notHere : old ∉ statement.outputs := fun here => distinct.2.2 old here old later rfl
        rw [renameLast?, ih later distinct.2.1 unused.2, List.map_cons,
          Statement.relabelled_of_notMem unused.1 notHere]
      · have here : old ∈ statement.outputs := declared.resolve_right later
        have single : statement.renameOutput old new =
            statement.relabelled (renamed old new) := by
          unfold Statement.renameOutput Statement.relabelled
          rw [replace_eq_map_renamed distinct.1, map_renamed_of_notMem unused.1]
        simp [renameLast?, renameLast?_eq_none_iff.mpr later, here, single,
          map_relabelled_of_notMem unused.2 later]

/-- A graph with all its labels renamed. -/
def relabelled (f : String → String) (graph : FilterGraph) : FilterGraph :=
  ⟨graph.statements.map (Statement.relabelled f)⟩

theorem declared_relabelled (f : String → String) (graph : FilterGraph) :
    (graph.relabelled f).declared = graph.declared.map f :=
  outputs_relabelled f graph.statements

theorem consumed_relabelled (f : String → String) (graph : FilterGraph) :
    (graph.relabelled f).consumed = graph.consumed.map f := by
  unfold relabelled consumed
  rw [List.flatMap_map, List.map_flatMap]
  rfl

theorem renameOutput?_eq {graph : FilterGraph} {old new : String}
    (declared : old ∈ graph.declared) (distinct : graph.declared.Nodup)
    (unused : old ∉ graph.consumed) :
    graph.renameOutput? old new = some (graph.relabelled (renamed old new)) := by
  rw [renameOutput?, renameLast?_eq declared distinct unused]
  rfl

theorem renameOutput?_eq_none_iff {graph : FilterGraph} {old new : String} :
    graph.renameOutput? old new = none ↔ old ∉ graph.declared := by
  rw [renameOutput?, Option.map_eq_none_iff]
  exact renameLast?_eq_none_iff

/-- Renaming an output exchanges one declaration for another. -/
theorem perm_renameLast? {old new : String} {statements renamed : List Statement}
    (result : renameLast? old new statements = some renamed) :
    (old :: renamed.flatMap (·.outputs)).Perm (new :: statements.flatMap (·.outputs)) := by
  obtain ⟨earlier, statement, later, rfl, declares, rfl⟩ := exists_renameLast? result
  simp only [List.flatMap_append, List.flatMap_cons]
  -- the old label goes to the statement that declares it, and the new one leaves it
  refine List.perm_middle.symm.trans (List.Perm.trans ?_ List.perm_middle)
  exact ((perm_replace declares).append_right _).append_left _

/-- Renaming an output changes no body. -/
theorem bodies_renameLast? {old new : String} {statements renamed : List Statement}
    (result : renameLast? old new statements = some renamed) :
    renamed.map (·.body) = statements.map (·.body) := by
  obtain ⟨earlier, statement, later, rfl, -, rfl⟩ := exists_renameLast? result
  simp only [List.map_append, List.map_cons]
  rfl

end FilterGraph

/-! ## Renaming in flows -/

/-- Links under other labels. -/
def relabelLinks (f : String → String) (links : List Link) : List Link :=
  links.map fun (label, signal) => (f label, signal)

theorem relabelLinks_of_notMem {old new : String} {links : List Link}
    (absent : old ∉ links.map Prod.fst) : relabelLinks (renamed old new) links = links := by
  have each : ∀ link ∈ links, (renamed old new link.1, link.2) = id link := by
    intro link member
    have other : link.1 ≠ old := fun equal => absent (equal ▸ List.mem_map_of_mem member)
    rw [renamed_of_ne other]
    rfl
  rw [relabelLinks, List.map_congr_left each, List.map_id]

/-- A feed with its link renamed. -/
def Feed.relabelled (f : String → String) : Feed → Feed
  | source kind index => .source kind index
  | link label signal => .link (f label) signal

theorem Feed.signal_relabelled (f : String → String) (feed : Feed) :
    (feed.relabelled f).signal = feed.signal := by
  cases feed <;> rfl

theorem Feed.links_relabelled (f : String → String) (feed : Feed) :
    (feed.relabelled f).links = relabelLinks f feed.links := by
  cases feed <;> rfl

theorem Statement.results_relabelled (f : String → String) (statement : Statement)
    (sources : List MediaSignal) :
    (statement.relabelled f).results sources = relabelLinks f (statement.results sources) := by
  simp [Statement.results, Statement.relabelled, Statement.outputSignal, relabelLinks,
    List.zipIdx_map, Function.comp_def]

/-- A flow stays one if labels are renamed, streams of inputs excepted. -/
theorem Flow.relabelled {n : Nat} {before after : List Link} {statements : List Statement}
    {f : String → String}
    (streams : ∀ kind index, f (streamLabel kind index) = streamLabel kind index)
    (flow : Flow n before statements after) :
    Flow n (relabelLinks f before) (statements.map (Statement.relabelled f))
      (relabelLinks f after) := by
  induction flow with
  | done final => exact .done (final.map _)
  | @step before after statement rest feeds others inputs within taken _ ih =>
      have labels : (statement.relabelled f).inputs =
          (feeds.map (Feed.relabelled f)).map Feed.label := by
        show statement.inputs.map f = _
        rw [inputs, List.map_map, List.map_map]
        refine List.map_congr_left fun feed _ => ?_
        cases feed with
        | source kind index => exact streams kind index
        | link label signal => rfl
      have signals : (feeds.map (Feed.relabelled f)).map Feed.signal = feeds.map Feed.signal := by
        rw [List.map_map]
        exact List.map_congr_left fun feed _ => feed.signal_relabelled f
      have links : (feeds.map (Feed.relabelled f)).flatMap Feed.links =
          relabelLinks f (feeds.flatMap Feed.links) := by
        unfold relabelLinks
        rw [List.flatMap_map, List.map_flatMap]
        exact List.flatMap_congr fun feed _ => feed.links_relabelled f
      -- the same feeds under their new labels are taken out of the same links
      refine .step (feeds.map (Feed.relabelled f)) (relabelLinks f others) labels ?_ ?_ ?_
      · intro feed member
        obtain ⟨original, fed, rfl⟩ := List.mem_map.mp member
        cases original with
        | source kind index => exact within _ fed
        | link label signal => trivial
      · rw [links]
        simpa [relabelLinks] using taken.map fun (label, signal) => (f label, signal)
      · rw [signals, Statement.results_relabelled]
        simpa [relabelLinks] using ih

end Montage
