import Montage.Proofs.Graph.Faults
import Montage.Proofs.Graph.Renaming

/-!
# Valid graphs under another label

An output that nothing consumes can go by any new label: the graph stays valid
(`Valid.relabelled`) and leaves the same links over, this one under its new
label (`Valid.dangling_relabelled`). The renaming changes one label at one place
(`FilterGraph.Renames`); a label that no statement declares cannot be renamed.
-/

namespace Montage

namespace FilterGraph

variable {graph : FilterGraph} {n : Nat} {old new : String}

/-! ## One place -/

/-- The one output under a label has another label in a second graph. Everything
else stands where it stood. -/
def Renames (old new : String) (graph graph' : FilterGraph) : Prop :=
  ∃ earlier statement later before after,
    graph.statements = earlier ++ statement :: later ∧
      statement.outputs = before ++ old :: after ∧
        graph'.statements =
          earlier ++ { statement with outputs := before ++ new :: after } :: later ∧
            old ∉ graph'.declared

/-- A label that differs from all others around it is the only one renamed. -/
theorem map_renamed_around {before after : List String}
    (distinct : (before ++ old :: after).Nodup) :
    (before ++ old :: after).map (renamed old new) = before ++ new :: after := by
  obtain ⟨-, rest, apart⟩ := List.nodup_append.mp distinct
  have notBefore : old ∉ before := fun inside =>
    apart old inside old List.mem_cons_self rfl
  rw [List.map_append, List.map_cons, renamed_old, map_renamed_of_notMem notBefore,
    map_renamed_of_notMem (List.nodup_cons.mp rest).1]

/-- A label that is declared once and not consumed is renamed at one place. -/
theorem renames_relabelled (declared : old ∈ graph.declared) (distinct : graph.declared.Nodup)
    (unused : old ∉ graph.consumed) (fresh : new ∉ graph.declared) :
    graph.Renames old new (graph.relabelled (renamed old new)) := by
  obtain ⟨statement, member, output⟩ := List.mem_flatMap.mp declared
  obtain ⟨earlier, later, split⟩ := List.append_of_mem member
  obtain ⟨before, after, outputs⟩ := List.append_of_mem output
  unfold FilterGraph.declared at distinct
  unfold FilterGraph.consumed at unused
  rw [split, List.flatMap_append, List.flatMap_cons, List.nodup_append, List.nodup_append]
    at distinct
  rw [split, List.flatMap_append, List.flatMap_cons, List.mem_append, List.mem_append, not_or,
    not_or] at unused
  obtain ⟨-, ⟨own, -, apartLater⟩, apartEarlier⟩ := distinct
  -- the statements around declare other labels
  have notEarlier : old ∉ earlier.flatMap (·.outputs) := by
    intro inside
    exact apartEarlier old inside old (List.mem_append_left _ output) rfl
  have notLater : old ∉ later.flatMap (·.outputs) := by
    intro inside
    exact apartLater old output old inside rfl
  have here : statement.relabelled (renamed old new) =
      { statement with outputs := before ++ new :: after } := by
    unfold Statement.relabelled
    rw [map_renamed_of_notMem unused.2.1, outputs, map_renamed_around (outputs ▸ own)]
  refine ⟨earlier, statement, later, before, after, split, outputs, ?_, ?_⟩
  · show graph.statements.map _ = _
    rw [split, List.map_append, List.map_cons, here,
      map_relabelled_of_notMem unused.1 notEarlier, map_relabelled_of_notMem unused.2.2 notLater]
  · rw [declared_relabelled]
    intro inside
    obtain ⟨label, there, equal⟩ := List.mem_map.mp inside
    unfold renamed at equal
    split at equal
    · subst equal
      exact fresh declared
    · rename_i other
      exact other equal

/-! ## Valid graphs -/

/-- What a valid graph consumes is a stream of an input or declared. -/
theorem Valid.notMem_consumed (valid : graph.Valid n) (fresh : new ∉ graph.declared)
    (plain : isInputStream new = false) : new ∉ graph.consumed := by
  intro consumed
  have link : new ∈ linksOf graph.consumed := mem_linksOf.mpr ⟨consumed, plain⟩
  exact fresh ((valid.mem_linksOf_consumed new).mp link).1

/-- A valid graph stays valid when an output that nothing consumes gets a new
label. -/
theorem Valid.relabelled (valid : graph.Valid n) (unused : old ∉ graph.consumed)
    (fresh : new ∉ graph.declared) (plain : isInputStream new = false) :
    (graph.relabelled (renamed old new)).Valid n where
  supplied := by
    intro earlier' statement' later' split label input
    -- every statement stands where it stood, and consumes what it consumed
    obtain ⟨earlier, rest, whole, rfl, more⟩ := List.map_eq_append_iff.mp split
    obtain ⟨statement, later, rfl, rfl, rfl⟩ := List.map_eq_cons_iff.mp more
    have consumed : ∀ label ∈ statement.inputs, label ∈ graph.consumed := by
      intro label member
      refine List.mem_flatMap.mpr ⟨statement, ?_, member⟩
      rw [whole]
      exact List.mem_append_right _ List.mem_cons_self
    have same : (statement.relabelled (renamed old new)).inputs = statement.inputs :=
      map_renamed_of_notMem fun inside => unused (consumed old inside)
    rw [same] at input
    rcases valid.supplied earlier statement later whole label input with stream | ⟨link, declared⟩
    · exact .inl stream
    · refine .inr ⟨link, ?_⟩
      have other : label ≠ old := by
        rintro rfl
        exact unused (consumed label input)
      rw [outputs_relabelled]
      exact List.mem_map.mpr ⟨label, declared, renamed_of_ne other⟩
  declaredOnce := by
    rw [declared_relabelled]
    exact nodup_map_renamed valid.declaredOnce fresh
  declaredPlain := by
    intro label member
    rw [declared_relabelled] at member
    obtain ⟨original, declared, rfl⟩ := List.mem_map.mp member
    unfold renamed
    split
    · exact plain
    · exact valid.declaredPlain original declared
  consumedOnce := by
    rw [consumed_relabelled, map_renamed_of_notMem unused]
    exact valid.consumedOnce

/-- The links that are left over keep their order, and one of them has a new
label. -/
theorem Valid.dangling_relabelled (valid : graph.Valid n) (unused : old ∉ graph.consumed)
    (fresh : new ∉ graph.declared) (plain : isInputStream new = false) :
    (graph.relabelled (renamed old new)).dangling = graph.dangling.map (renamed old new) := by
  have unusedNew := valid.notMem_consumed fresh plain
  have same : ∀ label, graph.consumes (renamed old new label) = graph.consumes label := by
    intro label
    unfold renamed
    split
    · rename_i here
      rw [here, consumes, consumes, List.contains_eq_mem, List.contains_eq_mem]
      simp [unused, unusedNew]
    · rfl
  unfold dangling consumes
  rw [declared_relabelled, consumed_relabelled, map_renamed_of_notMem unused, List.filter_map]
  congr 1
  refine List.filter_congr fun label _ => ?_
  exact congrArg (!·) (same label)

/-- In a valid graph an output that nothing consumes can be renamed to any new
label, which changes nothing but this label: the graph stays valid and leaves
the same links over, this one under its new label at the same place. A label
that no statement declares cannot be renamed, and then no graph takes the place
of the old one. -/
theorem renameOutput_keeps_valid (graph : FilterGraph) (old new : String) :
    (∀ n, graph.validate n = .ok () → graph.declares old = true → graph.consumes old = false →
      graph.declares new = false → isInputStream new = false →
        ∃ graph', graph.renameOutput? old new = some graph' ∧ graph'.validate n = .ok () ∧
          (∃ before after, graph.dangling = before ++ old :: after ∧
            graph'.dangling = before ++ new :: after) ∧
          graph.Renames old new graph') ∧
    (graph.renameOutput? old new = none ↔ graph.declares old = false) := by
  have declares_iff : ∀ label, graph.declares label = true ↔ label ∈ graph.declared :=
    fun label => List.contains_iff_mem
  constructor
  · intro n accepted declares consumes undeclared plain
    have valid := validate_ok_iff.mp accepted
    have declared := (declares_iff old).mp declares
    have unused : old ∉ graph.consumed := by
      intro consumed
      rw [FilterGraph.consumes, List.contains_iff_mem.mpr consumed] at consumes
      cases consumes
    have fresh : new ∉ graph.declared := by
      intro member
      rw [(declares_iff new).mpr member] at undeclared
      cases undeclared
    refine ⟨_, renameOutput?_eq declared valid.declaredOnce unused,
      validate_ok_iff.mpr (valid.relabelled unused fresh plain), ?_,
      renames_relabelled declared valid.declaredOnce unused fresh⟩
    have left : old ∈ graph.dangling := by
      refine List.mem_filter.mpr ⟨declared, ?_⟩
      rw [consumes]
      rfl
    obtain ⟨before, after, split⟩ := List.append_of_mem left
    have distinct : graph.dangling.Nodup := valid.declaredOnce.filter _
    refine ⟨before, after, split, ?_⟩
    rw [valid.dangling_relabelled unused fresh plain, split]
    rw [split] at distinct
    exact map_renamed_around distinct
  · rw [renameOutput?_eq_none_iff, ← declares_iff, Bool.not_eq_true]

/-- Two clips that are joined, with their video made transparent. -/
def faded : FilterGraph where
  statements := [⟨.concat, ["0:v", "0:a", "1:v", "1:a"], ["picture", "sound"], "concat=n=2"⟩,
    .chain .alpha "picture" "format=rgba" "faded"]

theorem renameOutput_faded :
    (∃ graph', faded.renameOutput? "sound" "music" = some graph' ∧
      graph'.validate 2 = .ok () ∧
      (∃ before after, faded.dangling = before ++ "sound" :: after ∧
        graph'.dangling = before ++ "music" :: after) ∧
      faded.Renames "sound" "music" graph') ∧
    faded.renameOutput? "voice" "music" = none := by
  have accepted : faded.validate 2 = .ok () := by decide +kernel
  exact ⟨(renameOutput_keeps_valid faded "sound" "music").1 2 accepted (by decide) (by decide)
      (by decide) (by decide +kernel),
    (renameOutput_keeps_valid faded "voice" "music").2.mpr (by decide)⟩

end FilterGraph

end Montage
