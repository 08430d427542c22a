import Montage.Program.Basic
import Montage.Proofs.Graph.Renaming

/-!
# Wired graphs

A graph is wired over some inputs if it flows from nothing to its open links
and declares only new labels. Wiring is kept when more statements follow
(`Wired.extend`) and when a final stream gets the label that is asked for
(`Wired.relabel`). A wired graph is valid, and its open links stand for the
signals they carry.
-/

namespace Montage

open Montage.Composition

/-- A graph with new labels only, and with some links open at its end. -/
structure FilterGraph.Wired (graph : FilterGraph) (n : Nat) (links : List Link) : Prop where
  flow : Flow n [] graph.statements links
  distinct : graph.declared.Nodup
  plain : ∀ label ∈ graph.declared, ':' ∉ label.toList

namespace FilterGraph.Wired

variable {graph : FilterGraph} {n : Nat} {links : List Link}

theorem noStream (wired : graph.Wired n links) :
    ∀ label ∈ graph.declared, isInputStream label = false := fun label declared =>
  isInputStream_eq_false (wired.plain label declared)

theorem valid (bound : n ≤ UInt64.size) (wired : graph.Wired n links) : graph.Valid n :=
  wired.flow.valid bound wired.noStream wired.distinct

theorem mem_links_iff (wired : graph.Wired n links) {label : String} :
    label ∈ links.map Prod.fst ↔ label ∈ graph.declared ∧ label ∉ graph.consumed :=
  wired.flow.mem_after_iff wired.plain wired.distinct

/-- No two open links share a label. -/
theorem nodup_links (wired : graph.Wired n links) : (links.map Prod.fst).Nodup := by
  have balance := wired.flow.balance wired.plain
  exact (List.nodup_append.mp (balance.nodup wired.distinct)).2.1

theorem signal (wired : graph.Wired n links) {feed : Feed}
    (held : ∀ link ∈ feed.links, link ∈ links) : graph.signal feed.label = feed.signal :=
  wired.flow.signal wired.plain wired.distinct held

theorem perm {links' : List Link} (same : links.Perm links') (wired : graph.Wired n links) :
    graph.Wired n links' :=
  ⟨wired.flow.perm_after same, wired.distinct, wired.plain⟩

theorem empty (n : Nat) : FilterGraph.Wired {} n [] where
  flow := .refl n []
  distinct := List.nodup_nil
  plain := by simp [FilterGraph.declared]

/-! ## More statements -/

theorem declared_extend (graph : FilterGraph) (more : List Statement) :
    (graph.extend more).declared = graph.declared ++ more.flatMap (·.outputs) :=
  List.flatMap_append

/-- More statements that take some of the open links and declare new labels. -/
theorem extend {before others after : List Link} {more : List Statement}
    (wired : graph.Wired n (before ++ others)) (flow : Flow n before more after)
    (distinct : (more.flatMap (·.outputs)).Nodup)
    (plain : ∀ label ∈ more.flatMap (·.outputs), ':' ∉ label.toList)
    (new : ∀ label ∈ more.flatMap (·.outputs), label ∉ graph.declared) :
    (graph.extend more).Wired n (after ++ others) where
  flow := wired.flow.append (flow.frame others)
  distinct := by
    rw [declared_extend]
    refine List.nodup_append.mpr ⟨wired.distinct, distinct, ?_⟩
    rintro label old _ again rfl
    exact new label again old
  plain := by
    rw [declared_extend, List.forall_mem_append]
    exact ⟨wired.plain, plain⟩

/-- More statements that declare links of the routes. -/
theorem extendWith {before others after : List Link} {more : List Statement}
    {names : List LinkName} (wired : graph.Wired n (before ++ others))
    (flow : Flow n before more after) (declares : Declares more names) (distinct : names.Nodup)
    (new : ∀ name ∈ names, name.text ∉ graph.declared) :
    (graph.extend more).Wired n (after ++ others) := by
  refine wired.extend flow (declares.nodup distinct) declares.colon_notMem ?_
  intro label member
  obtain ⟨name, listed, rfl⟩ := declares.mem member
  exact new name listed

/-! ## The label of a final stream -/

/-- An open link under a new label. -/
theorem rename {old new : String} {signal : MediaSignal} {others : List Link}
    (wired : graph.Wired n ((old, signal) :: others)) (plain : ':' ∉ new.toList)
    (fresh : new ∉ graph.declared) :
    ∃ graph', graph.renameOutput? old new = some graph' ∧
      graph'.Wired n ((new, signal) :: others) ∧
        graph'.declared = graph.declared.map (renamed old new) := by
  obtain ⟨declared, unused⟩ := (wired.mem_links_iff).mp (List.mem_cons_self ..)
  have apart : old ∉ others.map Prod.fst := (List.nodup_cons.mp wired.nodup_links).1
  have streams : ∀ kind index,
      renamed old new (streamLabel kind index) = streamLabel kind index := fun kind index =>
    renamed_of_ne fun equal => wired.plain old declared (equal ▸ colon_mem_streamLabel kind index)
  -- the other links keep their labels, since none of them is the old one
  have kept : relabelLinks (renamed old new) others = others := relabelLinks_of_notMem apart
  have flow := wired.flow.relabelled streams
  have links : relabelLinks (renamed old new) ((old, signal) :: others) =
      (new, signal) :: others := by
    show (renamed old new old, signal) :: relabelLinks (renamed old new) others = _
    rw [kept, renamed_old]
  rw [links] at flow
  refine ⟨graph.relabelled (renamed old new), renameOutput?_eq declared wired.distinct unused,
    ⟨flow, ?_, ?_⟩, declared_relabelled _ graph⟩
  · rw [declared_relabelled]
    exact nodup_map_renamed wired.distinct fresh
  · intro label member
    rw [declared_relabelled] at member
    obtain ⟨original, inside, rfl⟩ := List.mem_map.mp member
    unfold renamed
    split
    · exact plain
    · exact wired.plain original inside

end FilterGraph.Wired

/-! ## Relabelled streams -/

/-- What passes a stream through. -/
def passingOn : MediaKind → String
  | .video => "null"
  | .audio => "anull"

section

variable {graph graph' : FilterGraph} {kind : MediaKind} {current requested : String}

theorem relabel_none (kind : MediaKind) (graph : FilterGraph) (label : Option String) :
    relabel kind none graph label = (graph, label) := by
  cases label <;> rfl

theorem relabel_renamed (other : current ≠ requested)
    (result : graph.renameOutput? current requested = some graph') :
    relabel kind (some requested) graph (some current) = (graph', some requested) := by
  simp only [relabel, other, if_false, result]

/-- The last statement that declares the label of a stream is renamed. -/
theorem relabel_last {renamed : List Statement} (other : current ≠ requested)
    (result : FilterGraph.renameLast? current requested graph.statements = some renamed) :
    relabel kind (some requested) graph (some current) = (⟨renamed⟩, some requested) :=
  relabel_renamed other (congrArg (Option.map FilterGraph.mk) result)

theorem relabel_passed (other : current ≠ requested)
    (result : graph.renameOutput? current requested = none) :
    relabel kind (some requested) graph (some current) =
      (graph.extend [.chain .passthrough current (passingOn kind) requested], some requested) := by
  simp only [relabel, other, if_false, result]
  cases kind <;> rfl

/-- A final stream keeps its label, or the last statement that declares the label
is renamed, or the stream is passed through to the label that is asked for. -/
theorem relabel_cases (kind : MediaKind) (requested : Option String) (graph : FilterGraph)
    (label : Option String) :
    relabel kind requested graph label = (graph, label) ∨
      ∃ old new, label = some old ∧ requested = some new ∧ old ≠ new ∧
        ((∃ statements, FilterGraph.renameLast? old new graph.statements = some statements ∧
            relabel kind requested graph label = (⟨statements⟩, some new)) ∨
          relabel kind requested graph label =
            (graph.extend [.chain .passthrough old (passingOn kind) new], some new)) := by
  cases requested with
  | none => exact .inl (relabel_none kind graph label)
  | some new =>
      cases label with
      | none => exact .inl rfl
      | some old =>
          by_cases same : old = new
          · exact .inl (by simp only [relabel, same, if_true])
          · refine .inr ⟨old, new, rfl, rfl, same, ?_⟩
            cases result : FilterGraph.renameLast? old new graph.statements with
            | some statements => exact .inl ⟨statements, rfl, relabel_last same result⟩
            | none => exact .inr (relabel_passed same (congrArg (Option.map FilterGraph.mk) result))

end

/-- A final stream under the label that is asked for. -/
def Feed.named (kind : MediaKind) (requested : Option String) (feed : Feed) : Feed :=
  match requested, feed with
  | none, feed => feed
  | some label, .link _ signal => .link label signal
  | some label, .source kind' index =>
    .link label (.chain .passthrough (passingOn kind) (Feed.source kind' index).signal)

theorem Feed.named_fits {n : Nat} {kind : MediaKind} {feed : Feed} (requested : Option String)
    (fits : feed.Fits n kind) : (feed.named kind requested).Fits n kind := by
  cases requested with
  | none => exact fits
  | some label => cases feed <;> trivial

namespace FilterGraph.Wired

variable {graph : FilterGraph} {n : Nat} {others : List Link}

/-- A wired graph stays wired when one of its feeds gets a new label. -/
theorem relabel_feed {feed : Feed} {label : String} (kind : MediaKind)
    (wired : graph.Wired n (feed.links ++ others)) (within : feed.Within n)
    (plain : ':' ∉ label.toList) (fresh : label ∉ graph.declared) :
    ∃ graph', relabel kind (some label) graph (some feed.label) = (graph', some label) ∧
      graph'.Wired n ((feed.named kind (some label)).links ++ others) ∧
        ∀ other ∈ graph'.declared, other ∈ graph.declared ∨ other = label := by
  cases feed with
  | source kind' index =>
      -- no statement declares a stream of an input, so it is passed through
      have colon := colon_mem_streamLabel kind' index
      have other : streamLabel kind' index ≠ label := fun equal => plain (equal ▸ colon)
      have undeclared : streamLabel kind' index ∉ graph.declared := fun declared =>
        wired.plain _ declared colon
      have result : graph.renameOutput? (streamLabel kind' index) label = none :=
        renameOutput?_eq_none_iff.mpr undeclared
      have flow := Flow.chain within .passthrough (passingOn kind) label
      have besides : graph.Wired n ([] ++ others) := wired
      refine ⟨_, relabel_passed other result, ?_, ?_⟩
      · exact besides.extend flow (List.nodup_singleton _)
          (List.forall_mem_singleton.mpr plain) (List.forall_mem_singleton.mpr fresh)
      · intro other declared
        rw [declared_extend, List.mem_append] at declared
        exact declared.imp_right List.mem_singleton.mp
  | link old signal =>
      obtain ⟨graph', result, wired', declared'⟩ := rename wired plain fresh
      have declared : old ∈ graph.declared :=
        ((wired.mem_links_iff).mp (List.mem_cons_self ..)).1
      have other : old ≠ label := fun equal => fresh (equal ▸ declared)
      refine ⟨graph', relabel_renamed other result, wired', ?_⟩
      intro label' member
      rw [declared'] at member
      obtain ⟨original, inside, rfl⟩ := List.mem_map.mp member
      by_cases here : original = old
      · exact .inr (by rw [here, renamed_old])
      · exact .inl (by rwa [renamed_of_ne here])

/-- A wired graph stays wired when a final stream gets a label that is new. -/
theorem relabel {feed : Option Feed} (kind : MediaKind)
    (wired : graph.Wired n (feed.toList.flatMap Feed.links ++ others))
    (within : ∀ given ∈ feed, given.Within n) {requested : Option String}
    (plain : ∀ label ∈ requested, ':' ∉ label.toList)
    (fresh : ∀ label ∈ requested, label ∉ graph.declared) :
    ∃ graph', Composition.relabel kind requested graph (feed.map Feed.label) =
        (graph', (feed.map (Feed.named kind requested)).map Feed.label) ∧
      graph'.Wired n ((feed.map (Feed.named kind requested)).toList.flatMap Feed.links ++ others) ∧
        ∀ label ∈ graph'.declared, label ∈ graph.declared ∨ label ∈ requested := by
  cases requested with
  | none =>
      refine ⟨graph, ?_, ?_, fun _ old => .inl old⟩
      · rw [relabel_none]
        cases feed <;> rfl
      · cases feed <;> exact wired
  | some label =>
      cases feed with
      | none => exact ⟨graph, rfl, wired, fun _ old => .inl old⟩
      | some feed =>
          rw [Option.toList_some, List.flatMap_singleton] at wired
          obtain ⟨graph', equal, wired', declared⟩ :=
            wired.relabel_feed kind (within feed rfl) (plain label rfl) (fresh label rfl)
          refine ⟨graph', ?_, ?_, ?_⟩
          · rw [Option.map_some, equal]
            cases feed <;> rfl
          · simpa using wired'
          · intro other member
            rcases declared other member with old | rfl
            · exact .inl old
            · exact .inr rfl

end FilterGraph.Wired

end Montage
