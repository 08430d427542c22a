import Montage.Filter
import Montage.Proofs.Graph.Wiring
import Mathlib.Data.List.Pairwise

/-!
# Kinds of streams

A filter takes streams of certain kinds and gives streams of certain kinds
(`Handles`), so every output of a graph has a kind by the filter it comes from
(`FilterGraph.Names`). The tree that a link stands for has a kind if each filter
in it takes what it should (`MediaSignal.HasKind`). If that is so for the links
that are open at the end of a flow, each of its statements takes streams of the
kinds that its filter takes (`Flow.takesKinds`), since what it declares ends up
in one of these trees.
-/

namespace Montage

open Montage.Composition

/-! ## Filters -/

/-- The kinds of the streams of one segment: video, then audio. -/
def segmentKinds (video audio : Bool) : List MediaKind :=
  (if video then [.video] else []) ++ (if audio then [.audio] else [])

/-- The kinds of the streams that a filter takes, and of those that it gives. -/
inductive Handles : FilterKind → String → List MediaKind → List MediaKind → Prop
  | normalize (body : String) : Handles .normalize body [.video] [.video]
  | normalizeAudio (body : String) : Handles .normalizeAudio body [.audio] [.audio]
  | silentAudio (body : String) : Handles .silentAudio body [] [.audio]
  | concat (segments : Nat) (video audio : Bool) :
      Handles .concat (Filter.concat segments video audio)
        (List.replicate segments (segmentKinds video audio)).flatten (segmentKinds video audio)
  | timePad (body : String) : Handles .timePad body [.video] [.video]
  | colorKey (body : String) : Handles .colorKey body [.video] [.video]
  | scale (body : String) : Handles .scale body [.video] [.video]
  | alpha (body : String) : Handles .alpha body [.video] [.video]
  | overlay (body : String) : Handles .overlay body [.video, .video] [.video]
  | audioTiming (body : String) : Handles .audioTiming body [.audio] [.audio]
  | mix (inputs : Nat) :
      Handles .mix (Filter.mix inputs) (List.replicate inputs .audio) [.audio]
  | passthrough (kind : MediaKind) : Handles .passthrough (passingOn kind) [kind] [kind]

theorem concat_inj {segments segments' : Nat} {video video' audio audio' : Bool}
    (equal : Filter.concat segments video audio = Filter.concat segments' video' audio') :
    video = video' ∧ audio = audio' := by
  -- what follows the number of segments always has the same length
  have chars : ∀ (n : Nat) (v a : Bool), (Filter.concat n v a).toList =
      ("concat=n=".toList ++ (toString n).toList) ++
        (":v=".toList ++ (toString v.toNat).toList ++ ":a=".toList ++
          (toString a.toNat).toList) := by
    intro n v a
    unfold Filter.concat
    simp only [String.toList_append, List.append_assoc]
  have lists := congrArg String.toList equal
  rw [chars, chars] at lists
  have tails := (List.append_inj' lists (by cases video <;> cases video' <;> cases audio <;>
    cases audio' <;> decide)).2
  revert tails
  cases video <;> cases video' <;> cases audio <;> cases audio' <;> decide

/-- What a filter gives is settled by its kind and its body. -/
theorem Handles.gives_eq {kind : FilterKind} {body : String}
    {takes takes' gives gives' : List MediaKind} (first : Handles kind body takes gives)
    (second : Handles kind body takes' gives') : gives = gives' := by
  cases first with
  | concat segments video audio =>
      generalize same : Filter.concat segments video audio = text at second
      cases second with
      | concat segments' video' audio' =>
          obtain ⟨rfl, rfl⟩ := concat_inj same
          rfl
  | passthrough given =>
      generalize same : passingOn given = text at second
      cases second with
      | passthrough given' =>
          cases given <;> cases given' <;> first | rfl | exact absurd same (by decide)
  | mix inputs =>
      generalize Filter.mix inputs = text at second
      cases second
      rfl
  | _ => cases second; rfl

/-! ## Labels -/

/-- A label of a stream of some kind: a stream of an input, or an output of a
filter that gives that kind there. -/
def FilterGraph.Names (graph : FilterGraph) (label : String) (kind : MediaKind) : Prop :=
  (∃ index, label = streamLabel kind index) ∨
    ∃ statement ∈ graph.statements, ∃ takes gives, ∃ pad : Nat,
      Handles statement.kind statement.body takes gives ∧
        statement.outputs[pad]? = some label ∧ gives[pad]? = some kind

/-- A statement of a graph that takes streams of the kinds that its filter
takes, and has an output for each stream that the filter gives. -/
def FilterGraph.TakesKinds (graph : FilterGraph) (statement : Statement) : Prop :=
  ∃ takes gives, Handles statement.kind statement.body takes gives ∧
    statement.outputs.length = gives.length ∧ List.Forall₂ graph.Names statement.inputs takes

/-- In a graph that declares each label once a link has one kind. -/
theorem FilterGraph.Names.unique {graph : FilterGraph} {label : String} {kind kind' : MediaKind}
    (distinct : graph.declared.Nodup) (link : ':' ∉ label.toList) (first : graph.Names label kind)
    (second : graph.Names label kind') : kind = kind' := by
  have noStream : ∀ kind index, label ≠ streamLabel kind index := fun kind index equal =>
    link (equal ▸ colon_mem_streamLabel kind index)
  obtain ⟨statement, member, takes, gives, pad, handles, found, given⟩ :=
    first.resolve_left fun ⟨index, equal⟩ => noStream kind index equal
  obtain ⟨statement', member', takes', gives', pad', handles', found', given'⟩ :=
    second.resolve_left fun ⟨index, equal⟩ => noStream kind' index equal
  obtain ⟨own, apart⟩ := List.nodup_flatMap.mp distinct
  -- two statements with the label would declare it twice
  have same : statement = statement' := by
    by_contra differ
    have symmetric : Std.Symm
        (Function.onFun List.Disjoint fun statement : Statement => statement.outputs) :=
      ⟨fun _ _ disjoint _ there here => disjoint here there⟩
    have disjoint : List.Disjoint statement.outputs statement'.outputs :=
      apart.forall member member' differ
    exact disjoint (List.mem_of_getElem? found) (List.mem_of_getElem? found')
  subst same
  have pads : pad = pad' := by
    obtain ⟨bound, here⟩ := List.getElem?_eq_some_iff.mp found
    obtain ⟨bound', there⟩ := List.getElem?_eq_some_iff.mp found'
    exact (List.Nodup.getElem_inj_iff (own statement member)).mp (here.trans there.symm)
  rw [← pads, ← handles.gives_eq handles', given] at given'
  exact Option.some.inj given'

/-! ## Trees -/

/-- A tree of some kind: a stream of an input, or an output of a filter over
trees of the kinds that it takes. -/
inductive MediaSignal.HasKind : MediaSignal → MediaKind → Prop
  | input (kind : MediaKind) (index : Nat) : HasKind (.input (streamLabel kind index)) kind
  | output {kind : FilterKind} {body : String} {sources : List MediaSignal}
      {takes gives : List MediaKind} {pad : Nat} {given : MediaKind} :
      Handles kind body takes gives → List.Forall₂ HasKind sources takes →
        gives[pad]? = some given → HasKind (.output kind body sources gives.length pad) given

namespace MediaSignal.HasKind

/-- The output of a filter that has one. -/
theorem single {kind : FilterKind} {body : String} {trees : List MediaSignal}
    {takes : List MediaKind} {given : MediaKind} (handles : Handles kind body takes [given])
    (kinded : List.Forall₂ HasKind trees takes) :
    (MediaSignal.output kind body trees 1 0).HasKind given := by
  have first : [given][0]? = some given := rfl
  exact HasKind.output handles kinded first

/-- A filter with one input and one output over a tree of the kind it takes. -/
theorem chain {kind : FilterKind} {body : String} {source : MediaSignal} {taken given : MediaKind}
    (handles : Handles kind body [taken] [given]) (tree : source.HasKind taken) :
    (MediaSignal.chain kind body source).HasKind given :=
  .single handles (.cons tree .nil)

/-- The filter that an output comes from takes the trees that it is over. -/
theorem sources {kind : FilterKind} {body : String} {trees : List MediaSignal} {pads pad : Nat}
    {given : MediaKind} (tree : (MediaSignal.output kind body trees pads pad).HasKind given) :
    ∃ takes gives, Handles kind body takes gives ∧ pads = gives.length ∧
      gives[pad]? = some given ∧ List.Forall₂ MediaSignal.HasKind trees takes := by
  cases tree with
  | output handles kinded found => exact ⟨_, _, handles, rfl, found, kinded⟩

end MediaSignal.HasKind

/-! ## Flows -/

/-- A link that one of the statements of a graph opens. -/
def FilterGraph.Opens (graph : FilterGraph) (link : Link) : Prop :=
  ∃ statement ∈ graph.statements, ∃ sources, link ∈ statement.results sources

section

variable {graph : FilterGraph} {n : Nat} {before after : List Link} {statements : List Statement}

/-- An open link is named for the kind of its tree. -/
theorem FilterGraph.Opens.names {label : String} {signal : MediaSignal} {kind : MediaKind}
    (opened : graph.Opens (label, signal)) (tree : signal.HasKind kind) :
    graph.Names label kind := by
  obtain ⟨statement, member, sources, result⟩ := opened
  obtain ⟨⟨label', pad⟩, output, equal⟩ := List.mem_map.mp result
  obtain ⟨rfl, rfl⟩ := Prod.mk.inj equal
  obtain ⟨takes, gives, handles, -, given, -⟩ := tree.sources
  exact .inr ⟨statement, member, takes, gives, pad, handles,
    List.mem_zipIdx_iff_getElem?.mp output, given⟩

/-- A feed is named for the kind of its tree. -/
theorem Feed.names {feed : Feed} {kind : MediaKind}
    (opened : ∀ link ∈ feed.links, graph.Opens link) (tree : feed.signal.HasKind kind) :
    graph.Names feed.label kind := by
  cases feed with
  | source kind' index =>
      generalize same : Feed.signal (.source kind' index) = signal at tree
      cases tree with
      | input kind index' =>
          have labels := MediaSignal.input.inj same
          obtain ⟨rfl, rfl⟩ := streamLabel_inj.mp labels
          exact .inl ⟨index, rfl⟩
      | output _ _ _ => exact absurd same MediaSignal.noConfusion
  | link label signal => exact (opened _ (List.mem_singleton_self _)).names tree

/-- Feeds over trees of some kinds are named for these kinds. -/
theorem Feed.forall₂_names {feeds : List Feed} {takes : List MediaKind}
    (opened : ∀ link ∈ feeds.flatMap Feed.links, graph.Opens link)
    (trees : List.Forall₂ MediaSignal.HasKind (feeds.map Feed.signal) takes) :
    List.Forall₂ graph.Names (feeds.map Feed.label) takes ∧
      ∀ link ∈ feeds.flatMap Feed.links, ∃ kind, link.2.HasKind kind := by
  induction feeds generalizing takes with
  | nil =>
      cases trees
      exact ⟨.nil, by simp⟩
  | cons feed rest ih =>
      rw [List.flatMap_cons, List.forall_mem_append] at opened
      cases trees with
      | cons tree others =>
          obtain ⟨names, links⟩ := ih opened.2 others
          refine ⟨.cons (feed.names opened.1 tree) names, ?_⟩
          rw [List.flatMap_cons, List.forall_mem_append]
          refine ⟨fun link member => ?_, links⟩
          cases feed with
          | source kind index => exact absurd member (by simp [Feed.links])
          | link label signal =>
              rw [List.mem_singleton.mp member]
              exact ⟨_, tree⟩

/-- After a step the open links come from a statement if they did before. -/
theorem FilterGraph.opens_step {statement : Statement} {feeds : List Feed} {others : List Link}
    (member : statement ∈ graph.statements) (opened : ∀ link ∈ before, graph.Opens link)
    (taken : before.Perm (feeds.flatMap Feed.links ++ others)) :
    ∀ link ∈ statement.results (feeds.map Feed.signal) ++ others, graph.Opens link := by
  refine List.forall_mem_append.mpr ⟨fun link result => ?_, fun link kept => ?_⟩
  · exact ⟨statement, member, _, result⟩
  · exact opened link (taken.mem_iff.mpr (List.mem_append_right _ kept))

/-- All links that are ever open come from a statement. -/
theorem Flow.opens (flow : Flow n before statements after)
    (inside : statements ⊆ graph.statements) (opened : ∀ link ∈ before, graph.Opens link) :
    ∀ link ∈ after, graph.Opens link := by
  induction flow with
  | done final => exact fun link member => opened link (final.mem_iff.mpr member)
  | @step before after statement rest feeds others inputs within taken _ ih =>
      rw [List.cons_subset] at inside
      exact ih inside.2 (FilterGraph.opens_step inside.1 opened taken)

/-- If the links that are open after a flow are of some kind, so are those
before it, and each statement takes streams of the kinds that its filter
takes. -/
theorem Flow.takesKinds (flow : Flow n before statements after)
    (inside : statements ⊆ graph.statements) (opened : ∀ link ∈ before, graph.Opens link)
    (declares : ∀ statement ∈ statements, statement.outputs ≠ [])
    (kinded : ∀ link ∈ after, ∃ kind, link.2.HasKind kind) :
    (∀ link ∈ before, ∃ kind, link.2.HasKind kind) ∧
      ∀ statement ∈ statements, graph.TakesKinds statement := by
  induction flow with
  | done final =>
      exact ⟨fun link member => kinded link (final.mem_iff.mp member), by simp⟩
  | @step before after statement rest feeds others inputs within taken _ ih =>
      rw [List.cons_subset] at inside
      rw [List.forall_mem_cons] at declares
      have onward := FilterGraph.opens_step inside.1 opened taken
      obtain ⟨links, later⟩ := ih inside.2 onward declares.2 kinded
      rw [List.forall_mem_append] at links
      -- the tree of its first output tells what the statement takes
      obtain ⟨takes, gives, handles, pads, kinded⟩ : ∃ takes gives,
          Handles statement.kind statement.body takes gives ∧
            statement.outputs.length = gives.length ∧
              List.Forall₂ MediaSignal.HasKind (feeds.map Feed.signal) takes := by
        obtain ⟨label, others, outputs⟩ := List.exists_cons_of_ne_nil declares.1
        have first : (label, statement.outputSignal (feeds.map Feed.signal) 0) ∈
            statement.results (feeds.map Feed.signal) := by
          simp [Statement.results, outputs]
        obtain ⟨kind, tree⟩ := links.1 _ first
        obtain ⟨takes, gives, handles, pads, -, kinded⟩ := tree.sources
        exact ⟨takes, gives, handles, pads, kinded⟩
      obtain ⟨names, used⟩ := Feed.forall₂_names
        (fun link fed => opened link (taken.mem_iff.mpr (List.mem_append_left _ fed))) kinded
      refine ⟨fun link member => ?_, List.forall_mem_cons.mpr
        ⟨⟨takes, gives, handles, pads, inputs ▸ names⟩, later⟩⟩
      rcases List.mem_append.mp (taken.mem_iff.mp member) with fed | kept
      · exact used link fed
      · exact links.2 link kept

end

end Montage
