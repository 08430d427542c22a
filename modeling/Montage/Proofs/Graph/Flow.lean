import Montage.Proofs.Graph.Labels
import Montage.Proofs.Graph.Signal
import Mathlib.Data.List.Perm.Basic

/-!
# Flows

Links are used up: a statement takes the links it consumes out of those that
are open and opens the ones it declares. `Flow n before statements after` says
that some statements, run over `n` inputs with the links `before` open, find
all they consume and end with the links `after` open. Flows are put together
one after the other (`Flow.append`) and side by side with links that they do
not touch (`Flow.frame`), so a flow is shown for each part of a route alone.

If the labels are new, a flow that starts with nothing open makes a valid graph
(`Flow.valid`), whose open links stand for the signals that the flow carries
along with them (`Flow.signal`).
-/

namespace Montage

open Montage.Composition

/-- A link with the signal it carries. -/
abbrev Link := String × MediaSignal

/-- Something that a statement can consume. -/
inductive Feed where
  | source (kind : MediaKind) (index : Nat)
  | link (label : String) (signal : MediaSignal)

namespace Feed

/-- The label of a feed. -/
def label : Feed → String
  | source kind index => streamLabel kind index
  | link label _ => label

/-- The signal of a feed. -/
def signal : Feed → MediaSignal
  | source kind index => .input (streamLabel kind index)
  | link _ signal => signal

/-- The links that are used up when a feed is consumed. -/
def links : Feed → List Link
  | source _ _ => []
  | link label signal => [(label, signal)]

/-- A feed that is there over some number of inputs. -/
def Within (n : Nat) : Feed → Prop
  | source _ index => index < n
  | link _ _ => True

/-- A feed that can serve as a stream of a kind. -/
def Fits (n : Nat) (kind : MediaKind) : Feed → Prop
  | source kind' index => kind' = kind ∧ index < n
  | link _ _ => True

theorem Fits.within {n : Nat} {kind : MediaKind} {feed : Feed} (fits : feed.Fits n kind) :
    feed.Within n := by
  cases feed with
  | source kind' index => exact fits.2
  | link label signal => trivial

theorem mem_links_of_mem {feeds : List Feed} {label : String} {signal : MediaSignal}
    (member : .link label signal ∈ feeds) : (label, signal) ∈ feeds.flatMap links :=
  List.mem_flatMap.mpr ⟨_, member, List.mem_singleton_self _⟩

end Feed

/-- The links that a statement opens over given sources. -/
def Statement.results (statement : Statement) (sources : List MediaSignal) : List Link :=
  statement.outputs.zipIdx.map fun (label, pad) => (label, statement.outputSignal sources pad)

/-- Statements that find all they consume, in inputs and among open links. -/
inductive Flow (n : Nat) : List Link → List Statement → List Link → Prop
  | done {before after : List Link} : before.Perm after → Flow n before [] after
  | step {before after : List Link} {statement : Statement} {rest : List Statement}
      (feeds : List Feed) (others : List Link) :
      statement.inputs = feeds.map Feed.label → (∀ feed ∈ feeds, feed.Within n) →
      before.Perm (feeds.flatMap Feed.links ++ others) →
      Flow n (statement.results (feeds.map Feed.signal) ++ others) rest after →
      Flow n before (statement :: rest) after

namespace Flow

variable {n : Nat} {before after : List Link} {statements : List Statement}

/-! ## Putting flows together -/

theorem perm_before {before' : List Link} (same : before.Perm before')
    (flow : Flow n before statements after) : Flow n before' statements after := by
  cases flow with
  | done final => exact .done (same.symm.trans final)
  | step feeds others inputs within taken next =>
      exact .step feeds others inputs within (same.symm.trans taken) next

theorem perm_after {after' : List Link} (same : after.Perm after')
    (flow : Flow n before statements after) : Flow n before statements after' := by
  induction flow with
  | done final => exact .done (final.trans same)
  | step feeds others inputs within taken _ ih =>
      exact .step feeds others inputs within taken (ih same)

/-- A flow does not touch links that are open besides. -/
theorem frame (besides : List Link) (flow : Flow n before statements after) :
    Flow n (before ++ besides) statements (after ++ besides) := by
  induction flow with
  | done final => exact .done (final.append_right besides)
  | step feeds others inputs within taken _ ih =>
      refine .step feeds (others ++ besides) inputs within ?_ ?_
      · rw [← List.append_assoc]
        exact taken.append_right besides
      · rw [← List.append_assoc]
        exact ih

theorem frame_left (besides : List Link) (flow : Flow n before statements after) :
    Flow n (besides ++ before) statements (besides ++ after) :=
  ((flow.frame besides).perm_before List.perm_append_comm).perm_after List.perm_append_comm

theorem append {last : List Link} {more : List Statement}
    (first : Flow n before statements after) (second : Flow n after more last) :
    Flow n before (statements ++ more) last := by
  induction first with
  | done final => exact second.perm_before final.symm
  | step feeds others inputs within taken _ ih =>
      exact .step feeds others inputs within taken (ih second)

theorem refl (n : Nat) (links : List Link) : Flow n links [] links := .done (List.Perm.refl _)

/-- One statement consumes its feeds and opens its results. -/
theorem single {statement : Statement} (feeds : List Feed)
    (inputs : statement.inputs = feeds.map Feed.label) (within : ∀ feed ∈ feeds, feed.Within n) :
    Flow n (feeds.flatMap Feed.links) [statement] (statement.results (feeds.map Feed.signal)) := by
  refine .step feeds [] inputs within ?_ ?_
  · rw [List.append_nil]
  · rw [List.append_nil]
    exact .refl n _

/-- A statement with one input and one output. -/
theorem chain {feed : Feed} (within : feed.Within n) (kind : FilterKind) (body output : String) :
    Flow n feed.links [.chain kind feed.label body output]
      [(output, .chain kind body feed.signal)] := by
  have flow : Flow n _ [.chain kind feed.label body output] _ :=
    single [feed] rfl (List.forall_mem_singleton.mpr within)
  simpa [Statement.results, Statement.chain, Statement.outputSignal, MediaSignal.chain] using flow

/-- Flows that each start with nothing open, one after the other. -/
theorem flatMap {α : Type} {items : List α} {f : α → List Statement} {g : α → List Link}
    (each : ∀ item ∈ items, Flow n [] (f item) (g item)) :
    Flow n [] (items.flatMap f) (items.flatMap g) := by
  induction items with
  | nil => exact .refl n []
  | cons item rest ih =>
      rw [List.forall_mem_cons] at each
      rw [List.flatMap_cons, List.flatMap_cons]
      refine each.1.append ?_
      simpa using (ih each.2).frame_left (g item)

/-! ## What flows keep -/

theorem map_fst_results (statement : Statement) (sources : List MediaSignal) :
    (statement.results sources).map Prod.fst = statement.outputs := by
  unfold Statement.results
  rw [List.map_map]
  exact List.zipIdx_map_fst ..

/-- A way to tell links from the streams of inputs by their labels. -/
def TellsLinks (n : Nat) (isLink : String → Bool) : Prop :=
  ∀ kind, ∀ index < n, isLink (streamLabel kind index) = false

/-- Labels without a colon are links. -/
theorem tellsLinks_colon (n : Nat) : TellsLinks n fun label => !label.toList.contains ':' := by
  intro kind index _
  simp [colon_mem_streamLabel]

theorem isInputStream_streamLabel (bound : n ≤ UInt64.size) {index : Nat} (inRange : index < n)
    (kind : MediaKind) : isInputStream (streamLabel kind index) = true := by
  rw [isInputStream, inputStreamIndex?_streamLabel, if_pos (by omega)]
  rfl

/-- Labels that name no stream of an input are links. -/
theorem tellsLinks_stream (bound : n ≤ UInt64.size) : TellsLinks n (!isInputStream ·) := by
  intro kind index inRange
  simp [isInputStream_streamLabel bound inRange]

/-- The links among the labels of feeds are those that they use up. -/
theorem filter_feeds {isLink : String → Bool} (tells : TellsLinks n isLink) {feeds : List Feed}
    (within : ∀ feed ∈ feeds, feed.Within n)
    (plain : ∀ label ∈ (feeds.flatMap Feed.links).map Prod.fst, isLink label = true) :
    (feeds.map Feed.label).filter isLink = (feeds.flatMap Feed.links).map Prod.fst := by
  induction feeds with
  | nil => rfl
  | cons feed rest ih =>
      rw [List.forall_mem_cons] at within
      rw [List.flatMap_cons, List.map_append, List.forall_mem_append] at plain
      have tail := ih within.2 plain.2
      cases feed with
      | source kind index =>
          have stream : isLink (streamLabel kind index) = false := tells kind index within.1
          simpa [Feed.label, Feed.links, stream] using tail
      | link label signal =>
          have link : isLink label = true := plain.1 label (by simp [Feed.links])
          simpa [Feed.label, Feed.links, link] using tail

/-- Every link that is ever open is consumed once or still open at the end. -/
theorem accounts {isLink : String → Bool} (tells : TellsLinks n isLink)
    (flow : Flow n before statements after)
    (plain : ∀ label ∈ before.map Prod.fst ++ statements.flatMap (·.outputs),
      isLink label = true) :
    (before.map Prod.fst ++ statements.flatMap (·.outputs)).Perm
      ((statements.flatMap (·.inputs)).filter isLink ++ after.map Prod.fst) := by
  induction flow with
  | done final => simpa using final.map Prod.fst
  | @step before after statement rest feeds others inputs within taken _ ih =>
      have labels := taken.map Prod.fst
      rw [List.map_append] at labels
      -- the statement consumes its feeds, and the rest accounts for all that is then open
      have fed := filter_feeds tells within fun label member =>
        plain label (List.mem_append_left _ (labels.mem_iff.mpr (List.mem_append_left _ member)))
      have tail := ih <| by
        intro label member
        rw [List.map_append, map_fst_results, List.mem_append, List.mem_append] at member
        refine plain label ?_
        rw [List.mem_append, List.flatMap_cons, List.mem_append]
        rcases member with (opened | kept) | later
        · exact .inr (.inl opened)
        · exact .inl (labels.mem_iff.mpr (List.mem_append_right _ kept))
        · exact .inr (.inr later)
      rw [List.map_append, map_fst_results] at tail
      rw [List.flatMap_cons, List.flatMap_cons, List.filter_append, inputs, fed]
      -- both sides have the same labels, so it is enough to count them
      rw [List.perm_iff_count] at labels tail ⊢
      intro label
      have here := labels label
      have there := tail label
      simp only [List.count_append] at here there ⊢
      omega

/-- Statements of a flow consume what is known before them. -/
theorem suppliedIn (bound : n ≤ UInt64.size) (flow : Flow n before statements after)
    {known : List String} (opened : ∀ label ∈ before.map Prod.fst, label ∈ known)
    (plain : ∀ label ∈ known ++ statements.flatMap (·.outputs), isInputStream label = false) :
    SuppliedIn n known statements := by
  -- what is open is known, and what a statement declares is known to the rest
  induction flow generalizing known with
  | done final =>
      intro earlier statement later split
      exact absurd split (by simp)
  | @step before after statement rest feeds others inputs within taken _ ih =>
      rw [List.flatMap_cons] at plain
      refine suppliedIn_cons.mpr ⟨?_, ih ?_ ?_⟩
      · intro label member
        rw [inputs, List.mem_map] at member
        obtain ⟨feed, fed, rfl⟩ := member
        cases feed with
        | source kind index =>
            have inRange : index < n := within _ fed
            refine .inl ⟨index, ?_, inRange⟩
            show inputStreamIndex? (streamLabel kind index) = some index
            rw [inputStreamIndex?_streamLabel, if_pos (by omega)]
        | link label signal =>
            have isOpen : label ∈ before.map Prod.fst := by
              refine List.mem_map.mpr ⟨(label, signal), taken.mem_iff.mpr ?_, rfl⟩
              exact List.mem_append_left _ (Feed.mem_links_of_mem fed)
            have isKnown := opened label isOpen
            exact .inr ⟨plain label (List.mem_append_left _ isKnown), isKnown⟩
      · intro label member
        rw [List.map_append, map_fst_results, List.mem_append] at member
        rcases member with declared | kept
        · exact List.mem_append_left _ (List.mem_reverse.mpr declared)
        · refine List.mem_append_right _ (opened label ?_)
          obtain ⟨link, inside, rfl⟩ := List.mem_map.mp kept
          exact List.mem_map_of_mem (taken.mem_iff.mpr (List.mem_append_right _ inside))
      · intro label member
        refine plain label ?_
        simp only [List.mem_append, List.mem_reverse] at member ⊢
        tauto

/-- A flow that starts with nothing open makes a valid graph out of new labels. -/
theorem valid {graph : FilterGraph} (bound : n ≤ UInt64.size)
    (flow : Flow n [] graph.statements after)
    (plain : ∀ label ∈ graph.declared, isInputStream label = false)
    (distinct : graph.declared.Nodup) : graph.Valid n where
  supplied := by
    have supplied : SuppliedIn n [] graph.statements :=
      flow.suppliedIn bound (fun _ member => member) plain
    simpa [SuppliedIn, IsSupplied] using supplied
  declaredOnce := distinct
  declaredPlain := plain
  consumedOnce := by
    have balance := flow.accounts (tellsLinks_stream bound) fun label member => by
      rw [plain label member]
      rfl
    exact (List.nodup_append.mp (balance.nodup distinct)).1

/-- The links that are still open at the end of a flow that starts with nothing
open. -/
theorem balance {graph : FilterGraph} (flow : Flow n [] graph.statements after)
    (plain : ∀ label ∈ graph.declared, ':' ∉ label.toList) :
    graph.declared.Perm
      (graph.consumed.filter (fun label => !label.toList.contains ':') ++ after.map Prod.fst) :=
  flow.accounts (tellsLinks_colon n) fun label member => by simp [plain label member]

/-- In a graph with new labels they are just those that no statement consumes. -/
theorem mem_after_iff {graph : FilterGraph} (flow : Flow n [] graph.statements after)
    (plain : ∀ label ∈ graph.declared, ':' ∉ label.toList)
    (distinct : graph.declared.Nodup) {label : String} :
    label ∈ after.map Prod.fst ↔ label ∈ graph.declared ∧ label ∉ graph.consumed := by
  have balance := flow.balance plain
  have apart := (List.nodup_append.mp (balance.nodup distinct)).2.2
  constructor
  · intro isOpen
    have declared := balance.mem_iff.mpr (List.mem_append_right _ isOpen)
    refine ⟨declared, fun consumed => ?_⟩
    exact apart label (List.mem_filter.mpr ⟨consumed, by simp [plain label declared]⟩) label
      isOpen rfl
  · rintro ⟨declared, unused⟩
    rcases List.mem_append.mp (balance.mem_iff.mp declared) with consumed | isOpen
    · exact absurd (List.mem_filter.mp consumed).1 unused
    · exact isOpen

/-! ## What open links stand for -/

/-- Labels mean what the links say that carry them. -/
def Carried (meaning : String → MediaSignal) (links : List Link) : Prop :=
  ∀ link ∈ links, meaning link.1 = link.2

theorem carried_results {meaning : String → MediaSignal} {statement : Statement}
    (distinct : statement.outputs.Nodup) :
    Carried (statement.define meaning) (statement.results (statement.inputs.map meaning)) := by
  intro link member
  obtain ⟨⟨label, pad⟩, inside, rfl⟩ := List.mem_map.mp member
  exact Statement.define_output distinct (List.mem_zipIdx_iff_getElem?.mp inside)

/-- What open links stand for after the statements of a flow, if the streams
of inputs stand for themselves and all labels are new. -/
theorem carried (flow : Flow n before statements after) {meaning : String → MediaSignal}
    (streams : ∀ kind index, meaning (streamLabel kind index) = .input (streamLabel kind index))
    (plain : ∀ label ∈ statements.flatMap (·.outputs), ':' ∉ label.toList)
    (distinct : (before.map Prod.fst ++ statements.flatMap (·.outputs)).Nodup)
    (start : Carried meaning before) : Carried (defineAll meaning statements) after := by
  -- a statement gives its outputs a meaning and leaves that of the other open links
  induction flow generalizing meaning with
  | done final => exact fun link member => start link (final.mem_iff.mpr member)
  | @step before after statement rest feeds others inputs within taken _ ih =>
      rw [List.flatMap_cons, List.forall_mem_append] at plain
      rw [List.flatMap_cons] at distinct
      have labels := taken.map Prod.fst
      rw [List.map_append] at labels
      -- the links that are left over and all that is declared from here on
      have onward : (statement.outputs ++ others.map Prod.fst ++
          rest.flatMap (·.outputs)).Nodup := by
        have whole := (labels.append_right _).nodup distinct
        rw [List.append_assoc] at whole
        refine (List.Perm.nodup_iff ?_).mp (List.nodup_append.mp whole).2.1
        rw [← List.append_assoc]
        exact List.perm_append_comm.append_right _
      have split := List.nodup_append.mp (List.nodup_append.mp onward).1
      have untouched : ∀ kind index, streamLabel kind index ∉ statement.outputs := fun kind index
        declared => plain.1 _ declared (colon_mem_streamLabel kind index)
      have sources : feeds.map Feed.signal = statement.inputs.map meaning := by
        rw [inputs, List.map_map]
        refine List.map_congr_left fun feed fed => ?_
        cases feed with
        | source kind index => exact (streams kind index).symm
        | link label signal =>
            refine (start (label, signal) (taken.mem_iff.mpr ?_)).symm
            exact List.mem_append_left _ (Feed.mem_links_of_mem fed)
      rw [defineAll_cons]
      refine ih ?_ plain.2 ?_ ?_
      · intro kind index
        rw [Statement.define_of_notMem (untouched kind index)]
        exact streams kind index
      · rw [List.map_append, map_fst_results]
        exact onward
      · intro link member
        rcases List.mem_append.mp member with opened | kept
        · rw [sources] at opened
          exact carried_results split.1 link opened
        · have absent : link.1 ∉ statement.outputs := fun declared =>
            split.2.2 link.1 declared link.1 (List.mem_map_of_mem kept) rfl
          rw [Statement.define_of_notMem absent]
          exact start link (taken.mem_iff.mpr (List.mem_append_right _ kept))

/-- What a feed stands for that is open at the end of a graph. -/
theorem signal {graph : FilterGraph} (flow : Flow n [] graph.statements after)
    (plain : ∀ label ∈ graph.declared, ':' ∉ label.toList) (distinct : graph.declared.Nodup)
    {feed : Feed} (held : ∀ link ∈ feed.links, link ∈ after) :
    graph.signal feed.label = feed.signal := by
  cases feed with
  | source kind index =>
      refine FilterGraph.signal_undeclared fun declared => ?_
      exact plain _ declared (colon_mem_streamLabel kind index)
  | link label signal =>
      have carried : Carried (defineAll MediaSignal.input graph.statements) after :=
        flow.carried (fun _ _ => rfl) plain distinct fun _ member => absurd member (by simp)
      exact carried (label, signal) (held _ (List.mem_singleton_self _))

end Flow

end Montage
