import Montage.Proofs.Program.Ends

/-!
# Anchored streams

All through a route, whatever labels are asked for and whatever fragments
follow, each current stream is anchored: it is a stream of an input, or it is
declared, and no two streams share one declaration (`Anchored`). Flows, the
renaming of a stream and raw chains each keep their streams anchored.
-/

namespace Montage

open Montage.Composition

/-- Streams over declared labels: each is a stream of an input of its kind or
declared, and a label is declared once for each stream that goes by it. -/
structure Anchored (n : Nat) (declared : List String) (streams : Streams) : Prop where
  plain : ∀ label ∈ declared, isInputStream label = false
  rooted : ∀ kind, ∀ label ∈ streams.get kind,
    (∃ index < n, label = streamLabel kind index) ∨ label ∈ declared
  held : ∀ label, isInputStream label = false →
    streams.labels.count label ≤ declared.count label

/-- The other kind. -/
def MediaKind.other : MediaKind → MediaKind
  | video => audio
  | audio => video

namespace Streams

theorem count_labels (streams : Streams) (kind : MediaKind) (label : String) :
    streams.labels.count label =
      (streams.get kind).toList.count label + (streams.get kind.other).toList.count label := by
  rw [labels, List.count_append]
  cases kind with
  | video => rfl
  | audio => exact Nat.add_comm ..

theorem mem_labels {streams : Streams} {label : String} :
    label ∈ streams.labels ↔ ∃ kind, label ∈ streams.get kind := by
  rw [labels, List.mem_append, Option.mem_toList, Option.mem_toList]
  constructor
  · rintro (video | audio)
    · exact ⟨.video, video⟩
    · exact ⟨.audio, audio⟩
  · rintro ⟨kind, current⟩
    cases kind with
    | video => exact .inl current
    | audio => exact .inr current

@[simp] theorem get_set (streams : Streams) (kind : MediaKind) (label : Option String) :
    (streams.set kind label).get kind = label := by
  cases kind <;> rfl

@[simp] theorem get_set_other (streams : Streams) (kind : MediaKind) (label : Option String) :
    (streams.set kind label).get kind.other = streams.get kind.other := by
  cases kind <;> rfl

theorem set_of_get {streams : Streams} {kind : MediaKind} {label : Option String}
    (current : streams.get kind = label) : streams.set kind label = streams := by
  subst current
  cases kind <;> rfl

theorem forall_kind {p : MediaKind → Prop} (kind : MediaKind) (this : p kind)
    (that : p kind.other) : ∀ kind, p kind := by
  intro other
  cases kind <;> cases other <;> assumption

end Streams

namespace Anchored

variable {n : Nat} {declared : List String} {streams : Streams}

/-- Anchored streams differ if labels are declared once. -/
theorem differ (anchored : Anchored n declared streams) (distinct : declared.Nodup)
    {label : String} (video : label ∈ streams.video) : label ∉ streams.audio := by
  intro audio
  by_cases member : label ∈ declared
  · -- a shared link would have to be declared twice
    have twice := anchored.held label (anchored.plain label member)
    have once := List.nodup_iff_count_le_one.mp distinct label
    rw [Streams.labels, List.count_append, Option.mem_def.mp video, Option.mem_def.mp audio,
      Option.toList_some, List.count_singleton_self] at twice
    omega
  · -- streams of inputs differ in their kinds
    obtain ⟨index, -, first⟩ := (anchored.rooted .video label video).resolve_right member
    obtain ⟨index', -, second⟩ := (anchored.rooted .audio label audio).resolve_right member
    have kinds := (streamLabel_inj.mp (first.symm.trans second)).1
    exact absurd kinds (by decide)

/-! ## Another stream of a kind -/

/-- The streams with a new one of a kind over more or other declared labels,
if the new one is rooted and the labels are counted with it. -/
theorem set {declared' : List String} {kind : MediaKind} {next : Option String}
    (anchored : Anchored n declared streams)
    (plain : ∀ label ∈ declared', isInputStream label = false)
    (rooted : ∀ label ∈ next, (∃ index < n, label = streamLabel kind index) ∨ label ∈ declared')
    (counted : ∀ label, isInputStream label = false →
      next.toList.count label + declared.count label ≤
        (streams.get kind).toList.count label + declared'.count label) :
    Anchored n declared' (streams.set kind next) := by
  have held : ∀ label, isInputStream label = false →
      (streams.set kind next).labels.count label ≤ declared'.count label := by
    intro label link
    have before := anchored.held label link
    have more := counted label link
    rw [Streams.count_labels _ kind] at before ⊢
    rw [Streams.get_set, Streams.get_set_other]
    omega
  refine ⟨plain, Streams.forall_kind kind (by simpa using rooted) ?_, held⟩
  -- the other stream is still declared, since its label counts among the declared ones
  intro label current
  rw [Streams.get_set_other] at current
  refine (anchored.rooted kind.other label current).imp_right fun member => ?_
  have enough := held label (anchored.plain label member)
  rw [Streams.count_labels _ kind, Streams.get_set_other, current] at enough
  refine List.count_pos_iff.mp (Nat.lt_of_lt_of_le ?_ enough)
  simp

/-! ## Flows -/

theorem count_links_le (feed : Option Feed) (label : String) :
    ((feed.toList.flatMap Feed.links).map Prod.fst).count label ≤
      (feed.map Feed.label).toList.count label := by
  rcases feed with _ | _ | _ <;> simp [Feed.links, Feed.label]

theorem count_label (bound : n ≤ UInt64.size) {feed : Option Feed}
    (within : ∀ given ∈ feed, given.Within n) {label : String}
    (link : isInputStream label = false) :
    (feed.map Feed.label).toList.count label =
      ((feed.toList.flatMap Feed.links).map Prod.fst).count label := by
  rcases feed with _ | ⟨kind, index⟩ | ⟨name, signal⟩
  · rfl
  · have stream := Flow.isInputStream_streamLabel bound (within _ rfl) kind
    have other : streamLabel kind index ≠ label := fun equal => by
      rw [equal, link] at stream
      exact absurd stream (by decide)
    simp [Feed.label, Feed.links, other]
  · rfl

theorem rooted_of_fits {kind : MediaKind} {feed : Option Feed}
    (fits : ∀ given ∈ feed, given.Fits n kind)
    (opened : ∀ label ∈ (feed.toList.flatMap Feed.links).map Prod.fst, label ∈ declared) :
    ∀ label ∈ feed.map Feed.label,
      (∃ index < n, label = streamLabel kind index) ∨ label ∈ declared := by
  intro label member
  rcases feed with _ | ⟨kind', index⟩ | ⟨name, signal⟩
  · exact absurd member (by simp)
  · obtain ⟨rfl, inRange⟩ := fits _ rfl
    exact .inl ⟨index, inRange, (Option.some.inj member).symm⟩
  · refine .inr (opened label ?_)
    rw [← Option.some.inj member]
    simp [Feed.links, Feed.label]

/-- The streams that a wired graph ends in are anchored. -/
theorem of_wired {graph : FilterGraph} {video audio : Option Feed} (bound : n ≤ UInt64.size)
    (wired : graph.Wired n
      (video.toList.flatMap Feed.links ++ audio.toList.flatMap Feed.links))
    (videoFits : ∀ feed ∈ video, feed.Fits n .video)
    (audioFits : ∀ feed ∈ audio, feed.Fits n .audio) :
    Anchored n graph.declared (streamsOf video audio) where
  plain := wired.noStream
  rooted := by
    have opened : ∀ label ∈ (video.toList.flatMap Feed.links).map Prod.fst ++
        (audio.toList.flatMap Feed.links).map Prod.fst, label ∈ graph.declared := by
      intro label member
      rw [← List.map_append] at member
      exact (wired.mem_links_iff.mp member).1
    rw [List.forall_mem_append] at opened
    exact Streams.forall_kind .video (rooted_of_fits videoFits opened.1)
      (rooted_of_fits audioFits opened.2)
  held := by
    intro label link
    have balance := (wired.flow.balance wired.plain).count_eq label
    rw [Streams.count_labels _ .video]
    show (video.map Feed.label).toList.count label + (audio.map Feed.label).toList.count label ≤ _
    rw [count_label bound (fun feed member => (videoFits feed member).within) link,
      count_label bound (fun feed member => (audioFits feed member).within) link]
    rw [List.map_append, List.count_append, List.count_append] at balance
    omega

/-- Statements that take one stream to another keep the streams anchored. -/
theorem flow {after : Option Feed} {more : List Statement} (bound : n ≤ UInt64.size)
    (anchored : Anchored n declared streams) (kind : MediaKind) (before : Option Feed)
    (current : streams.get kind = before.map Feed.label)
    (flow : Flow n (before.toList.flatMap Feed.links) more (after.toList.flatMap Feed.links))
    (fits : ∀ feed ∈ after, feed.Fits n kind)
    (plain : ∀ label ∈ more.flatMap (·.outputs), isInputStream label = false)
    (plainBefore : ∀ label ∈ (before.toList.flatMap Feed.links).map Prod.fst,
      ':' ∉ label.toList) :
    Anchored n (declared ++ more.flatMap (·.outputs))
      (streams.set kind (after.map Feed.label)) := by
  have known : ∀ label ∈ (before.toList.flatMap Feed.links).map Prod.fst, label ∈ declared := by
    intro label opened
    have labelled : label ∈ streams.get kind := by
      rw [current]
      have count := count_links_le before label
      exact Option.mem_toList.mp (List.count_pos_iff.mp
        (Nat.lt_of_lt_of_le (List.count_pos_iff.mpr opened) count))
    refine (anchored.rooted kind label labelled).resolve_left ?_
    rintro ⟨index, -, rfl⟩
    exact plainBefore _ opened (colon_mem_streamLabel kind index)
  have balance := flow.accounts (Flow.tellsLinks_stream bound) <| by
    intro label member
    rcases List.mem_append.mp member with old | new
    · rw [anchored.plain label (known label old)]
      rfl
    · rw [plain label new]
      rfl
  refine anchored.set ?_ (rooted_of_fits fits ?_) ?_
  · rw [List.forall_mem_append]
    exact ⟨anchored.plain, plain⟩
  · intro label opened
    rcases List.mem_append.mp (balance.mem_iff.mpr (List.mem_append_right _ opened)) with old | new
    · exact List.mem_append_left _ (known label old)
    · exact List.mem_append_right _ new
  · intro label link
    have counts := balance.count_eq label
    have open_ := count_links_le before label
    rw [count_label bound (fun feed member => (fits feed member).within) link, current]
    rw [List.count_append, List.count_append] at counts
    rw [List.count_append]
    omega

/-! ## Labels that are asked for -/

/-- A stream whose declaration is exchanged for one under another label. -/
theorem exchange {declared' : List String} {kind : MediaKind} {old label : String}
    (anchored : Anchored n declared streams) (current : streams.get kind = some old)
    (other : old ≠ label) (plain : isInputStream label = false)
    (exchanged : (old :: declared').Perm (label :: declared)) :
    Anchored n declared' (streams.set kind (some label)) := by
  refine anchored.set ?_ ?_ ?_
  · intro name member
    rcases List.mem_cons.mp (exchanged.subset (List.mem_cons_of_mem _ member)) with rfl | kept
    · exact plain
    · exact anchored.plain name kept
  · rintro name ⟨rfl⟩
    have member := exchanged.symm.subset (List.mem_cons_self ..)
    exact .inr ((List.mem_cons.mp member).resolve_left (Ne.symm other))
  · intro name _
    have counts := exchanged.count_eq name
    rw [List.count_cons, List.count_cons] at counts
    rw [current]
    show [label].count name + _ ≤ [old].count name + declared'.count name
    rw [List.count_singleton, List.count_singleton]
    omega

/-- A stream that goes on under a label that is declared besides. -/
theorem handTo {label : String} (anchored : Anchored n declared streams) (kind : MediaKind)
    (plain : isInputStream label = false) :
    Anchored n (declared ++ [label]) (streams.set kind (some label)) := by
  refine anchored.set ?_ ?_ ?_
  · exact List.forall_mem_append.mpr ⟨anchored.plain, List.forall_mem_singleton.mpr plain⟩
  · rintro name ⟨rfl⟩
    exact .inr (List.mem_append_right _ (List.mem_singleton_self _))
  · intro name _
    rw [List.count_append, Option.toList_some]
    omega

/-- A stream that gets the label that is asked for stays anchored, whatever
that label is. -/
theorem relabel {graph : FilterGraph} (anchored : Anchored n graph.declared streams)
    (kind : MediaKind) {requested : Option String}
    (plain : ∀ label ∈ requested, isInputStream label = false) :
    Anchored n (Composition.relabel kind requested graph (streams.get kind)).1.declared
      (streams.set kind (Composition.relabel kind requested graph (streams.get kind)).2) := by
  rcases relabel_cases kind requested graph (streams.get kind) with
    same | ⟨old, label, current, rfl, other, ⟨statements, renamed, equal⟩ | equal⟩
  · rw [same, Streams.set_of_get rfl]
    exact anchored
  · rw [equal]
    exact anchored.exchange current other (plain label rfl)
      (FilterGraph.perm_renameLast? renamed)
  · -- a stream of an input is passed through to the label
    rw [equal, FilterGraph.Wired.declared_extend]
    exact anchored.handTo kind (plain label rfl)

/-! ## Raw chains -/

/-- The streams over more declared labels. -/
theorem more {others : List String} (anchored : Anchored n declared streams)
    (plain : ∀ label ∈ others, isInputStream label = false) :
    Anchored n (declared ++ others) streams where
  plain := List.forall_mem_append.mpr ⟨anchored.plain, plain⟩
  rooted := fun kind label current =>
    (anchored.rooted kind label current).imp_right (List.mem_append_left _)
  held := by
    intro label link
    have before := anchored.held label link
    rw [List.count_append]
    omega

/-- A stream that is handed over takes one of the free outputs, if any. -/
theorem handOver {statement : Statement} {free rest : List String} {next : Option String}
    (anchored : Anchored n declared streams) (kind : MediaKind)
    (plain : ∀ label ∈ free, isInputStream label = false)
    (result : handOver statement kind free (streams.get kind) = .ok (rest, next)) :
    ∃ taken, free = taken ++ rest ∧ Anchored n (declared ++ taken) (streams.set kind next) := by
  have kept : free = rest → streams.get kind = next →
      ∃ taken, free = taken ++ rest ∧ Anchored n (declared ++ taken) (streams.set kind next) := by
    rintro rfl same
    refine ⟨[], rfl, ?_⟩
    rw [List.append_nil, Streams.set_of_get same]
    exact anchored
  unfold Composition.handOver at result
  cases current : streams.get kind with
  | none =>
      simp only [current, Except.ok.injEq, Prod.mk.injEq] at result
      exact kept result.1 (current.trans result.2)
  | some old =>
      simp only [current] at result
      split at result
      · -- the chain consumes the stream, and its first free output is next
        cases free with
        | nil => exact absurd result (by simp)
        | cons new others =>
            simp only [Except.ok.injEq, Prod.mk.injEq] at result
            obtain ⟨rfl, rfl⟩ := result
            rw [List.forall_mem_cons] at plain
            exact ⟨[new], rfl, anchored.handTo kind plain.1⟩
      · simp only [Except.ok.injEq, Prod.mk.injEq] at result
        exact kept result.1 (current.trans result.2)

theorem afterChain {statement : Statement} {next : Streams} (anchored : Anchored n declared streams)
    (plain : ∀ label ∈ statement.outputs, isInputStream label = false)
    (result : afterChain streams statement = .ok next) :
    Anchored n (declared ++ statement.outputs) next := by
  unfold Composition.afterChain at result
  obtain ⟨⟨free, video⟩, first, others⟩ := bind_ok_iff.mp result
  obtain ⟨⟨rest, audio⟩, second, last⟩ := bind_ok_iff.mp others
  cases last
  obtain ⟨taken, outputs, anchored₁⟩ := anchored.handOver .video plain first
  rw [outputs, List.forall_mem_append] at plain
  obtain ⟨taken', free', anchored₂⟩ := anchored₁.handOver .audio plain.2 second
  rw [free', List.forall_mem_append] at plain
  have all : Anchored n (declared ++ taken ++ taken' ++ rest) ⟨video, audio⟩ :=
    anchored₂.more plain.2.2
  rw [outputs, free']
  simpa only [List.append_assoc] using all

/-- Raw chains keep the streams anchored, one after the other. -/
theorem afterChains {statements : List Statement} {next : Streams}
    (anchored : Anchored n declared streams)
    (plain : ∀ label ∈ statements.flatMap (·.outputs), isInputStream label = false)
    (result : statements.foldlM Composition.afterChain streams = .ok next) :
    Anchored n (declared ++ statements.flatMap (·.outputs)) next := by
  induction statements generalizing declared streams with
  | nil =>
      cases result
      rw [List.flatMap_nil, List.append_nil]
      exact anchored
  | cons statement rest ih =>
      rw [List.foldlM_cons] at result
      obtain ⟨middle, first, others⟩ := bind_ok_iff.mp result
      rw [List.flatMap_cons, List.forall_mem_append] at plain
      rw [List.flatMap_cons, ← List.append_assoc]
      exact ih (anchored.afterChain plain.1 first) plain.2 others

end Anchored

end Montage
