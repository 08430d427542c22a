import Montage.Proofs.Graph.Filters
import Mathlib.Data.List.Forall2
import Mathlib.Data.List.Induction

/-!
# Links of chains

The labels before and after the filters of a chain, read from left to right,
are the ends of links. Each label before a filter takes the first open one of
its name after an earlier filter, if there is one. The chain's statement
consumes the labels that found none and declares those that nothing took
(`Summarises`), so no label is lost and none comes from nowhere
(`summarises_statements`).
-/

namespace Montage.Fragment

/-! ## Ends of links -/

/-- The side of a filter on which a label stands. -/
inductive LinkSide where
  | leading
  | trailing
deriving DecidableEq

/-- A label of a chain: beside which filter it stands, and on which side. -/
structure LinkToken where
  filter : Nat
  side : LinkSide
  label : String
deriving DecidableEq

/-- The labels of a filter in the order of its text. -/
def FilterLayout.tokens (layout : FilterLayout) (filter : Nat) : List LinkToken :=
  layout.labels.1.map (⟨filter, .leading, ·⟩) ++ layout.labels.2.map (⟨filter, .trailing, ·⟩)

/-- The labels of a chain in the order of its text. -/
def linkTokens (layouts : List FilterLayout) : List LinkToken :=
  layouts.zipIdx.flatMap fun (layout, filter) => layout.tokens filter

/-- The places of the two ends of a link among the labels of a chain. -/
structure LinkPair where
  /-- where the link begins: after a filter -/
  source : Nat
  /-- where it ends: before a filter -/
  target : Nat
deriving DecidableEq

variable {tokens : List LinkToken} {token : LinkToken} {pairs : List LinkPair}
  {label : String} {side : LinkSide}

/-- Whether a label is there to be taken by one at a later place: it has the same
name, it stands after an earlier filter, and no label before that place has
taken it. -/
def IsOpenFor (tokens : List LinkToken) (pairs : List LinkPair) (reader : LinkToken)
    (target source : Nat) : Prop :=
  ∃ opened, tokens[source]? = some opened ∧ opened.side = .trailing ∧
    opened.label = reader.label ∧ opened.filter < reader.filter ∧
    ∀ pair ∈ pairs, pair.source = source → target ≤ pair.target

/-- The links that begin and end in one chain: a one-to-one pairing in which each
label before a filter takes the first that is open for it. -/
structure Pairing (tokens : List LinkToken) (pairs : List LinkPair) : Prop where
  sources : (pairs.map LinkPair.source).Nodup
  targets : (pairs.map LinkPair.target).Nodup
  joins : ∀ pair ∈ pairs, ∃ reader, tokens[pair.target]? = some reader ∧
    reader.side = .leading ∧ IsOpenFor tokens pairs reader pair.target pair.source ∧
    ∀ source < pair.source, ¬ IsOpenFor tokens pairs reader pair.target source
  unmatched : ∀ target reader, tokens[target]? = some reader → reader.side = .leading →
    target ∉ pairs.map LinkPair.target → ∀ source, ¬ IsOpenFor tokens pairs reader target source

/-- The labels on one side of filters but for those at some places, each with its
place. -/
def unpaired (tokens : List LinkToken) (side : LinkSide) (taken : List Nat) :
    List (LinkToken × Nat) :=
  tokens.zipIdx.filter fun (token, place) => decide (token.side = side) && decide (place ∉ taken)

/-- Labels without their places. -/
def labelsOf (items : List (LinkToken × Nat)) : List String := items.map (·.1.label)

/-- What is left of the labels of a chain when the links inside it are taken out:
its inputs and its outputs, both in the order of the text. -/
structure Summarises (labels : ChainLabels) (tokens : List LinkToken) (pairs : List LinkPair) :
    Prop where
  paired : Pairing tokens pairs
  inputs : labels.inputs = labelsOf (unpaired tokens .leading (pairs.map LinkPair.target))
  outputs : labels.outputs = labelsOf (unpaired tokens .trailing (pairs.map LinkPair.source))

/-! ## Order -/

/-- What is known of a label and a later one in the order of the text. -/
structure Precedes (token later : LinkToken) : Prop where
  le : token.filter ≤ later.filter
  lt : token.side = .trailing → later.side = .leading → token.filter < later.filter

theorem filter_of_mem_tokens {layout : FilterLayout} {filter : Nat}
    (member : token ∈ layout.tokens filter) : token.filter = filter := by
  rcases List.mem_append.mp member with found | found <;>
    (obtain ⟨label, -, rfl⟩ := List.mem_map.mp found; rfl)

theorem precedes_tokens (layout : FilterLayout) (filter : Nat) :
    (layout.tokens filter).Pairwise Precedes := by
  unfold FilterLayout.tokens
  rw [List.pairwise_append, List.pairwise_map, List.pairwise_map]
  refine ⟨?_, ?_, ?_⟩
  · exact List.pairwise_of_forall fun _ _ => ⟨le_rfl, fun trailing => by cases trailing⟩
  · exact List.pairwise_of_forall fun _ _ => ⟨le_rfl, fun _ leading => by cases leading⟩
  · intro token before later after
    obtain ⟨_, -, rfl⟩ := List.mem_map.mp before
    obtain ⟨_, -, rfl⟩ := List.mem_map.mp after
    exact ⟨le_rfl, fun trailing => by cases trailing⟩

theorem pairwise_places {α : Type} (items : List α) :
    items.zipIdx.Pairwise fun item other => item.2 < other.2 := by
  rw [← List.pairwise_map (f := Prod.snd) (R := (· < ·)), List.zipIdx_map_snd]
  exact List.pairwise_lt_range'

theorem precedes_linkTokens (layouts : List FilterLayout) :
    (linkTokens layouts).Pairwise Precedes := by
  unfold linkTokens
  rw [List.pairwise_flatMap]
  refine ⟨fun item _ => precedes_tokens item.1 item.2, (pairwise_places layouts).imp ?_⟩
  intro item other lt token before later after
  rw [← filter_of_mem_tokens before, ← filter_of_mem_tokens after] at lt
  exact ⟨Nat.le_of_lt lt, fun _ _ => lt⟩

/-! ## One more label -/

theorem getElem?_concat_eq_some {place : Nat} {found : LinkToken} :
    (tokens ++ [token])[place]? = some found ↔
      tokens[place]? = some found ∨ place = tokens.length ∧ token = found := by
  rcases Nat.lt_trichotomy place tokens.length with lt | rfl | gt
  · rw [List.getElem?_append_left lt]
    simp [Nat.ne_of_lt lt]
  · simp
  · rw [List.getElem?_eq_none (by simp; omega), List.getElem?_eq_none (Nat.le_of_lt gt)]
    simp [Nat.ne_of_gt gt]

theorem Pairing.target_lt (paired : Pairing tokens pairs) {pair : LinkPair}
    (member : pair ∈ pairs) : pair.target < tokens.length := by
  obtain ⟨reader, found, -⟩ := paired.joins pair member
  exact (List.getElem?_eq_some_iff.mp found).1

theorem Pairing.source_lt (paired : Pairing tokens pairs) {pair : LinkPair}
    (member : pair ∈ pairs) : pair.source < tokens.length := by
  obtain ⟨reader, -, -, ⟨opened, found, -⟩, -⟩ := paired.joins pair member
  exact (List.getElem?_eq_some_iff.mp found).1

theorem Pairing.length_notMem_targets (paired : Pairing tokens pairs) :
    tokens.length ∉ pairs.map LinkPair.target := by
  intro taken
  obtain ⟨pair, member, equal⟩ := List.mem_map.mp taken
  exact Nat.ne_of_lt (paired.target_lt member) equal

theorem Pairing.length_notMem_sources (paired : Pairing tokens pairs) :
    tokens.length ∉ pairs.map LinkPair.source := by
  intro taken
  obtain ⟨pair, member, equal⟩ := List.mem_map.mp taken
  exact Nat.ne_of_lt (paired.source_lt member) equal

theorem mem_unpaired {place : Nat} {taken : List Nat} :
    (token, place) ∈ unpaired tokens side taken ↔
      tokens[place]? = some token ∧ token.side = side ∧ place ∉ taken := by
  simp [unpaired, List.mem_zipIdx_iff_getElem?]

/-- Whether a label of one name stands at a place after a filter, and nothing has
taken it. -/
def CanTake (tokens : List LinkToken) (pairs : List LinkPair) (label : String) (source : Nat) :
    Prop :=
  ∃ opened, (opened, source) ∈ unpaired tokens .trailing (pairs.map LinkPair.source) ∧
    opened.label = label

section

variable (last : ∀ earlier ∈ tokens, Precedes earlier token) {more : List LinkPair}
  (later : ∀ pair ∈ more, tokens.length ≤ pair.target)

include last later

/-- What is open for a label stays so when more is read. -/
theorem isOpenFor_concat {reader : LinkToken} {target source : Nat}
    (found : tokens[target]? = some reader) :
    IsOpenFor (tokens ++ [token]) (pairs ++ more) reader target source ↔
      IsOpenFor tokens pairs reader target source := by
  obtain ⟨inside, -⟩ := List.getElem?_eq_some_iff.mp found
  constructor
  · rintro ⟨opened, there, trailing, equal, lt, free⟩
    refine ⟨opened, ?_, trailing, equal, lt, fun pair member =>
      free pair (List.mem_append_left _ member)⟩
    rcases getElem?_concat_eq_some.mp there with old | ⟨-, rfl⟩
    · exact old
    · -- the last label stands after no earlier filter than the reader
      exact absurd (last reader (List.mem_of_getElem? found)).le (Nat.not_le_of_lt lt)
  · rintro ⟨opened, there, trailing, equal, lt, free⟩
    refine ⟨opened, getElem?_concat_eq_some.mpr (.inl there), trailing, equal, lt, ?_⟩
    intro pair member same
    rcases List.mem_append.mp member with old | new
    · exact free pair old same
    · exact (Nat.le_of_lt inside).trans (later pair new)

/-- What is open for the last label is what nothing has taken. -/
theorem isOpenFor_last (paired : Pairing tokens pairs) (leading : token.side = .leading)
    {source : Nat} :
    IsOpenFor (tokens ++ [token]) (pairs ++ more) token tokens.length source ↔
      CanTake tokens pairs token.label source := by
  constructor
  · rintro ⟨opened, there, trailing, equal, -, free⟩
    rcases getElem?_concat_eq_some.mp there with old | ⟨-, rfl⟩
    · refine ⟨opened, mem_unpaired.mpr ⟨old, trailing, fun taken => ?_⟩, equal⟩
      obtain ⟨pair, member, same⟩ := List.mem_map.mp taken
      exact Nat.not_le_of_lt (paired.target_lt member)
        (free pair (List.mem_append_left _ member) same)
    · rw [leading] at trailing
      cases trailing
  · rintro ⟨opened, member, equal⟩
    obtain ⟨there, trailing, untaken⟩ := mem_unpaired.mp member
    refine ⟨opened, getElem?_concat_eq_some.mpr (.inl there), trailing, equal,
      (last opened (List.mem_of_getElem? there)).lt trailing leading, ?_⟩
    intro pair taken same
    rcases List.mem_append.mp taken with old | new
    · exact absurd (List.mem_map.mpr ⟨pair, old, same⟩) untaken
    · exact later pair new

end

/-- The labels are paired on when one more is read: if it stands before a filter,
it takes the first that it can, if there is one. -/
theorem Pairing.concat (paired : Pairing tokens pairs)
    (last : ∀ earlier ∈ tokens, Precedes earlier token) (taken : Option Nat)
    (takes : ∀ source ∈ taken, token.side = .leading ∧ CanTake tokens pairs token.label source ∧
      ∀ earlier < source, ¬ CanTake tokens pairs token.label earlier)
    (left : taken = none → token.side = .leading →
      ∀ source, ¬ CanTake tokens pairs token.label source) :
    Pairing (tokens ++ [token]) (pairs ++ taken.toList.map (⟨·, tokens.length⟩)) := by
  have later : ∀ pair ∈ taken.toList.map (LinkPair.mk · tokens.length),
      tokens.length ≤ pair.target := by
    intro pair member
    obtain ⟨source, -, rfl⟩ := List.mem_map.mp member
    exact Nat.le_refl _
  constructor
  · rw [List.map_append, List.map_map, List.nodup_append]
    refine ⟨paired.sources, ?_, ?_⟩
    · cases taken <;> simp
    · rintro source old _ new rfl
      obtain ⟨source, member, rfl⟩ := List.mem_map.mp new
      obtain ⟨-, ⟨opened, free, -⟩, -⟩ := takes source (by simpa using member)
      exact (mem_unpaired.mp free).2.2 old
  · rw [List.map_append, List.map_map, List.nodup_append]
    refine ⟨paired.targets, ?_, ?_⟩
    · cases taken <;> simp
    · rintro target old _ new rfl
      obtain ⟨source, -, rfl⟩ := List.mem_map.mp new
      exact paired.length_notMem_targets old
  · intro pair member
    rcases List.mem_append.mp member with old | new
    · obtain ⟨reader, found, leading, first, others⟩ := paired.joins pair old
      exact ⟨reader, getElem?_concat_eq_some.mpr (.inl found), leading,
        (isOpenFor_concat last later found).mpr first,
        fun source lt opened => others source lt ((isOpenFor_concat last later found).mp opened)⟩
    · obtain ⟨source, inside, rfl⟩ := List.mem_map.mp new
      obtain ⟨leading, first, others⟩ := takes source (by simpa using inside)
      exact ⟨token, getElem?_concat_eq_some.mpr (.inr ⟨rfl, rfl⟩), leading,
        (isOpenFor_last last later paired leading).mpr first, fun source lt opened =>
          others source lt ((isOpenFor_last last later paired leading).mp opened)⟩
  · intro target reader found leading unpaired source opened
    rw [List.map_append, List.mem_append, not_or] at unpaired
    rcases getElem?_concat_eq_some.mp found with old | ⟨rfl, rfl⟩
    · exact paired.unmatched target reader old leading unpaired.1 source
        ((isOpenFor_concat last later old).mp opened)
    · cases taken with
      | none => exact left rfl leading source ((isOpenFor_last last later paired leading).mp opened)
      | some taken => exact unpaired.2 (by simp)

/-! ## Reading labels -/

/-- Read one label of a chain. -/
def ChainLabels.readToken (labels : ChainLabels) (token : LinkToken) : ChainLabels :=
  match token.side with
  | .leading => labels.consume token.label
  | .trailing => { labels with outputs := labels.outputs ++ [token.label] }

/-- A filter is read label by label. -/
theorem ChainLabels.readFilter_layout (labels : ChainLabels) {layout : FilterLayout}
    (sound : layout.IsSound) (filter : Nat) :
    labels.readFilter layout.text = (layout.tokens filter).foldl readToken labels := by
  have consumes : ∀ (labels : ChainLabels) (leading : List String),
      leading.foldl consume labels =
        (leading.map (LinkToken.mk filter .leading)).foldl readToken labels := by
    intro labels leading
    rw [List.foldl_map]
    rfl
  have opens : ∀ (labels : ChainLabels) (trailing : List String),
      { labels with outputs := labels.outputs ++ trailing } =
        (trailing.map (LinkToken.mk filter .trailing)).foldl readToken labels := by
    intro labels trailing
    induction trailing generalizing labels with
    | nil => simp
    | cons label rest ih =>
        rw [List.map_cons, List.foldl_cons, ← ih]
        simp [readToken]
  unfold readFilter FilterLayout.tokens
  rw [sound.filterLabels_text, List.foldl_append, ← consumes, ← opens]

/-- A label on the other side, or at a place that is taken, is not counted. -/
theorem unpaired_concat_other {taken : List Nat}
    (other : token.side ≠ side ∨ tokens.length ∈ taken) :
    unpaired (tokens ++ [token]) side taken = unpaired tokens side taken := by
  unfold unpaired
  rw [List.zipIdx_append, List.filter_append]
  simpa using fun same : token.side = side => other.resolve_left (not_not_intro same)

/-- Any other label comes last. -/
theorem labelsOf_unpaired_concat {taken : List Nat} (same : token.side = side)
    (free : tokens.length ∉ taken) :
    labelsOf (unpaired (tokens ++ [token]) side taken) =
      labelsOf (unpaired tokens side taken) ++ [token.label] := by
  unfold unpaired labelsOf
  rw [List.zipIdx_append, List.filter_append, List.map_append]
  simp [same, free]

theorem unpaired_taken (taken : List Nat) (place : Nat) :
    unpaired tokens side (taken ++ [place]) =
      (unpaired tokens side taken).filter fun item => decide (item.2 ≠ place) := by
  unfold unpaired
  rw [List.filter_filter]
  refine List.filter_congr fun item _ => ?_
  rw [Bool.eq_iff_iff]
  simp
  tauto

/-- A place after all labels is not the place of any. -/
theorem unpaired_taken_length (taken : List Nat) :
    unpaired tokens side (taken ++ [tokens.length]) = unpaired tokens side taken := by
  rw [unpaired_taken, List.filter_eq_self]
  rintro ⟨found, place⟩ member
  obtain ⟨there, -⟩ := mem_unpaired.mp member
  exact decide_eq_true (Nat.ne_of_lt (List.getElem?_eq_some_iff.mp there).1)

theorem pairwise_unpaired (tokens : List LinkToken) (side : LinkSide) (taken : List Nat) :
    (unpaired tokens side taken).Pairwise fun item other => item.2 < other.2 :=
  (pairwise_places tokens).filter _

/-- The first label of a name is the one that is erased. -/
theorem exists_first {items : List (LinkToken × Nat)}
    (sorted : items.Pairwise fun item other => item.2 < other.2)
    (member : label ∈ labelsOf items) :
    ∃ source, (∃ opened, (opened, source) ∈ items ∧ opened.label = label) ∧
      (∀ earlier < source, ∀ opened, (opened, earlier) ∈ items → opened.label ≠ label) ∧
      labelsOf (items.filter fun item => decide (item.2 ≠ source)) =
        (labelsOf items).erase label := by
  induction items with
  | nil => cases member
  | cons item rest ih =>
      obtain ⟨behind, sorted⟩ := List.pairwise_cons.mp sorted
      by_cases same : item.1.label = label
      · refine ⟨item.2, ⟨item.1, List.mem_cons_self .., same⟩, ?_, ?_⟩
        · intro earlier lt opened found
          rcases List.mem_cons.mp found with rfl | later
          · exact absurd lt (Nat.lt_irrefl _)
          · exact absurd (behind _ later) (Nat.lt_asymm lt)
        · have kept : rest.filter (fun other => decide (other.2 ≠ item.2)) = rest :=
            List.filter_eq_self.mpr fun other found =>
              decide_eq_true (Nat.ne_of_gt (behind other found))
          rw [List.filter_cons_of_neg (by simp), kept]
          simp [labelsOf, same]
      · have found : label ∈ labelsOf rest :=
          (List.mem_cons.mp member).resolve_left (Ne.symm same)
        obtain ⟨source, ⟨opened, inside, equal⟩, first, erased⟩ := ih sorted found
        refine ⟨source, ⟨opened, List.mem_cons_of_mem _ inside, equal⟩, ?_, ?_⟩
        · intro earlier lt other listed
          rcases List.mem_cons.mp listed with rfl | later
          · exact same
          · exact first earlier lt other later
        · have kept : item.2 ≠ source := Nat.ne_of_lt (behind _ inside)
          rw [List.filter_cons_of_pos (by simpa using kept)]
          unfold labelsOf at erased ⊢
          rw [List.map_cons, List.map_cons, erased, List.erase_cons_tail (by simpa using same)]

namespace Summarises

variable {labels : ChainLabels} (summarises : Summarises labels tokens pairs)
  (last : ∀ earlier ∈ tokens, Precedes earlier token)

include summarises last

/-- A label after a filter is open from now on. -/
theorem opened (side : token.side = .trailing) :
    Summarises { labels with outputs := labels.outputs ++ [token.label] } (tokens ++ [token])
      pairs := by
  obtain ⟨paired, inputs, outputs⟩ := summarises
  have longer := paired.concat last none (by simp) fun _ leading => by simp [side] at leading
  rw [Option.toList_none, List.map_nil, List.append_nil] at longer
  refine ⟨longer, ?_, ?_⟩
  · rw [unpaired_concat_other (.inl (by simp [side]))]
    exact inputs
  · rw [labelsOf_unpaired_concat side paired.length_notMem_sources, ← outputs]

/-- A label before a filter takes the first open label of its name. -/
theorem taken (side : token.side = .leading) (member : token.label ∈ labels.outputs) :
    ∃ more, Summarises { labels with outputs := labels.outputs.erase token.label }
      (tokens ++ [token]) more := by
  obtain ⟨paired, inputs, outputs⟩ := summarises
  rw [outputs] at member
  obtain ⟨source, found, first, erased⟩ := exists_first (pairwise_unpaired _ _ _) member
  have earliest : ∀ earlier < source, ¬ CanTake tokens pairs token.label earlier := by
    rintro earlier lt ⟨opened, inside, equal⟩
    exact first earlier lt opened inside equal
  have longer := paired.concat last (some source)
    (by rintro _ ⟨rfl⟩; exact ⟨side, found, earliest⟩) (by simp)
  refine ⟨_, longer, ?_, ?_⟩
  · rw [List.map_append, unpaired_concat_other (.inr (by simp))]
    exact inputs.trans (congrArg labelsOf (unpaired_taken_length _).symm)
  · rw [List.map_append, unpaired_concat_other (.inl (by simp [side]))]
    show labels.outputs.erase token.label = labelsOf (unpaired tokens .trailing (_ ++ [source]))
    rw [unpaired_taken, erased, outputs]

/-- A label before a filter comes from outside if none of its name is open. -/
theorem passed (side : token.side = .leading) (absent : token.label ∉ labels.outputs) :
    Summarises { labels with inputs := labels.inputs ++ [token.label] } (tokens ++ [token])
      pairs := by
  obtain ⟨paired, inputs, outputs⟩ := summarises
  have nothing : ∀ source, ¬ CanTake tokens pairs token.label source := by
    rintro source ⟨opened, inside, equal⟩
    exact absent (outputs ▸ List.mem_map.mpr ⟨(opened, source), inside, equal⟩)
  have longer := paired.concat last none (by simp) fun _ _ => nothing
  rw [Option.toList_none, List.map_nil, List.append_nil] at longer
  refine ⟨longer, ?_, ?_⟩
  · rw [labelsOf_unpaired_concat side paired.length_notMem_targets, ← inputs]
  · rw [unpaired_concat_other (.inl (by simp [side]))]
    exact outputs

theorem concat : ∃ more, Summarises (labels.readToken token) (tokens ++ [token]) more := by
  unfold ChainLabels.readToken
  cases side : token.side with
  | trailing => exact ⟨pairs, summarises.opened last side⟩
  | leading =>
      by_cases member : token.label ∈ labels.outputs
      · simpa [ChainLabels.consume, member] using summarises.taken last side member
      · exact ⟨pairs, by
          simpa [ChainLabels.consume, member] using summarises.passed last side member⟩

end Summarises

/-- Labels that are read one after the other are summarised. -/
theorem exists_summarises (ordered : tokens.Pairwise Precedes) :
    ∃ pairs, Summarises (tokens.foldl ChainLabels.readToken {}) tokens pairs := by
  induction tokens using List.reverseRecOn with
  | nil =>
      refine ⟨[], ⟨by simp, by simp, by simp, ?_⟩, rfl, rfl⟩
      intro target reader found
      cases found
  | append_singleton tokens token ih =>
      obtain ⟨before, -, last⟩ := List.pairwise_append.mp ordered
      obtain ⟨pairs, summarises⟩ := ih before
      rw [List.foldl_append]
      exact summarises.concat fun earlier member =>
        last earlier member token (List.mem_singleton_self _)

/-! ## Chains -/

/-- The layouts of a chain's filters. -/
@[mk_iff]
structure LaysOut (layouts : List FilterLayout) (chain : List Char) : Prop where
  sound : ∀ layout ∈ layouts, layout.IsSound
  texts : layouts.map FilterLayout.text = splitUnquoted ',' chain

instance (layouts : List FilterLayout) (chain : List Char) : Decidable (LaysOut layouts chain) :=
  decidable_of_iff' _ (laysOut_iff layouts chain)

theorem exists_laysOut (chain : List Char) : ∃ layouts, LaysOut layouts chain := by
  refine ⟨(splitUnquoted ',' chain).map fun filter => (exists_layout filter).choose, ?_, ?_⟩
  · rw [List.forall_mem_map]
    exact fun filter _ => (exists_layout filter).choose_spec.1
  · rw [List.map_map]
    exact List.map_id'' (fun filter => (exists_layout filter).choose_spec.2) _

/-- A chain is read label by label. -/
theorem LaysOut.chainLabels_eq {layouts : List FilterLayout} {chain : List Char}
    (laysOut : LaysOut layouts chain) :
    chainLabels chain = (linkTokens layouts).foldl ChainLabels.readToken {} := by
  unfold chainLabels linkTokens
  rw [← laysOut.texts, List.foldl_map, List.foldl_flatMap]
  have places : layouts.zipIdx.map Prod.fst = layouts := List.zipIdx_map_fst 0 layouts
  rw [← places, List.foldl_map, places]
  refine List.foldl_ext _ _ _ fun labels item member => ?_
  exact labels.readFilter_layout (laysOut.sound item.1 (List.fst_mem_of_mem_zipIdx member)) item.2

/-- The labels of every chain of a fragment, however its filters are laid out, are
summarised by the chain's statement. -/
theorem summarises_statements (text : String) :
    List.Forall₂ (fun chain statement =>
        statement.body = String.ofList chain ∧
        (∃ layouts, LaysOut layouts chain) ∧
        ∀ layouts, LaysOut layouts chain →
          ∃ pairs, Summarises ⟨statement.inputs, statement.outputs⟩ (linkTokens layouts) pairs)
      (chains text.toList) (statements text) := by
  unfold statements
  rw [List.forall₂_map_right_iff, List.forall₂_same]
  refine fun chain _ => ⟨rfl, exists_laysOut chain, fun layouts laysOut => ?_⟩
  obtain ⟨pairs, summarises⟩ := exists_summarises (precedes_linkTokens layouts)
  rw [← laysOut.chainLabels_eq] at summarises
  exact ⟨pairs, summarises⟩

/-- A chain that declares a label three times and takes the first of them, with
blanks around its labels. -/
def braided : String := "[a] split=3 [x][y][x], [x]hflip[z] ,[y][b]overlay[x]"

/-- The layouts of its filters. -/
def braidedLayouts : List FilterLayout :=
  [{ leading := [("a".toList, " ".toList)]
     core := "split=3".toList
     trailing := [("x".toList, " ".toList), ("y".toList, []), ("x".toList, [])] },
    { before := " ".toList
      leading := [("x".toList, [])]
      core := "hflip".toList
      trailing := [("z".toList, [])]
      after := " ".toList },
    { leading := [("y".toList, []), ("b".toList, [])]
      core := "overlay".toList
      trailing := [("x".toList, [])] }]

theorem summarises_statements_braided :
    LaysOut braidedLayouts braided.toList ∧
    statements braided = [⟨.raw, ["a", "b"], ["x", "z", "x"], braided⟩] ∧
    ∃ pairs, Summarises ⟨["a", "b"], ["x", "z", "x"]⟩ (linkTokens braidedLayouts) pairs := by
  have laysOut : LaysOut braidedLayouts braided.toList := by decide +kernel
  have whole : chains braided.toList = [braided.toList] := by decide +kernel
  have read : statements braided = [⟨.raw, ["a", "b"], ["x", "z", "x"], braided⟩] := by
    decide +kernel
  have each := summarises_statements braided
  rw [whole, read] at each
  obtain ⟨⟨-, -, summarised⟩, -⟩ := List.forall₂_cons.mp each
  exact ⟨laysOut, read, summarised braidedLayouts laysOut⟩

end Montage.Fragment
