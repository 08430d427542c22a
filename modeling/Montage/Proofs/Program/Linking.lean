import Montage.Proofs.Program.Anchoring

/-!
# Linked programs

Every program that either route builds has all its links in order: each is
declared once before it is consumed, none is left over, and the final streams
are there and differ. Some of that the last step checks; the rest follows from
the streams staying anchored all through the route.
-/

namespace Montage

/-- A program whose links are in order over its inputs. -/
structure Program.Linked (program : Program) : Prop where
  /-- what a statement consumes is an input's stream or declared before it -/
  supplied : ∀ earlier statement later,
    program.graph.statements = earlier ++ statement :: later →
      ∀ label ∈ statement.inputs,
        (∃ index, inputStreamIndex? label = some index ∧ index < program.inputs.length) ∨
          label ∈ earlier.flatMap (·.outputs)
  declaredOnce : program.graph.declared.Nodup
  declaredPlain : ∀ label ∈ program.graph.declared, isInputStream label = false
  /-- what is declared is consumed once or final -/
  used : ∀ label ∈ program.graph.declared,
    program.graph.consumed.count label = 1 ∨
      (label ∉ program.graph.consumed ∧ label ∈ program.final.labels)
  /-- a final stream is an input's or declared and not consumed -/
  final : ∀ label ∈ program.final.labels,
    (∃ index, inputStreamIndex? label = some index ∧ index < program.inputs.length) ∨
      (label ∈ program.graph.declared ∧ label ∉ program.graph.consumed)
  finalSome : program.final.labels ≠ []
  finalDiffer : ∀ label ∈ program.final.video, label ∉ program.final.audio

namespace Composition

variable {composition : Composition}

/-- The final streams of a route are anchored, whatever labels are asked for. -/
theorem anchored_of_fit {parts : RouteParts} (accepted : composition.check = .ok ())
    (addressable : composition.Addressable) (fit : parts.Fit composition.inputs.length) :
    Anchored composition.inputs.length (parts.finish composition).1.declared
      (parts.finish composition).2 := by
  have asked : ∀ kind, ∀ label ∈ composition.requested kind, isInputStream label = false :=
    fun kind label member => isInputStream_eq_false (requested_plain accepted kind label member)
  have layered := Anchored.of_wired addressable fit.wiredLayers fit.videoFits fit.baseAudioFits
  have named := layered.relabel .video (asked .video)
  have plainBefore : ∀ label ∈ (parts.baseAudio.toList.flatMap Feed.links).map Prod.fst,
      ':' ∉ label.toList := by
    intro label member
    refine fit.base.plain label (fit.base.mem_links_iff.mp ?_).1
    rw [List.map_append]
    exact List.mem_append_right _ member
  have mixed := named.flow addressable .audio parts.baseAudio rfl fit.mixed
    fit.audioFits (fun label member => isInputStream_eq_false
      (fit.declaresMix.colon_notMem label member)) plainBefore
  rw [← FilterGraph.Wired.declared_extend] at mixed
  exact mixed.relabel .audio (asked .audio)

/-- Anchored streams whose labels are all accounted for are linked. -/
theorem linked_of_accounted {graph : FilterGraph} {streams : Streams} {size : Option Resolution}
    {singlePass : Bool} (addressable : composition.Addressable)
    (anchored : Anchored composition.inputs.length graph.declared streams)
    (accounted : Accounted graph streams composition.inputs.length) :
    (composition.assembled graph streams size singlePass).Linked := by
  have valid := accounted.valid
  refine ⟨?_, valid.declaredOnce, valid.declaredPlain, ?_, ?_, accounted.some, ?_⟩
  · intro earlier statement later split label consumed
    exact (valid.supplied earlier statement later split label consumed).imp_right (·.2)
  · intro label declared
    by_cases consumed : label ∈ graph.consumed
    · -- the validator counts the links among what is consumed
      have link : (!isInputStream label) = true := by rw [valid.declaredPlain label declared]; rfl
      have counted : (linksOf graph.consumed).count label = graph.consumed.count label :=
        List.count_filter link
      refine .inl (counted.symm.trans ?_)
      exact List.count_eq_one_of_mem valid.consumedOnce
        (mem_linksOf.mpr ⟨consumed, valid.declaredPlain label declared⟩)
    · exact .inr ⟨consumed, (accounted.used label declared).resolve_left consumed⟩
  · -- that a final stream is one of an existing input is not checked anywhere
    intro label final
    refine (accounted.mapped label final).imp_left fun stream => ?_
    obtain ⟨kind, current⟩ := Streams.mem_labels.mp final
    rcases anchored.rooted kind label current with ⟨index, inRange, rfl⟩ | declared
    · refine ⟨index, ?_, inRange⟩
      have bound : composition.inputs.length ≤ UInt64.size := addressable
      rw [inputStreamIndex?_streamLabel, if_pos (by omega)]
    · rw [valid.declaredPlain label declared] at stream
      exact absurd stream (by decide)
  · exact fun label video => anchored.differ valid.declaredOnce video

/-- Every program that either route builds is linked. -/
theorem linked_of_built {program : Program} (addressable : composition.Addressable)
    (built : composition.compile = .ok program ∨ composition.singlePass = .ok program) :
    program.Linked := by
  rcases built with compiled | passed
  · obtain ⟨accepted, -, streams, chains, assembled⟩ := composition.compile_ok_iff.mp compiled
    obtain ⟨accounted, rfl⟩ := composition.assemble_ok_iff.mp assembled
    obtain ⟨parts, fit, equal, -, -⟩ := fullRoute_parts accepted
    have anchored := anchored_of_fit accepted addressable fit
    rw [← equal] at anchored
    -- what fragments declare is plain because the whole graph was found valid
    have plain : ∀ label ∈ composition.fragmentStatements.flatMap (·.outputs),
        isInputStream label = false := by
      intro label member
      refine accounted.valid.declaredPlain label ?_
      rw [FilterGraph.Wired.declared_extend]
      exact List.mem_append_right _ member
    have last := anchored.afterChains plain chains
    rw [← FilterGraph.Wired.declared_extend] at last
    exact linked_of_accounted addressable last accounted
  · obtain ⟨accepted, simple, assembled⟩ := composition.singlePass_ok_iff.mp passed
    obtain ⟨accounted, rfl⟩ := composition.assemble_ok_iff.mp assembled
    obtain ⟨parts, fit, equal, -, -⟩ := plainRoute_parts simple
    have anchored := anchored_of_fit accepted addressable fit
    rw [← equal] at anchored
    exact linked_of_accounted addressable anchored accounted

/-- Two clips whose joined video goes through a fragment, with a label for the
audio. -/
def vignetted : Composition where
  main := ⟨[1], .video, {}⟩
  append := [⟨[2], .video, {}⟩]
  fragments := ["[basev]vignette[out]"]
  output := { audioLabel := some "sound" }

theorem linked_vignetted : ∃ program, vignetted.compile = .ok program ∧ program.Linked := by
  have addressable : vignetted.Addressable := by
    show vignetted.inputs.length ≤ UInt64.size
    decide
  have succeeds : vignetted.compile.isOk = true := by decide +kernel
  cases compiled : vignetted.compile with
  | error fault =>
      rw [compiled] at succeeds
      cases succeeds
  | ok program => exact ⟨program, rfl, linked_of_built addressable (.inl compiled)⟩

end Composition

end Montage
