import Montage.Proofs.Program.Ends

/-!
# When programs can be built

An accepted composition that asks for no label of the routes' own can always
be built, but for one thing: in a sequence that has audio, a clip without any
must have a length to make silence for. The first clip that has none decides
the error.
-/

namespace Montage.Composition

variable {composition : Composition}

/-- A clip of a sequence with audio that has none itself, nor a length that
silence can be made for. -/
def IsUnfillable (composition : Composition) (place : Nat) : Prop :=
  1 < composition.sequence.length ∧ (∃ clip ∈ composition.sequence, clip.hasAudio = true) ∧
    ∃ clip, composition.sequence[place]? = some clip ∧ clip.hasAudio = false ∧
      ∀ duration ∈ clip.metadata.duration, duration.isFinitePositive = false

theorem not_canSound_iff {clip : Asset} :
    ¬ composition.CanSound clip ↔
      composition.anyClipHasAudio = true ∧ clip.hasAudio = false ∧
        ∀ duration ∈ clip.metadata.duration, duration.isFinitePositive = false := by
  unfold CanSound usableDuration?
  cases clip.metadata.duration <;> simp [Option.filter_some]

theorem isUnfillable_iff {place : Nat} :
    composition.IsUnfillable place ↔
      composition.isSequenced = true ∧
        ∃ clip, composition.sequence[place]? = some clip ∧ ¬ composition.CanSound clip := by
  have many : composition.isSequenced = true ↔ 1 < composition.sequence.length := by
    rw [isSequenced_eq, decide_eq_true_eq]
  have heard : composition.anyClipHasAudio = true ↔
      ∃ clip ∈ composition.sequence, clip.hasAudio = true := List.any_eq_true
  simp only [not_canSound_iff, many, heard, IsUnfillable]
  constructor
  · rintro ⟨several, audio, clip, found, silent⟩
    exact ⟨several, clip, found, audio, silent⟩
  · rintro ⟨several, clip, found, audio, silent⟩
    exact ⟨several, audio, clip, found, silent⟩

theorem allSound_iff :
    composition.AllSound ↔ ∀ place, ¬ composition.IsUnfillable place := by
  simp only [isUnfillable_iff]
  constructor
  · rintro sounds place ⟨sequenced, clip, found, silent⟩
    exact silent (sounds sequenced clip (List.mem_of_getElem? found))
  · intro fillable sequenced clip member
    obtain ⟨place, found⟩ := List.mem_iff_getElem?.mp member
    by_contra silent
    exact fillable place ⟨sequenced, clip, found, silent⟩

/-- The first clip that cannot be filled decides the fault. -/
theorem compile_error (accepted : composition.check = .ok ()) {place : Nat}
    (unfillable : composition.IsUnfillable place)
    (first : ∀ earlier < place, ¬ composition.IsUnfillable earlier) :
    composition.compile = .error (.silenceOfUnknownLength place) := by
  obtain ⟨sequenced, clip, found, silent⟩ := isUnfillable_iff.mp unfillable
  obtain ⟨bound, equal⟩ := List.getElem?_eq_some_iff.mp found
  have split : composition.sequence =
      composition.sequence.take place ++ clip :: composition.sequence.drop (place + 1) := by
    rw [← equal, ← List.drop_eq_getElem_cons bound, List.take_append_drop]
  have length : (composition.sequence.take place).length = place :=
    List.length_take_of_le (Nat.le_of_lt bound)
  -- the clips before the first one that cannot be filled do not fail
  have before : ∀ other ∈ composition.sequence.take place, composition.CanSound other := by
    intro other member
    obtain ⟨earlier, before, rfl⟩ := List.mem_take_iff_getElem.mp member
    by_contra silent'
    refine first earlier (by omega) (isUnfillable_iff.mpr ⟨sequenced, _, ?_, silent'⟩)
    exact List.getElem?_eq_getElem (by omega)
  have fails := composition.join_error sequenced split before silent
  unfold compile
  rw [accepted, fails, length]
  rfl

theorem not_isSimple_of_isUnfillable {place : Nat} (unfillable : composition.IsUnfillable place) :
    composition.isSimple = false := by
  have sequenced := (isUnfillable_iff.mp unfillable).1
  by_contra simple
  rw [isSequenced_of_isSimple (by simpa using simple)] at sequenced
  exact absurd sequenced (by decide)

/-- The error for a clip that cannot be filled with silence. -/
def silenceError (place : Nat) : Error :=
  .graphBuild ("clip " ++ toString place ++
    " has no audio track and no known duration to fill with silence") none

/-- Programs can be built by every route that applies unless a clip cannot be
filled with silence, and then the first such clip is named. -/
theorem built_unless_isUnfillable (accepted : composition.check = .ok ())
    (addressable : composition.Addressable) (own : composition.AsksNewLabels)
    (unfiltered : composition.fragments = []) :
    ((∀ place, ¬ composition.IsUnfillable place) →
      (∃ program, composition.compile = .ok program) ∧
        ∃ program, composition.plan = .ok program) ∧
    (composition.isSimple = true → ∃ program, composition.singlePass = .ok program) ∧
    ∀ place, composition.IsUnfillable place →
      (∀ earlier < place, ¬ composition.IsUnfillable earlier) →
        composition.compile.mapError Error.ofFault = .error (silenceError place) ∧
          composition.plan = .error (silenceError place) := by
  have validated : composition.validate = .ok () := mapError_ok_iff.mpr accepted
  refine ⟨fun fillable => ?_, fun simple => ?_, fun place unfillable first => ?_⟩
  · -- a plan takes the single-pass route where it can
    have compiled := compile_eq accepted addressable own unfiltered (allSound_iff.mpr fillable)
    refine ⟨⟨_, compiled⟩, ?_⟩
    unfold plan
    rw [validated]
    cases simple : composition.isSimple with
    | true => exact ⟨_, mapError_ok_iff.mpr (singlePass_eq accepted addressable own simple)⟩
    | false => exact ⟨_, mapError_ok_iff.mpr compiled⟩
  · exact ⟨_, singlePass_eq accepted addressable own simple⟩
  · have fails := compile_error accepted unfillable first
    unfold plan
    rw [validated, not_isSimple_of_isUnfillable unfillable, fails]
    exact ⟨rfl, rfl⟩

/-- A clip of unknown length and without audio after one that is heard. -/
def appendedSilence : Composition where
  main := ⟨[1], .video, {}⟩
  append := [⟨[2], .video, { hasAudio := some false }⟩]
  output := { videoLabel := some "final" }

theorem plan_appendedSilence : appendedSilence.plan = .error (silenceError 1) := by
  have addressable : appendedSilence.Addressable := by
    show appendedSilence.inputs.length ≤ UInt64.size
    decide
  have own : appendedSilence.AsksNewLabels := by
    intro kind label member name equal
    cases kind with
    | audio => cases member
    | video =>
        cases member
        cases name with
        | numbered family number => exact LinkName.numbered_text_ne (by decide) equal
        | _ => exact absurd equal (by decide)
  have accepted : appendedSilence.check = .ok () := by decide +kernel
  obtain ⟨-, -, fails⟩ := built_unless_isUnfillable accepted addressable own rfl
  refine (fails 1 ?_ ?_).2
  · exact ⟨by decide, ⟨_, List.mem_cons_self .., rfl⟩, _, rfl, rfl, by simp⟩
  · intro earlier before
    obtain rfl : earlier = 0 := by omega
    rintro ⟨-, -, clip, found, silent, -⟩
    cases found
    exact absurd silent (by decide)

end Montage.Composition
