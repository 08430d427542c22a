import Montage.Composition.Check
import Montage.Program.Compile
import Montage.Proofs.Graph.Labels

/-!
# Accepted compositions

A composition is accepted if none of its violations is found (`check_ok_iff`).
What follows from that for the routes: all clips are of one kind, layers are
only seen over a video and have their numbers in range, the labels that are
asked for are plain and differ, and the format is a plain file extension.
-/

namespace Montage

/-- A condition without a violation holds. -/
@[simp] theorem require_eq_nil {holds : Bool} {violation : Violation} :
    require holds violation = [] ↔ holds = true := by
  cases holds <;> simp [require]

/-- A value without a violation meets its condition. -/
@[simp] theorem given_eq_nil {α : Type} {value : Option α} {holds : α → Bool}
    {violation : α → Violation} :
    given value holds violation = [] ↔ ∀ x ∈ value, holds x = true := by
  cases value <;> simp [given]

namespace Composition

variable {composition : Composition}

theorem check_ok_iff : composition.check = .ok () ↔ composition.violations = [] := by
  unfold check
  cases composition.violations <;> simp

/-- The label that is asked for a final stream. -/
def requested (composition : Composition) : MediaKind → Option String
  | .video => composition.output.videoLabel
  | .audio => composition.output.audioLabel

theorem outputViolations_of_check (accepted : composition.check = .ok ()) :
    outputViolations composition.output = [] := by
  have violations := check_ok_iff.mp accepted
  unfold Composition.violations at violations
  exact (List.append_eq_nil_iff.mp violations).2

theorem requested_isLinkLabel (accepted : composition.check = .ok ()) (kind : MediaKind) :
    ∀ label ∈ composition.requested kind, isLinkLabel label = true := by
  have violations := outputViolations_of_check accepted
  simp only [outputViolations, List.append_eq_nil_iff, given_eq_nil] at violations
  cases kind with
  | video => exact violations.1.1.1.1.1
  | audio => exact violations.1.1.1.1.2

/-- A label that is asked for does not look like a stream of an input. -/
theorem requested_plain (accepted : composition.check = .ok ()) (kind : MediaKind) :
    ∀ label ∈ composition.requested kind, ':' ∉ label.toList := fun label member =>
  colon_notMem_of_isLinkLabel (requested_isLinkLabel accepted kind label member)

/-- The labels that are asked for differ. -/
theorem requested_ne (accepted : composition.check = .ok ()) {label : String}
    (video : label ∈ composition.requested .video) : label ∉ composition.requested .audio := by
  have violations := outputViolations_of_check accepted
  simp only [outputViolations, List.append_eq_nil_iff, given_eq_nil] at violations
  have differs := violations.1.1.1.2 label video
  rw [bne_iff_ne] at differs
  exact differs

/-- The format of the output is a plain file extension. -/
theorem isExtension_format (accepted : composition.check = .ok ()) :
    Asset.isExtension composition.output.format = true := by
  have violations := outputViolations_of_check accepted
  simp only [outputViolations, List.append_eq_nil_iff, require_eq_nil] at violations
  exact violations.1.1.2

/-- All clips are of the kind of the main asset. -/
theorem kind_of_clip (accepted : composition.check = .ok ()) :
    ∀ clip ∈ composition.sequence, clip.kind = composition.main.kind := by
  have added : ∀ place clips, clipViolations composition.main.kind place clips = [] →
      ∀ clip ∈ clips, clip.kind = composition.main.kind := by
    intro place clips none clip member
    obtain ⟨index, found⟩ := List.mem_iff_getElem?.mp member
    simp only [clipViolations, List.flatMap_eq_nil_iff, List.append_eq_nil_iff,
      require_eq_nil] at none
    exact beq_iff_eq.mp (none (clip, index) (List.mem_zipIdx_iff_getElem?.mpr found)).2
  have violations := check_ok_iff.mp accepted
  unfold Composition.violations at violations
  simp only [List.append_eq_nil_iff] at violations
  intro clip member
  rcases List.mem_append.mp member with before | rest
  · exact added _ _ violations.1.1.1.1.2 clip before
  · rcases List.mem_cons.mp rest with rfl | after
    · rfl
    · exact added _ _ violations.1.1.1.2 clip after

/-- Layers are seen only over a video. -/
theorem isVideo_of_visual (accepted : composition.check = .ok ()) {item : Layer × Nat}
    (visual : item ∈ composition.visualLayers) : composition.main.isVideo = true := by
  have violations := check_ok_iff.mp accepted
  unfold Composition.violations at violations
  simp only [List.append_eq_nil_iff, List.flatMap_eq_nil_iff] at violations
  obtain ⟨member, seen⟩ := List.mem_filter.mp visual
  have none := violations.1.1.2 item member
  simp only [layerViolations, List.append_eq_nil_iff, require_eq_nil] at none
  simpa [seen] using none.1.1.1.1.1.1.1.2

end Composition

/-- A layer whose numbers are those of an accepted one. -/
structure Layer.InRange (layer : Layer) : Prop where
  opacity : isFraction layer.spec.opacity = true
  start : layer.spec.start.isFinite = true ∧ 0 ≤ layer.spec.start
  duration : ∀ duration ∈ layer.spec.duration, duration.isFinitePositive = true
  similarity : ∀ similarity ∈ layer.spec.similarity, isFraction similarity = true
  blend : ∀ blend ∈ layer.spec.blend, isFraction blend = true

theorem Composition.inRange_of_check {composition : Composition}
    (accepted : composition.check = .ok ()) {layer : Layer}
    (member : layer ∈ composition.overlays) : layer.InRange := by
  obtain ⟨place, found⟩ := List.mem_iff_getElem?.mp member
  have violations := check_ok_iff.mp accepted
  unfold Composition.violations at violations
  simp only [List.append_eq_nil_iff, List.flatMap_eq_nil_iff] at violations
  have none := violations.1.1.2 (layer, place) (List.mem_zipIdx_iff_getElem?.mpr found)
  simp only [layerViolations, List.append_eq_nil_iff, require_eq_nil, given_eq_nil,
    Bool.and_eq_true, decide_eq_true_eq] at none
  obtain ⟨⟨⟨⟨⟨⟨⟨⟨-, -⟩, opacity⟩, start⟩, duration⟩, similarity⟩, blend⟩, -⟩, -⟩ := none
  exact ⟨opacity, start, duration, similarity, blend⟩

/-- A frame rate that is asked for is finite and above zero. -/
theorem Composition.fps_of_check {composition : Composition}
    (accepted : composition.check = .ok ()) :
    ∀ fps ∈ composition.output.fps, fps.isFinitePositive = true := by
  have violations := outputViolations_of_check accepted
  simp only [outputViolations, List.append_eq_nil_iff, given_eq_nil] at violations
  exact violations.2

end Montage
