import Montage.Proofs.Filter.Finite
import Montage.Proofs.Program.Agreement
import Montage.Proofs.Program.Kinds
import Montage.Proofs.Program.Rejection

/-!
# Numbers that programs print

The numbers of an accepted composition are finite, and so are all that its
program prints as they are. Two are computed first: the end of a layer's time
window, and the delay of its audio in milliseconds. A program without fragments
prints finite numbers only just when these do not overflow
(`printsFinite_iff`).
-/

namespace Montage

open Montage.Composition
open Binary64 (overflowUnits unitsPerOne)

/-! ## Times of layers -/

/-- The times that are computed for a layer do not overflow: the end of its
time window, and its delay in milliseconds if it is heard. -/
structure Layer.TimesFit (layer : Layer) : Prop where
  finish : ∀ duration ∈ layer.spec.duration,
    layer.spec.start.magnitude + duration.magnitude < overflowUnits
  delay : layer.isAudible = true → layer.spec.start.magnitude * 1000 < overflowUnits

/-- The numbers that are not asked for: bounds, defaults, and milliseconds in a
second. -/
theorem isFinite_constants : ∀ x ∈ ([0, 1, 30, 1000, 0.3, 0.1, Filter.minSimilarity] :
    List Binary64), x.isFinite = true := by decide +kernel

namespace Layer.InRange

variable {layer : Layer}

theorem isFinite_finish_iff (inRange : layer.InRange) :
    (∀ finish ∈ layer.spec.finish, finish.isFinite = true) ↔
      ∀ duration ∈ layer.spec.duration,
        layer.spec.start.magnitude + duration.magnitude < overflowUnits := by
  unfold OverlaySpec.finish
  cases given : layer.spec.duration with
  | none => simp
  | some duration =>
      obtain ⟨finite, above⟩ := Binary64.isFinitePositive_iff.mp (inRange.duration duration given)
      have sum := Binary64.isFinite_add_iff inRange.start.1 finite inRange.start.2
        (Binary64.le_of_lt above)
      simpa using sum

theorem isFinite_delay_iff (inRange : layer.InRange) :
    (layer.spec.start * 1000).isFinite = true ↔
      layer.spec.start.magnitude * 1000 < overflowUnits := by
  have thousand : (1000 : Binary64).magnitude = 1000 * unitsPerOne := by decide +kernel
  have finite := isFinite_constants 1000 (by simp)
  rw [Binary64.isFinite_mul_iff inRange.start.1 finite, thousand, ← Nat.mul_assoc]
  exact Nat.mul_lt_mul_right Binary64.unitsPerOne_pos

/-- A layer that is there from the start has no delay. -/
theorem delay_fits (inRange : layer.InRange) (undelayed : ¬0 < layer.spec.start) :
    layer.spec.start.magnitude * 1000 < overflowUnits := by
  rw [Binary64.magnitude_of_not_pos inRange.start.2 undelayed, Nat.zero_mul]
  exact Binary64.overflowUnits_pos

end Layer.InRange

theorem isFinite_of_isFraction {x : Binary64} (fraction : isFraction x = true) :
    x.isFinite = true := by
  unfold isFraction at fraction
  rw [Bool.and_eq_true, decide_eq_true_eq, decide_eq_true_eq] at fraction
  exact Binary64.isFinite_of_between (isFinite_constants 0 (by simp))
    (isFinite_constants 1 (by simp)) fraction.1 fraction.2

theorem isFinite_getD {given : Option Binary64} {d : Binary64}
    (fractions : ∀ x ∈ given, isFraction x = true) (finite : d.isFinite = true) :
    (given.getD d).isFinite = true := by
  cases given with
  | none => exact finite
  | some x => exact isFinite_of_isFraction (fractions x rfl)

namespace Composition

variable {composition : Composition}

/-! ## Bodies -/

theorem isFinite_sequenceFps (composition : Composition) :
    composition.sequenceFps.isFinite = true := by
  have thirty := isFinite_constants 30 (by simp)
  unfold sequenceFps
  split
  · split
    · rename_i usable
      exact (Binary64.isFinitePositive_iff.mp usable).1
    · exact thirty
  · exact thirty

/-- A clip that is filled with silence has a finite duration. -/
theorem isFinite_silence (sounds : composition.AllSound) {clip : Asset}
    (member : clip ∈ composition.sequence) (silent : clip.hasAudio = false)
    (some_ : composition.anyClipHasAudio = true) :
    (clip.metadata.duration.getD 0).isFinite = true := by
  cases sequenced : composition.isSequenced with
  | false =>
      -- the only clip is silent
      rw [anyClipHasAudio, (composition.sequence_of_single sequenced).1] at some_
      rw [(composition.sequence_of_single sequenced).1, List.mem_singleton] at member
      simp [← member, silent] at some_
  | true =>
      obtain ⟨duration, usable⟩ :=
        Option.isSome_iff_exists.mp (sounds sequenced clip member some_ silent)
      obtain ⟨known, positive⟩ := Option.filter_eq_some_iff.mp usable
      rw [known, Option.getD_some]
      exact (Binary64.isFinitePositive_iff.mp positive).1

theorem mem_overlays_of_audible {item : Layer × Nat} (audible : item ∈ composition.audibleLayers) :
    item.1 ∈ composition.overlays ∧ item.1.isAudible = true := by
  obtain ⟨listed, heard⟩ := List.mem_filter.mp audible
  exact ⟨List.fst_mem_of_mem_zipIdx listed, heard⟩

/-- If the times of all layers fit, the filters print finite numbers only. -/
theorem isFiniteText_of_uses (accepted : composition.check = .ok ())
    (sounds : composition.AllSound) (fit : ∀ layer ∈ composition.overlays, layer.TimesFit)
    {kind : FilterKind} {body : String} (uses : composition.Uses kind body) :
    IsFiniteText body := by
  have seen : ∀ item ∈ composition.visualLayers, item.1 ∈ composition.overlays ∧ item.1.InRange :=
    fun item visual =>
      have member := List.fst_mem_of_mem_zipIdx (List.mem_filter.mp visual).1
      ⟨member, inRange_of_check accepted member⟩
  cases uses with
  | clipVideo => exact Filter.isFiniteText_normalizeVideo_iff.mpr composition.isFinite_sequenceFps
  | clipAudio => exact Filter.isFiniteText_normalizeAudio _
  | silence member silent some_ =>
      exact Filter.isFiniteText_silentAudio_iff.mpr (isFinite_silence sounds member silent some_)
  | joining => exact Filter.isFiniteText_concat _ _ _
  | @preparing item base step visual listed =>
      obtain ⟨-, inRange⟩ := seen item visual
      rcases mem_preparation listed with ⟨-, rfl⟩ | ⟨color, -, rfl⟩ | rfl
      · exact Filter.isFiniteText_timePad_iff.mpr inRange.start.1
      · have similarity := isFinite_getD inRange.similarity (isFinite_constants 0.3 (by simp))
        have blend := isFinite_getD inRange.blend (isFinite_constants 0.1 (by simp))
        have least := isFinite_constants Filter.minSimilarity (by simp)
        refine Filter.isFiniteText_colorKey_iff.mpr ⟨blend, ?_⟩
        rcases Binary64.larger_eq item.1.spec.effectiveSimilarity Filter.minSimilarity with
          equal | equal
        · rw [equal]
          exact similarity
        · rw [equal]
          exact least
      · exact Filter.isFiniteText_scale _ _
  | @fading item visual =>
      exact Filter.isFiniteText_alpha_iff.mpr
        (isFinite_of_isFraction (seen item visual).2.opacity)
  | @fitting item base visual _ =>
      refine isFiniteText_intercalate ?_
      unfold plainSteps
      simp only [List.mem_append, List.mem_ite_nil_right, List.mem_singleton]
      rintro step (⟨-, rfl⟩ | ⟨-, rfl⟩)
      · exact Filter.isFiniteText_scale _ _
      · exact Filter.isFiniteText_alpha_iff.mpr
          (isFinite_of_isFraction (seen item visual).2.opacity)
  | @laying item window visual shown =>
      obtain ⟨member, inRange⟩ := seen item visual
      rcases shown with rfl | rfl
      · exact Filter.isFiniteText_overlay_none _
      · unfold layerWindow
        split
        · exact Filter.isFiniteText_overlay_window_iff.mpr
            ⟨inRange.start.1, inRange.isFinite_finish_iff.mpr (fit _ member).finish⟩
        · exact Filter.isFiniteText_overlay_none _
  | @timing item audible _ =>
      obtain ⟨member, heard⟩ := mem_overlays_of_audible audible
      have inRange := inRange_of_check accepted member
      exact Filter.isFiniteText_audioTiming_iff.mpr
        ⟨fun _ => inRange.isFinite_delay_iff.mpr ((fit _ member).delay heard),
          inRange.isFinite_finish_iff.mpr (fit _ member).finish⟩
  | mixing _ => exact Filter.isFiniteText_mix _
  | passing kind => cases kind <;> decide

/-! ## Bodies that stay -/

/-- The bodies of the statements of a graph stay when a final stream gets the
label that is asked for. -/
theorem mem_bodies_relabel {graph : FilterGraph} {body : String}
    (member : body ∈ graph.statements.map (·.body)) (kind : MediaKind)
    (requested label : Option String) :
    body ∈ (relabel kind requested graph label).1.statements.map (·.body) := by
  rcases relabel_cases kind requested graph label with
    same | ⟨old, new, -, -, -, ⟨statements, renamed, equal⟩ | equal⟩
  · rwa [same]
  · rw [equal]
    exact (FilterGraph.bodies_renameLast? renamed).symm ▸ member
  · rw [equal]
    exact List.map_append ▸ List.mem_append_left _ member

/-- What a route writes for its layers and for its audio is in its graph. -/
theorem mem_bodies_finished {graph : FilterGraph} {video audio : Option String}
    {layering mixing : List Statement} {body : String}
    (member : body ∈ layering.map (·.body) ∨ body ∈ mixing.map (·.body)) :
    body ∈ (composition.finished graph layering video mixing audio).1.statements.map (·.body) := by
  have extended : ∀ {graph : FilterGraph} {more : List Statement},
      body ∈ graph.statements.map (·.body) ∨ body ∈ more.map (·.body) →
        body ∈ (graph.extend more).statements.map (·.body) := fun either => by
    rw [FilterGraph.extend, List.map_append]
    exact List.mem_append.mpr either
  refine mem_bodies_relabel (extended (member.imp_left fun laid => ?_)) .audio _ _
  exact mem_bodies_relabel (extended (.inr laid)) .video _ _

theorem mem_bodies_layOn (current : String) (layer : Layer) (place : Nat) (prepared : String) :
    Filter.overlay layer.spec.position (layerWindow layer.spec) ∈
      (layOn current layer place prepared).1.map (·.body) := by
  unfold layOn
  by_cases translucent : layer.spec.opacity < 1 <;> simp [translucent, layerWindow]

theorem mem_bodies_layAllOn {layers : List (Layer × Nat × String)} {item : Layer × Nat × String}
    (member : item ∈ layers) (current : String) :
    Filter.overlay item.1.spec.position (layerWindow item.1.spec) ∈
      (layAllOn current layers).1.map (·.body) := by
  induction layers generalizing current with
  | nil => cases member
  | cons first rest ih =>
      obtain ⟨layer, place, prepared⟩ := first
      show _ ∈ ((layOn current layer place prepared).1 ++ _).map (·.body)
      rw [List.map_append, List.mem_append]
      rcases List.mem_cons.mp member with rfl | later
      · exact .inl (mem_bodies_layOn _ _ _ _)
      · exact .inr (ih later _)

/-- Each visual layer is laid on in its window. -/
theorem overlay_mem_fullRoute (accepted : composition.check = .ok ()) {item : Layer × Nat}
    (visual : item ∈ composition.visualLayers) :
    Filter.overlay item.1.spec.position (layerWindow item.1.spec) ∈
      composition.fullRoute.1.statements.map (·.body) := by
  refine mem_bodies_finished (.inl ?_)
  have base : ∃ label, composition.joined.2.video = some label := by
    rw [joined_streams]
    unfold baseVideoFeed
    rw [if_pos (isVideo_of_visual accepted visual)]
    exact ⟨_, rfl⟩
  obtain ⟨label, base⟩ := base
  rw [layersOn_eq, base]
  dsimp only
  rw [List.map_append, List.mem_append]
  refine .inr ?_
  rw [labelled_preparedLayers]
  exact mem_bodies_layAllOn (List.mem_map_of_mem visual) label

/-- Each audible layer that is timed is fitted to its window. -/
theorem timing_mem_fullRoute {item : Layer × Nat} (audible : item ∈ composition.audibleLayers)
    (timed : item.1.spec.isTimed = true) :
    Filter.audioTiming item.1.spec.start item.1.spec.finish ∈
      composition.fullRoute.1.statements.map (·.body) := by
  refine mem_bodies_finished (.inr ?_)
  unfold mixLayers
  rw [List.map_append, List.mem_append, List.flatMap_map]
  rw [List.map_flatMap]
  refine .inl (List.mem_flatMap.mpr ⟨item, audible, ?_⟩)
  show _ ∈ (composition.layerAudio item.1 item.2).1.map (·.body)
  unfold layerAudio
  rw [if_pos timed]
  exact List.mem_singleton.mpr rfl

/-- Every layer is seen or heard. -/
theorem isVisual_or_isAudible (layer : Layer) :
    layer.isVisual = true ∨ layer.isAudible = true := by
  unfold Layer.isVisual Layer.isAudible Asset.isVideo Asset.hasAudio
  cases layer.asset.kind <;> simp

/-- If the filters of the full route print finite numbers only, the times of all
layers fit. -/
theorem timesFit_of_isFiniteText (accepted : composition.check = .ok ())
    (finite : ∀ statement ∈ composition.fullRoute.1.statements, IsFiniteText statement.body) :
    ∀ layer ∈ composition.overlays, layer.TimesFit := by
  intro layer member
  have inRange := inRange_of_check accepted member
  obtain ⟨place, found⟩ := List.mem_iff_getElem?.mp member
  have listed : (layer, place) ∈ composition.overlays.zipIdx :=
    List.mem_zipIdx_iff_getElem?.mpr found
  have bodies : ∀ body ∈ composition.fullRoute.1.statements.map (·.body), IsFiniteText body :=
    List.forall_mem_map.mpr finite
  have heard : layer.isAudible = true → layer.spec.isTimed = true →
      (0 < layer.spec.start → (layer.spec.start * 1000).isFinite = true) ∧
        ∀ finish ∈ layer.spec.finish, finish.isFinite = true := fun audible timed =>
    Filter.isFiniteText_audioTiming_iff.mp
      (bodies _ (timing_mem_fullRoute (List.mem_filter.mpr ⟨listed, audible⟩) timed))
  have seen : layer.isVisual = true → layer.spec.isTimed = true →
      ∀ finish ∈ layer.spec.finish, finish.isFinite = true := fun visual timed => by
    have body := bodies _
      (overlay_mem_fullRoute accepted (List.mem_filter.mpr ⟨listed, visual⟩))
    rw [layerWindow, if_pos timed] at body
    exact (Filter.isFiniteText_overlay_window_iff.mp body).2
  refine ⟨inRange.isFinite_finish_iff.mp fun finish known => ?_, fun audible => ?_⟩
  · obtain ⟨duration, given, -⟩ := Option.map_eq_some_iff.mp known
    have timed : layer.spec.isTimed = true := by simp [OverlaySpec.isTimed, given]
    rcases isVisual_or_isAudible layer with visual | audible
    · exact seen visual timed finish known
    · exact (heard audible timed).2 finish known
  · by_cases delayed : 0 < layer.spec.start
    · have timed : layer.spec.isTimed = true := by simp [OverlaySpec.isTimed, delayed]
      exact inRange.isFinite_delay_iff.mp ((heard audible timed).1 delayed)
    · exact inRange.delay_fits delayed

/-- The times of a plain layer fit: there are none to compute. -/
theorem timesFit_of_isPlain {layer : Layer} (inRange : layer.InRange)
    (plain : isPlain layer = true) : layer.TimesFit := by
  obtain ⟨-, start, duration⟩ := isPlain_spec plain
  refine ⟨fun given known => ?_, fun _ => inRange.delay_fits start⟩
  rw [duration] at known
  cases known

end Composition

/-! ## Settings -/

/-- The settings among arguments: each flag with the value that follows it. -/
def settings : List String → List (String × String)
  | name :: value :: rest => (name, value) :: settings rest
  | _ => []

theorem settings_flag_append (name : String) (value : Option String) (rest : List String) :
    settings (OutputOptions.flag name value ++ rest) =
      (value.map (name, ·)).toList ++ settings rest := by
  cases value <;> rfl

theorem settings_flag (name : String) (value : Option String) :
    settings (OutputOptions.flag name value) = (value.map (name, ·)).toList := by
  cases value <;> rfl

/-- The frame rate that an encoder is set to is the one that is asked for. -/
theorem rate_of_encoderArgs {options : OutputOptions} {hasVideo hasAudio : Bool} {text : String}
    (member : ("-r", text) ∈ settings (options.encoderArgs hasVideo hasAudio)) :
    ∃ fps ∈ options.fps, text = fps.plainText := by
  unfold OutputOptions.encoderArgs at member
  cases hasVideo with
  | false => cases hasAudio <;> simp [settings_flag, settings] at member
  | true =>
      cases hasAudio <;>
        simpa [settings_flag_append, settings_flag, settings, eq_comm] using member

namespace Composition

/-- Mappings are no frame rates. -/
theorem mem_settings_mapArgs {streams : Streams} {args : List String} {text : String} :
    ("-r", text) ∈ settings (mapArgs streams ++ args) ↔ ("-r", text) ∈ settings args := by
  have one : ∀ kind label rest, ("-r", text) ∈ settings (mappingArgs kind label ++ rest) ↔
      ("-r", text) ∈ settings rest := by
    intro kind label rest
    unfold mappingArgs
    split <;> simp [settings]
  unfold mapArgs
  cases streams.video <;> cases streams.audio <;> simp [one, List.append_assoc]

end Composition

/-- A program prints finite numbers only: no filter body has a word for another
value, and the encoder's frame rate is the text of a finite one. -/
structure Program.PrintsFinite (program : Program) : Prop where
  bodies : ∀ statement ∈ program.graph.statements, IsFiniteText statement.body
  rate : ∀ text, ("-r", text) ∈ settings program.args →
    ∃ rate : Binary64, rate.isFinite = true ∧ text = rate.plainText

namespace Composition

variable {composition : Composition}

/-- The encoder's frame rate is always finite. -/
theorem rate_assembled (accepted : composition.check = .ok ()) (graph : FilterGraph)
    (streams : Streams) (size : Option Resolution) (singlePass : Bool) {text : String}
    (member : ("-r", text) ∈
      settings (composition.assembled graph streams size singlePass).args) :
    ∃ rate : Binary64, rate.isFinite = true ∧ text = rate.plainText := by
  obtain ⟨fps, asked, rfl⟩ := rate_of_encoderArgs (mem_settings_mapArgs.mp member)
  exact ⟨fps, (Binary64.isFinitePositive_iff.mp (fps_of_check accepted fps asked)).1, rfl⟩

/-- A program without fragments prints finite numbers only just when the times
that are computed for the layers do not overflow. -/
theorem printsFinite_iff {program : Program} (unfiltered : composition.fragments = [])
    (built : composition.compile = .ok program ∨ composition.singlePass = .ok program ∨
      composition.plan = .ok program) :
    program.PrintsFinite ↔ ∀ layer ∈ composition.overlays, layer.TimesFit := by
  rcases route_of_built built with compiled | passed
  · obtain ⟨accepted, sounds, -, rfl⟩ := (compile_plain_iff unfiltered).mp compiled
    constructor
    · exact fun prints => timesFit_of_isFiniteText accepted prints.bodies
    · exact fun fit => ⟨fun statement member => isFiniteText_of_uses accepted sounds fit
        (fullRoute_writes statement member).filter,
        fun _ member => rate_assembled accepted _ _ _ _ member⟩
  · obtain ⟨accepted, simple, -, rfl⟩ := singlePass_plain_iff.mp passed
    -- nothing is computed for plain layers, and nothing is joined
    have fit : ∀ layer ∈ composition.overlays, layer.TimesFit := fun layer member => by
      unfold isSimple at simple
      rw [Bool.and_eq_true, List.all_eq_true] at simple
      exact timesFit_of_isPlain (inRange_of_check accepted member) (simple.2 layer member)
    have sounds : composition.AllSound := fun sequenced =>
      absurd ((isSequenced_of_isSimple simple).symm.trans sequenced) (by decide)
    refine iff_of_true ⟨fun statement member => ?_, fun _ member => ?_⟩ fit
    · exact isFiniteText_of_uses accepted sounds fit (plainRoute_writes statement member).filter
    · exact rate_assembled accepted _ _ _ _ member

/-- A video under a layer that is there for a time window. -/
def windowed (start duration : Binary64) : Composition where
  main := ⟨[1], .video, {}⟩
  overlays := [⟨⟨[2], .video, {}⟩, { start, duration := some duration }⟩]

/-- Where a layer in a window is accepted, a program is built by the full
route. -/
theorem plan_windowed {start duration : Binary64}
    (accepted : (windowed start duration).check = .ok ()) :
    (windowed start duration).plan = .ok (windowed start duration).fullProgram := by
  have addressable : (windowed start duration).Addressable := by
    show 2 ≤ UInt64.size
    decide
  have unlabelled : (windowed start duration).Unlabelled := fun kind => by cases kind <;> rfl
  have compiled := compile_eq accepted addressable (asksNewLabels_of_unlabelled unlabelled) rfl
    fun sequenced => by cases sequenced
  have windows : (windowed start duration).isSimple = false := by
    simp [isSimple, isPlain, windowed]
  rw [plan_of_check accepted, windows, if_neg Bool.false_ne_true, compiled]
  rfl

theorem printsFinite_windowed : ∃ program, (windowed 1 2).plan = .ok program ∧
    program.PrintsFinite := by
  have planned : (windowed 1 2).plan = .ok (windowed 1 2).fullProgram :=
    plan_windowed (by decide +kernel)
  refine ⟨_, planned, (printsFinite_iff rfl (.inr (.inr planned))).mpr fun layer member => ?_⟩
  rw [windowed, List.mem_singleton] at member
  subst member
  refine ⟨fun duration known => ?_, fun _ => by decide +kernel⟩
  rw [← Option.some.inj known]
  decide +kernel

/-- A window whose bounds are finite can end beyond the largest number. -/
theorem not_printsFinite_windowed : (windowed 1e308 1e308).check = .ok () ∧
    ∃ program, (windowed 1e308 1e308).plan = .ok program ∧ ¬program.PrintsFinite := by
  have accepted : (windowed 1e308 1e308).check = .ok () := by decide +kernel
  refine ⟨accepted, _, plan_windowed accepted, fun prints => ?_⟩
  have fit := timesFit_of_isFiniteText accepted prints.bodies _ (List.mem_singleton_self _)
  exact absurd (fit.finish 1e308 rfl) (by decide +kernel)

end Composition

end Montage
