import Montage.Program.Plan
import Mathlib.Data.List.Basic

/-!
# Building compositions

However the steps that build a composition are mixed, it has the clips, layers
and fragments of the steps in their order and the output options of the last
step that gives any (`foldl_apply`). So two runs of steps build the same
composition just when they agree on these (`Agree`). A composition that cannot
take the single-pass route never can after more steps, since no step takes
anything away (`steps_decide`).
-/

namespace Montage.Composition

/-! ## What steps say -/

namespace Step

/-- The clips that a step adds before the main asset. -/
def prepended : Step → List Asset
  | .prepend assets => assets
  | _ => []

/-- The clips that a step adds after the main asset. -/
def appended : Step → List Asset
  | .append assets => assets
  | _ => []

/-- The layer that a step adds. -/
def layer? : Step → Option Layer
  | .overlay asset spec => some ⟨asset, spec⟩
  | _ => none

/-- The fragment that a step adds. -/
def fragment? : Step → Option String
  | .fragment text => some text
  | _ => none

/-- The output options that a step gives. -/
def output? : Step → Option OutputOptions
  | .output options => some options
  | _ => none

/-- Whether a composition that can take the single-pass route still can after a
step. -/
def keepsSimple : Step → Bool
  | .prepend assets => assets.isEmpty
  | .append assets => assets.isEmpty
  | .overlay asset spec => isPlain ⟨asset, spec⟩
  | .fragment _ => false
  | .output _ => true

end Step

/-- The output options that count after some steps. -/
def lastOutput (steps : List Step) : OutputOptions :=
  (steps.filterMap Step.output?).getLast?.getD {}

/-- Two runs of steps that agree on the clips at either end, the layers and the
fragments, each in their order, and on the last output options. -/
structure Agree (steps others : List Step) : Prop where
  prepended : steps.flatMap Step.prepended = others.flatMap Step.prepended
  appended : steps.flatMap Step.appended = others.flatMap Step.appended
  layers : steps.filterMap Step.layer? = others.filterMap Step.layer?
  fragments : steps.filterMap Step.fragment? = others.filterMap Step.fragment?
  output : lastOutput steps = lastOutput others

/-! ## Runs of steps -/

variable {composition : Composition} {main : Asset}

/-- What a composition is after some steps, in whatever order they come. -/
theorem foldl_apply (composition : Composition) (steps : List Step) :
    steps.foldl apply composition =
      { main := composition.main
        prepend := composition.prepend ++ steps.flatMap Step.prepended
        append := composition.append ++ steps.flatMap Step.appended
        overlays := composition.overlays ++ steps.filterMap Step.layer?
        fragments := composition.fragments ++ steps.filterMap Step.fragment?
        output := (steps.filterMap Step.output?).getLast?.getD composition.output } := by
  induction steps generalizing composition with
  | nil => simp
  | cons step rest ih =>
      rw [List.foldl_cons, ih]
      -- a step adds to one part, or gives the output options anew
      cases step <;>
        simp [apply, List.filterMap_cons, Step.prepended, Step.appended, Step.layer?,
          Step.fragment?, Step.output?, List.getLast?_cons]

theorem ofSteps_eq (main : Asset) (steps : List Step) :
    ofSteps main steps =
      { main := main
        prepend := steps.flatMap Step.prepended
        append := steps.flatMap Step.appended
        overlays := steps.filterMap Step.layer?
        fragments := steps.filterMap Step.fragment?
        output := lastOutput steps } :=
  foldl_apply { main } steps

/-- Steps that agree are all that builds the same composition. -/
theorem ofSteps_eq_iff {steps others : List Step} :
    ofSteps main steps = ofSteps main others ↔ Agree steps others := by
  rw [ofSteps_eq, ofSteps_eq, Composition.mk.injEq]
  constructor
  · rintro ⟨-, prepended, appended, layers, fragments, output⟩
    exact ⟨prepended, appended, layers, fragments, output⟩
  · rintro ⟨prepended, appended, layers, fragments, output⟩
    exact ⟨rfl, prepended, appended, layers, fragments, output⟩

/-! ## The single-pass route -/

theorem isSimple_apply (composition : Composition) (step : Step) :
    (composition.apply step).isSimple = (composition.isSimple && step.keepsSimple) := by
  rw [Bool.eq_iff_iff]
  cases step <;> simp [apply, isSimple, Step.keepsSimple] <;> tauto

/-- A run of steps keeps a composition simple if each of them does. -/
theorem isSimple_foldl (composition : Composition) (steps : List Step) :
    (steps.foldl apply composition).isSimple =
      (composition.isSimple && steps.all Step.keepsSimple) := by
  induction steps generalizing composition with
  | nil => simp
  | cons step rest ih => rw [List.foldl_cons, ih, isSimple_apply, List.all_cons, Bool.and_assoc]

theorem isSimple_ofSteps (main : Asset) (steps : List Step) :
    (ofSteps main steps).isSimple = steps.all Step.keepsSimple := isSimple_foldl _ _

/-! ## Any order -/

/-- What a run of steps builds is decided by what the steps say, in whatever order
they come, and so is all that is made of it. It is simple as long as each step
keeps it so: once a composition is not simple, no further steps make it so. -/
theorem steps_decide (main : Asset) (steps : List Step) :
    (∀ others, ofSteps main steps = ofSteps main others ↔ Agree steps others) ∧
    (∀ others, Agree steps others →
      (ofSteps main steps).plan = (ofSteps main others).plan ∧
      (ofSteps main steps).compile = (ofSteps main others).compile ∧
      (ofSteps main steps).validate = (ofSteps main others).validate) ∧
    (ofSteps main steps).isSimple = steps.all Step.keepsSimple ∧
    ∀ more, (ofSteps main (steps ++ more)).isSimple = true →
      (ofSteps main steps).isSimple = true := by
  refine ⟨fun others => ofSteps_eq_iff, ?_, isSimple_ofSteps main steps, ?_⟩
  · intro others agree
    have same : ofSteps main steps = ofSteps main others := ofSteps_eq_iff.mpr agree
    exact ⟨congrArg plan same, congrArg compile same, congrArg validate same⟩
  · intro more simple
    rw [isSimple_ofSteps, List.all_append, Bool.and_eq_true] at simple
    rw [isSimple_ofSteps]
    exact simple.1

/-- A main asset. -/
def feature : Asset := ⟨[1], .video, {}⟩

/-- Steps that leave a composition simple. -/
def modest : List Step :=
  [.output { format := "mkv" }, .prepend [], .overlay ⟨[7], .video, {}⟩ {}]

/-- Steps of all kinds in a mixed order, which begin with the modest ones. -/
def scattered : List Step :=
  modest ++
    [.append [⟨[4], .video, {}⟩, ⟨[5], .video, {}⟩], .fragment "[ov]hflip[a]",
      .prepend [⟨[2], .video, {}⟩], .overlay ⟨[8], .audio, {}⟩ { start := 1 },
      .append [⟨[6], .video, {}⟩], .output { videoLabel := some "out" }, .fragment "[a]vflip[b]",
      .prepend [⟨[3], .video, {}⟩]]

/-- Steps that say the same as the scattered ones. -/
def gathered : List Step :=
  [.prepend [⟨[2], .video, {}⟩, ⟨[3], .video, {}⟩], .append [⟨[4], .video, {}⟩], .append [],
    .append [⟨[5], .video, {}⟩, ⟨[6], .video, {}⟩], .overlay ⟨[7], .video, {}⟩ {},
    .overlay ⟨[8], .audio, {}⟩ { start := 1 }, .fragment "[ov]hflip[a]",
    .fragment "[a]vflip[b]", .output { videoLabel := some "out" }]

theorem steps_decide_scattered :
    Agree scattered gathered ∧ ofSteps feature scattered = ofSteps feature gathered ∧
    (ofSteps feature scattered).plan = (ofSteps feature gathered).plan ∧
    (ofSteps feature modest).isSimple = true ∧
    (ofSteps feature (modest.take 2)).isSimple = true ∧
    (ofSteps feature scattered).isSimple = false := by
  have agree : Agree scattered gathered := ⟨rfl, rfl, rfl, rfl, rfl⟩
  have simple : (ofSteps feature (modest.take 2 ++ modest.drop 2)).isSimple = true := by decide
  obtain ⟨builds, makes, -, -⟩ := steps_decide feature scattered
  obtain ⟨-, -, -, keeps⟩ := steps_decide feature (modest.take 2)
  exact ⟨agree, (builds gathered).mpr agree, (makes gathered agree).1, by decide,
    keeps (modest.drop 2) simple, by decide⟩

end Montage.Composition
