import Montage.Proofs.Engine.Progress
import Montage.Proofs.Host.Files

/-!
# Staged inputs

Each input of a request is staged under a name of its own
(`inputName_injective`), so writing one leaves the others as they are. When all
are staged, the file of each index holds the bytes of the asset of that index
(`stageFrom_reads`).
-/

namespace Montage

open Disk (placeOf KeepsDirectories)

/-! ## Names -/

namespace Staging

variable {staging : Staging} {host : Host}

theorem inputName_toList (index : Nat) (asset : Asset) :
    (inputName index asset).toList =
      "input_".toList ++ (Nat.toDigits 10 index ++ '.' :: asset.extension.toList) := by
  simp [inputName]

/-- The index stands between the underscore and the point. -/
theorem inputName_injective {index index' : Nat} {asset asset' : Asset}
    (same : inputName index asset = inputName index' asset') : index = index' := by
  have lists := congrArg String.toList same
  rw [inputName_toList, inputName_toList] at lists
  have rests := List.append_cancel_left lists
  have front : ∀ (number : Nat) (more : List Char),
      (Nat.toDigits 10 number ++ '.' :: more).takeWhile Char.isDigit = Nat.toDigits 10 number := by
    intro number more
    rw [List.takeWhile_append_of_pos fun _ member => toDigits_isDigit member]
    simp
  apply toDigits_injective
  rw [← front index asset.extension.toList, rests, front]

/-- Inputs of different indices stand at different places. -/
theorem inputPlace_ne (place : Place) {index index' : Nat} (differ : index ≠ index')
    (asset asset' : Asset) :
    place ++ [inputName index asset] ≠ place ++ [inputName index' asset'] := by
  intro equal
  exact differ (inputName_injective (List.singleton_inj.mp (List.append_cancel_left equal)))

/-- An input stands right in the staging directory. -/
theorem IsPlaced.place_input (placed : staging.IsPlaced host) (index : Nat) (asset : Asset) :
    placeOf host.directory (staging.inputPath index asset) =
      staging.place ++ [inputName index asset] := by
  rw [inputPath, Disk.placeOf_join, Disk.placeOf_of_notMem _ (isFileName_input index asset).plain,
    ← placed]
  exact Disk.onward_of_isFileName (isFileName_input index asset) _

/-- No input has the name of the output. -/
theorem inputName_ne_output (index : Nat) (asset : Asset) (format : String) :
    inputName index asset ≠ "output." ++ format := by
  intro same
  have lists := congrArg String.toList same
  rw [inputName_toList, String.toList_append] at lists
  have heads := congrArg List.head? lists
  simp at heads

/-! ## Writing them -/

/-- Staging one input changes no other place. -/
theorem stage_keeps (placed : staging.IsPlaced host) (index : Nat) (asset : Asset) (disk : Disk) :
    KeepsDirectories disk (staging.stage host index asset disk).2 ∧
      ∀ place, place ≠ staging.place ++ [inputName index asset] →
        (staging.stage host index asset disk).2.node? place = disk.node? place := by
  unfold stage
  dsimp only
  split
  · exact ⟨fun _ directory => directory, fun _ _ => rfl⟩
  · rename_i written
    obtain ⟨-, noDirectory, executable, rfl⟩ := Disk.write_file written
    refine ⟨.put noDirectory _, fun place different => ?_⟩
    rw [placed.place_input] at *
    exact Disk.node?_put_of_ne different _

/-- Staging inputs from an index on changes no place but theirs. -/
theorem stageFrom_keeps (placed : staging.IsPlaced host) (index : Nat) (assets : List Asset)
    (disk : Disk) :
    KeepsDirectories disk (staging.stageFrom host index assets disk).2 ∧
      ∀ place, (∀ later asset, index ≤ later →
          place ≠ staging.place ++ [inputName later asset]) →
        (staging.stageFrom host index assets disk).2.node? place = disk.node? place := by
  induction assets generalizing index disk with
  | nil =>
      rw [stageFrom]
      exact ⟨fun _ directory => directory, fun _ _ => rfl⟩
  | cons asset rest ih =>
      obtain ⟨keeps, same⟩ := stage_keeps placed index asset disk
      rw [stageFrom]
      split
      · rename_i staged
        rw [staged] at keeps same
        exact ⟨keeps, fun place others => same place (others index asset le_rfl)⟩
      · rename_i between staged
        rw [staged] at keeps same
        obtain ⟨keeps', same'⟩ := ih (index + 1) between
        have whole : KeepsDirectories disk
            (staging.stageFrom host (index + 1) rest between).2 ∧
              ∀ place, (∀ later asset, index ≤ later →
                place ≠ staging.place ++ [inputName later asset]) →
                  (staging.stageFrom host (index + 1) rest between).2.node? place =
                    disk.node? place := by
          refine ⟨keeps.trans keeps', fun place others => ?_⟩
          rw [same' place fun later asset above => others later asset (by omega),
            same place (others index asset le_rfl)]
        split
        · rename_i failed
          rw [failed] at whole
          exact whole
        · rename_i done
          rw [done] at whole
          exact whole

theorem stage_ok {index : Nat} {asset : Asset} {disk after : Disk} {path : String}
    (staged : staging.stage host index asset disk = (.ok path, after)) :
    path = staging.inputPath index asset ∧
      disk.write host.directory path asset.bytes = .ok after := by
  unfold stage at staged
  dsimp only at staged
  split at staged
  · cases staged
  · rename_i written
    cases staged
    exact ⟨rfl, written⟩

/-- Inputs are staged if the first one is and then the others are. -/
theorem stageFrom_cons_ok {index : Nat} {asset : Asset} {rest : List Asset} {disk after : Disk}
    {paths : List String}
    (staged : staging.stageFrom host index (asset :: rest) disk = (.ok paths, after)) :
    ∃ path between others, staging.stage host index asset disk = (.ok path, between) ∧
      staging.stageFrom host (index + 1) rest between = (.ok others, after) ∧
        paths = path :: others := by
  rw [stageFrom] at staged
  split at staged
  · cases staged
  · rename_i path between first
    split at staged
    · cases staged
    · rename_i others last remaining
      cases staged
      exact ⟨path, between, others, first, remaining, rfl⟩

/-- When inputs are staged, each can be read. -/
theorem stageFrom_reads (placed : staging.IsPlaced host) {index : Nat} {assets : List Asset}
    {disk after : Disk} {paths : List String}
    (staged : staging.stageFrom host index assets disk = (.ok paths, after)) :
    paths.map (after.read host.directory) = assets.map fun asset => .ok asset.bytes := by
  induction assets generalizing index disk paths with
  | nil =>
      rw [stageFrom] at staged
      cases staged
      rfl
  | cons asset rest ih =>
      obtain ⟨path, between, others, first, remaining, rfl⟩ := stageFrom_cons_ok staged
      obtain ⟨rfl, written⟩ := stage_ok first
      obtain ⟨keeps, same⟩ := stageFrom_keeps placed (index + 1) rest between
      rw [remaining] at keeps same
      -- the inputs that follow have other names
      have kept : after.node? (placeOf host.directory (staging.inputPath index asset)) =
          between.node? (placeOf host.directory (staging.inputPath index asset)) := by
        rw [placed.place_input]
        exact same _ fun later other above => inputPlace_ne _ (by omega) asset other
      rw [List.map_cons, List.map_cons, ih remaining,
        Disk.read_mono keeps kept (Disk.read_write written)]

end Staging

end Montage
