import Montage.Proofs.Engine.Conclusion
import Montage.Proofs.Engine.Inputs

/-!
# Staged files

The inputs of a request and its output have file names of their own right in
the staging directory, whatever the metadata of the inputs say
(`keepsApart_staged`). In a directory that has just been created all inputs can
be staged, if their names are not too long (`stageFrom_ok`). `staged_apart` puts
this together with what is read from the files.
-/

namespace Montage

open Disk (placeOf)

namespace Staging

variable {staging : Staging} {host : Host}

/-! ## Names -/

/-- The file names of inputs from an index on. -/
def inputNames (index : Nat) (assets : List Asset) : List String :=
  (assets.zipIdx index).map fun (asset, index) => inputName index asset

/-- The paths of inputs from an index on. -/
def inputPaths (staging : Staging) (index : Nat) (assets : List Asset) : List String :=
  (inputNames index assets).map (Path.join staging.path)

theorem inputNames_cons (index : Nat) (asset : Asset) (rest : List Asset) :
    inputNames index (asset :: rest) = inputName index asset :: inputNames (index + 1) rest := by
  unfold inputNames
  rw [List.zipIdx_cons, List.map_cons]

theorem inputPaths_cons (index : Nat) (asset : Asset) (rest : List Asset) :
    staging.inputPaths index (asset :: rest) =
      staging.inputPath index asset :: staging.inputPaths (index + 1) rest := by
  unfold inputPaths
  rw [inputNames_cons, List.map_cons]
  rfl

theorem mem_inputNames {index : Nat} {assets : List Asset} {name : String}
    (member : name ∈ inputNames index assets) :
    ∃ later asset, index ≤ later ∧ name = inputName later asset := by
  obtain ⟨⟨asset, later⟩, listed, rfl⟩ := List.mem_map.mp member
  exact ⟨later, asset, List.le_snd_of_mem_zipIdx listed, rfl⟩

/-- No two inputs share a file name. -/
theorem nodup_inputNames (index : Nat) (assets : List Asset) :
    (inputNames index assets).Nodup := by
  induction assets generalizing index with
  | nil => exact List.nodup_nil
  | cons asset rest ih =>
      rw [inputNames_cons, List.nodup_cons]
      refine ⟨fun again => ?_, ih (index + 1)⟩
      obtain ⟨later, other, above, equal⟩ := mem_inputNames again
      have same := inputName_injective equal
      omega

/-! ## Places -/

/-- Paths of different files, each right in the staging directory. -/
structure KeepsApart (staging : Staging) (host : Host) (paths : List String) : Prop where
  distinct : paths.Nodup
  places : (paths.map (placeOf host.directory)).Nodup
  children : ∀ path ∈ paths, ∃ name, IsFileName name ∧ path = Path.join staging.path name ∧
    placeOf host.directory path = staging.place ++ [name]

/-- Different file names are those of different files. -/
theorem IsPlaced.keepsApart (placed : staging.IsPlaced host) {names : List String}
    (files : ∀ name ∈ names, IsFileName name) (distinct : names.Nodup) :
    staging.KeepsApart host (names.map (Path.join staging.path)) := by
  have place : ∀ name ∈ names, placeOf host.directory (Path.join staging.path name) =
      staging.place ++ [name] := by
    intro name member
    rw [Disk.placeOf_join, Disk.placeOf_of_notMem _ (files name member).plain,
      Disk.onward_of_isFileName (files name member), ← placed]
  have mapped : (names.map (Path.join staging.path)).map (placeOf host.directory) =
      names.map fun name => staging.place ++ [name] := by
    rw [List.map_map]
    exact List.map_congr_left place
  have places : ((names.map (Path.join staging.path)).map (placeOf host.directory)).Nodup := by
    rw [mapped]
    refine distinct.map fun name name' equal => ?_
    exact List.singleton_inj.mp (List.append_cancel_left equal)
  refine ⟨places.of_map _, places, fun path member => ?_⟩
  obtain ⟨name, listed, rfl⟩ := List.mem_map.mp member
  exact ⟨name, files name listed, rfl, place name listed⟩

/-- The inputs and the output are different files right in the staging
directory. -/
theorem keepsApart_staged (placed : staging.IsPlaced host) (assets : List Asset) {format : String}
    (valid : Asset.isExtension format = true) :
    staging.KeepsApart host (staging.inputPaths 0 assets ++ [staging.outputPath format]) := by
  have names : (inputNames 0 assets ++ ["output." ++ format]).Nodup := by
    refine List.nodup_append.mpr ⟨nodup_inputNames 0 assets, List.nodup_singleton _, ?_⟩
    intro name listed other output equal
    obtain ⟨later, asset, -, rfl⟩ := mem_inputNames listed
    exact inputName_ne_output later asset format (equal.trans (List.mem_singleton.mp output))
  have files : ∀ name ∈ inputNames 0 assets ++ ["output." ++ format], IsFileName name := by
    intro name listed
    rcases List.mem_append.mp listed with input | output
    · obtain ⟨later, asset, -, rfl⟩ := mem_inputNames input
      exact isFileName_input later asset
    · rw [List.mem_singleton.mp output]
      exact isFileName_output valid
  have apart := placed.keepsApart files names
  rw [List.map_append] at apart
  exact apart

/-! ## Staging all inputs -/

theorem stageFrom_paths {index : Nat} {assets : List Asset} {disk after : Disk}
    {paths : List String}
    (staged : staging.stageFrom host index assets disk = (.ok paths, after)) :
    paths = staging.inputPaths index assets := by
  induction assets generalizing index disk paths with
  | nil =>
      rw [stageFrom] at staged
      cases staged
      rfl
  | cons asset rest ih =>
      obtain ⟨path, between, others, first, remaining, rfl⟩ := stageFrom_cons_ok staged
      rw [inputPaths_cons, ih remaining, (stage_ok first).1]

/-- File names and paths of inputs that no limit of the disk excludes. -/
def FitsNames (staging : Staging) (names : List String) : Prop :=
  ∀ name ∈ names, name.utf8ByteSize ≤ Disk.nameLimit ∧
    (Path.join staging.path name).utf8ByteSize ≤ Disk.pathLimit

instance (staging : Staging) (names : List String) : Decidable (staging.FitsNames names) :=
  inferInstanceAs (Decidable (∀ name ∈ names, _))

/-- Inputs from an index on can be staged into a directory that has nothing
under their names. -/
theorem stageFrom_ok (placed : staging.IsPlaced host) {index : Nat} {assets : List Asset}
    {disk : Disk} (found : disk.isDirectory host.directory staging.path = true)
    (free : ∀ later asset, index ≤ later →
      disk.node? (staging.place ++ [inputName later asset]) = none)
    (fits : staging.FitsNames (inputNames index assets)) :
    ∃ after, staging.stageFrom host index assets disk =
      (.ok (staging.inputPaths index assets), after) := by
  induction assets generalizing index disk with
  | nil => exact ⟨disk, rfl⟩
  | cons asset rest ih =>
      unfold FitsNames at fits
      rw [inputNames_cons, List.forall_mem_cons] at fits
      obtain ⟨⟨short, within⟩, later⟩ := fits
      have nothing : disk.node? (placeOf host.directory staging.path ++ [inputName index asset]) ≠
          some .directory := by
        rw [← placed, free index asset le_rfl]
        simp
      obtain ⟨between, written⟩ := Disk.write_join (isFileName_input index asset) short found within
        nothing asset.bytes
      have first : staging.stage host index asset disk =
          (.ok (staging.inputPath index asset), between) := by
        unfold stage inputPath
        simp only [written]
      -- the next inputs find the directory and nothing under their names
      obtain ⟨keeps, same⟩ := stage_keeps placed index asset disk
      rw [first] at keeps same
      have free' : ∀ number other, index + 1 ≤ number →
          between.node? (staging.place ++ [inputName number other]) = none := by
        intro number other above
        rw [same _ (inputPlace_ne _ (by omega) other asset), free number other (by omega)]
      obtain ⟨after, remaining⟩ := ih (Disk.isDirectory_mono keeps found) free' later
      refine ⟨after, ?_⟩
      rw [stageFrom, first]
      dsimp only
      rw [remaining, inputPaths_cons]

/-! ## A directory that is created -/

section

variable {work request suffix : String} {before ready : Disk}
  (created : create host work request suffix before = (.ok staging, ready))
include created

/-- A staging directory stands where its path leads. -/
theorem isDirectory_of_create : ready.isDirectory host.directory staging.path = true := by
  unfold create at created
  split at created
  · cases created
  · dsimp only at created
    split at created
    · cases created
    · rename_i made
      cases created
      exact Disk.isDirectory_of_makeDirectory made

/-- There is nothing in a staging directory that has just been created. -/
theorem free_of_create (tree : before.IsTree) (name : String) :
    ready.node? (staging.place ++ [name]) = none := by
  obtain ⟨-, free, rfl⟩ := create_ok created
  rw [Disk.node?_put_of_ne (by simp)]
  exact (tree.makeDirectories host.directory work).free_below free (List.prefix_append _ _)

/-- In a staging directory the inputs and the output of a request are different
files, whatever the metadata of the inputs say and whatever format is accepted
for the output. Staging inputs changes nothing but such files. When all inputs
are staged, each file holds the bytes of its asset. In a directory that has just
been created they can be staged, unless a name is too long. -/
theorem staged_apart {composition : Composition} (accepted : composition.check = .ok ())
    (assets : List Asset) :
    staging.KeepsApart host
      (staging.inputPaths 0 assets ++ [staging.outputPath composition.output.format]) ∧
    (∀ disk place, (∀ name, IsFileName name → place ≠ staging.place ++ [name]) →
      (staging.stageAll host assets disk).2.node? place = disk.node? place) ∧
    (∀ disk paths after, staging.stageAll host assets disk = (.ok paths, after) →
      paths = staging.inputPaths 0 assets ∧
        paths.map (after.read host.directory) = assets.map fun asset => .ok asset.bytes) ∧
    (before.IsTree → staging.FitsNames (inputNames 0 assets) →
      ∃ paths after, staging.stageAll host assets ready = (.ok paths, after)) := by
  obtain ⟨placed, -, -⟩ := create_ok created
  refine ⟨keepsApart_staged placed assets (Composition.isExtension_format accepted), ?_, ?_, ?_⟩
  · intro disk place outside
    refine (stageFrom_keeps placed 0 assets disk).2 place fun index asset _ => ?_
    exact outside _ (isFileName_input index asset)
  · intro disk paths after staged
    exact ⟨stageFrom_paths staged, stageFrom_reads placed staged⟩
  · intro tree fits
    have free : ∀ index asset, 0 ≤ index →
        ready.node? (staging.place ++ [inputName index asset]) = none :=
      fun index asset _ => free_of_create created tree _
    obtain ⟨after, staged⟩ := stageFrom_ok placed (isDirectory_of_create created) free fits
    exact ⟨_, after, staged⟩

end

/-- Two assets of one container, and one whose container is a path. -/
def traversing : List Asset :=
  [⟨[1], .video, { format := some "mp4" }⟩, ⟨[2], .video, { format := some "mp4" }⟩,
    ⟨[3], .audio, { format := some "../x" }⟩]

theorem staged_apart_traversing : ∃ staging ready paths after,
    create Request.bench "work" "1" "a" Request.benchSession.disk = (.ok staging, ready) ∧
      staging.stageAll Request.bench traversing ready = (.ok paths, after) ∧
        staging.KeepsApart Request.bench (paths ++ [staging.outputPath "mp4"]) ∧
          paths.map (after.read Request.bench.directory) = [.ok [1], .ok [2], .ok [3]] := by
  let staging : Staging := ⟨"/home/work/vcomp-1-a", ["home", "work", "vcomp-1-a"]⟩
  have outcome : (create Request.bench "work" "1" "a" Request.benchSession.disk).1 =
      .ok staging := by decide +kernel
  have created : create Request.bench "work" "1" "a" Request.benchSession.disk =
      (.ok staging, _) := Prod.ext outcome rfl
  have accepted : Request.solo.check = .ok () := by decide +kernel
  obtain ⟨apart, -, reads, stages⟩ := staged_apart created accepted traversing
  obtain ⟨paths, after, staged⟩ := stages (by decide +kernel) (by decide +kernel)
  obtain ⟨rfl, bytes⟩ := reads _ _ _ staged
  exact ⟨staging, _, _, after, created, staged, apart, bytes⟩

end Staging

end Montage
