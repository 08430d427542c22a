import Montage.Manifest
import Montage.Proofs.Host.Path
import Mathlib.Data.List.Forall2

/-!
# Resolved manifests

Resolving a manifest changes the paths of its assets and nothing else. A path
that starts at the root stays, and any other one is put after the directory with
a slash between them where none is there yet (`Manifest.IsResolved`). Each path
then names the place that it names seen from the directory, and against an
absolute directory a manifest is resolved for good
(`Manifest.resolvePaths_settles`).
-/

namespace Montage

/-! ## Paths -/

namespace Path

/-- What is missing between a directory and what it is continued with: a slash,
unless the directory is empty or ends in one. -/
def gap (directory : String) : String :=
  if directory = "" ∨ directory.toList.getLast? = some '/' then "" else "/"

variable {directory path : String}

theorem join_of_isAbsolute (absolute : isAbsolute path = true) : join directory path = path := by
  simp [join, absolute]

theorem join_of_relative (relative : isAbsolute path = false) :
    join directory path = directory ++ gap directory ++ path := by
  unfold join gap
  by_cases empty : directory = ""
  · simp [empty]
  · by_cases closed : directory.toList.getLast? = some '/'
    · simp [relative, empty, closed]
    · simp [relative, empty, closed]

/-- A path that is joined to an absolute directory is absolute. -/
theorem isAbsolute_join (absolute : isAbsolute directory = true) (path : String) :
    isAbsolute (join directory path) = true := by
  cases kept : isAbsolute path with
  | true => rwa [join_of_isAbsolute kept]
  | false =>
      -- the first character of the directory is that of the joined path
      unfold isAbsolute at absolute ⊢
      rw [beq_iff_eq] at absolute ⊢
      obtain ⟨rest, slash⟩ := List.head?_eq_some_iff.mp absolute
      rw [join_of_relative kept, String.append_assoc, String.toList_append, slash]
      rfl

end Path

/-! ## Sources -/

/-- An asset source with its path taken from a directory. -/
structure AssetSource.IsResolved (directory : String) (source resolved : AssetSource) : Prop where
  kept : Path.isAbsolute source.path = true → resolved.path = source.path
  joined : Path.isAbsolute source.path = false →
    resolved.path = directory ++ Path.gap directory ++ source.path
  kind : resolved.kind = source.kind
  metadata : resolved.metadata = source.metadata

namespace AssetSource

variable {directory : String}

theorem isResolved_iff (source resolved : AssetSource) :
    source.IsResolved directory resolved ↔ source.resolve directory = resolved := by
  obtain ⟨path, kind, metadata⟩ := source
  constructor
  · intro is
    obtain ⟨path', kind', metadata'⟩ := resolved
    rw [resolve, mk.injEq]
    refine ⟨?_, is.kind.symm, is.metadata.symm⟩
    cases absolute : Path.isAbsolute path with
    | true => exact (Path.join_of_isAbsolute absolute).trans (is.kept absolute).symm
    | false => exact (Path.join_of_relative absolute).trans (is.joined absolute).symm
  · rintro rfl
    exact ⟨Path.join_of_isAbsolute, Path.join_of_relative, rfl, rfl⟩

theorem resolve_of_isAbsolute {source : AssetSource}
    (absolute : Path.isAbsolute source.path = true) : source.resolve directory = source := by
  rw [resolve, Path.join_of_isAbsolute absolute]

end AssetSource

/-! ## Manifests -/

/-- An overlay entry with the path of its asset taken from a directory. -/
structure OverlayEntry.IsResolved (directory : String) (entry resolved : OverlayEntry) : Prop where
  asset : entry.asset.IsResolved directory resolved.asset
  spec : resolved.spec = entry.spec

namespace OverlayEntry

/-- An overlay entry with the path of its asset joined to a directory. -/
def resolve (directory : String) (entry : OverlayEntry) : OverlayEntry :=
  { entry with asset := entry.asset.resolve directory }

variable {directory : String}

theorem isResolved_iff (entry resolved : OverlayEntry) :
    entry.IsResolved directory resolved ↔ entry.resolve directory = resolved := by
  obtain ⟨asset, spec⟩ := resolved
  rw [resolve, mk.injEq, ← AssetSource.isResolved_iff]
  exact ⟨fun is => ⟨is.asset, is.spec.symm⟩, fun ⟨asset, spec⟩ => ⟨asset, spec.symm⟩⟩

theorem resolve_of_isAbsolute {entry : OverlayEntry}
    (absolute : Path.isAbsolute entry.asset.path = true) : entry.resolve directory = entry := by
  rw [resolve, AssetSource.resolve_of_isAbsolute absolute]

end OverlayEntry

namespace Manifest

/-- A manifest with all its paths taken from a directory: the lists are as long
as before and in the same order, and only the paths are others. -/
structure IsResolved (directory : String) (manifest resolved : Manifest) : Prop where
  main : manifest.main.IsResolved directory resolved.main
  prepend : List.Forall₂ (AssetSource.IsResolved directory) manifest.prepend resolved.prepend
  append : List.Forall₂ (AssetSource.IsResolved directory) manifest.append resolved.append
  overlays : List.Forall₂ (OverlayEntry.IsResolved directory) manifest.overlays resolved.overlays
  customFilters : resolved.customFilters = manifest.customFilters
  output : resolved.output = manifest.output

/-- Items that stand one by one in a relation that a function computes. -/
theorem forall₂_iff_map_eq {α β : Type} {relation : α → β → Prop} {f : α → β}
    (each : ∀ item value, relation item value ↔ f item = value) {items : List α}
    {values : List β} : List.Forall₂ relation items values ↔ items.map f = values := by
  have computed : relation = fun item value => f item = value :=
    funext₂ fun item value => propext (each item value)
  rw [computed, ← List.forall₂_map_left_iff, List.forall₂_eq_eq_eq]

variable {manifest : Manifest} {directory : String}

theorem isResolved_iff {resolved : Manifest} :
    manifest.IsResolved directory resolved ↔ manifest.resolvePaths directory = resolved := by
  have sources : ∀ items values,
      List.Forall₂ (AssetSource.IsResolved directory) items values ↔
        items.map (AssetSource.resolve directory) = values := fun _ _ =>
    forall₂_iff_map_eq AssetSource.isResolved_iff
  have entries : ∀ items values,
      List.Forall₂ (OverlayEntry.IsResolved directory) items values ↔
        items.map (OverlayEntry.resolve directory) = values := fun _ _ =>
    forall₂_iff_map_eq OverlayEntry.isResolved_iff
  obtain ⟨main, prepend, append, overlays, customFilters, output⟩ := resolved
  constructor
  · intro is
    rw [resolvePaths, mk.injEq]
    exact ⟨(AssetSource.isResolved_iff _ _).mp is.main, (sources _ _).mp is.prepend,
      (sources _ _).mp is.append, (entries _ _).mp is.overlays, is.customFilters.symm,
      is.output.symm⟩
  · rintro ⟨⟩
    exact ⟨(AssetSource.isResolved_iff _ _).mpr rfl, (sources _ _).mpr rfl, (sources _ _).mpr rfl,
      (entries _ _).mpr rfl, rfl, rfl⟩

/-- The sources of a resolved manifest are those of the manifest, resolved. -/
theorem sources_resolvePaths (manifest : Manifest) (directory : String) :
    (manifest.resolvePaths directory).sources =
      manifest.sources.map (·.resolve directory) := by
  simp [sources, otherSources, resolvePaths, Function.comp_def]

/-- Absolute paths stay as they are. -/
theorem resolvePaths_of_isAbsolute
    (absolute : ∀ source ∈ manifest.sources, Path.isAbsolute source.path = true) :
    manifest.resolvePaths directory = manifest := by
  simp only [sources, otherSources, List.forall_mem_cons, List.forall_mem_append,
    List.forall_mem_map] at absolute
  obtain ⟨main, ⟨prepend, append⟩, overlays⟩ := absolute
  have sources : ∀ items : List AssetSource,
      (∀ source ∈ items, Path.isAbsolute source.path = true) →
        items.map (AssetSource.resolve directory) = items := fun items stay =>
    (List.map_congr_left fun source member =>
      AssetSource.resolve_of_isAbsolute (stay source member)).trans (List.map_id items)
  have entries : manifest.overlays.map (OverlayEntry.resolve directory) = manifest.overlays :=
    (List.map_congr_left fun entry member =>
      OverlayEntry.resolve_of_isAbsolute (overlays entry member)).trans (List.map_id _)
  show Manifest.mk (manifest.main.resolve directory) _ _
    (manifest.overlays.map (OverlayEntry.resolve directory)) _ _ = manifest
  rw [AssetSource.resolve_of_isAbsolute main, sources _ prepend, sources _ append, entries]

/-- Resolving a manifest takes each relative path from the directory, keeps each
absolute one, and changes nothing else. From wherever the directory is seen, the
resolved paths name what the paths name seen from the directory. Against an
absolute directory all paths become absolute, and then there is nothing left to
resolve. -/
theorem resolvePaths_settles (manifest : Manifest) (directory : String) :
    (∀ resolved, manifest.IsResolved directory resolved ↔
      manifest.resolvePaths directory = resolved) ∧
    (∀ here, (manifest.resolvePaths directory).sources.map (Disk.placeOf here ·.path) =
      manifest.sources.map (Disk.placeOf (Disk.placeOf here directory) ·.path)) ∧
    (Path.isAbsolute directory = true →
      (∀ source ∈ (manifest.resolvePaths directory).sources,
        Path.isAbsolute source.path = true) ∧
      ∀ other, (manifest.resolvePaths directory).resolvePaths other =
        manifest.resolvePaths directory) := by
  refine ⟨fun _ => isResolved_iff, fun here => ?_, fun absolute => ?_⟩
  · rw [sources_resolvePaths, List.map_map]
    exact List.map_congr_left fun source _ => Disk.placeOf_join here directory source.path
  · have all : ∀ source ∈ (manifest.resolvePaths directory).sources,
        Path.isAbsolute source.path = true := by
      rw [sources_resolvePaths, List.forall_mem_map]
      exact fun source _ => Path.isAbsolute_join absolute source.path
    exact ⟨all, fun other => resolvePaths_of_isAbsolute all⟩

/-- A manifest with relative paths, one of them empty and one that leads up, and
an absolute one. -/
def scattered : Manifest where
  main := { path := "talk.mp4" }
  prepend := [{ path := "/intro.mp4" }, { path := "" }]
  overlays := [⟨{ path := "../logo.mov" }, { position := .topRight }⟩]

theorem resolvePaths_settles_scattered :
    Path.isAbsolute "/work/" = true ∧
    ((scattered.resolvePaths "/work/").sources.map (·.path) =
      ["/work/talk.mp4", "/intro.mp4", "/work/", "/work/../logo.mov"]) ∧
    (scattered.resolvePaths "/work/").sources.map (Disk.placeOf ["home"] ·.path) =
      [["work", "talk.mp4"], ["intro.mp4"], ["work"], ["logo.mov"]] ∧
    (∀ source ∈ (scattered.resolvePaths "/work/").sources,
      Path.isAbsolute source.path = true) ∧
    (scattered.resolvePaths "/work/").resolvePaths "elsewhere" =
      scattered.resolvePaths "/work/" := by
  have absolute : Path.isAbsolute "/work/" = true := by decide
  obtain ⟨-, places, settles⟩ := resolvePaths_settles scattered "/work/"
  obtain ⟨all, settled⟩ := settles absolute
  exact ⟨absolute, by decide +kernel, (places ["home"]).trans (by decide +kernel), all,
    settled "elsewhere"⟩

end Manifest

end Montage
