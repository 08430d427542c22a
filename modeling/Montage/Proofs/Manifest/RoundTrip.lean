import Montage.Manifest.Read
import Montage.Manifest.Write
import Montage.Proofs.Json.Reading
import Montage.Proofs.Overlay.Spelling
import Montage.Proofs.Text.Colors

/-!
# Manifests read back

What is written is read back: a manifest with a main path from either of its
texts, and so an overlay specification and output options on their own
(`Manifest.round_trip`). Percentages are texts and only have to be finite; of
the other numbers it is asked that each is read back from its own text.
-/

namespace Montage

open Json (Reads Fills member? IsGiven documentMembers reads_boolean reads_textAs reads_word
  reads_real reads_variant reads_spelled reads_list isGiven_real)

/-! ## The numbers of a manifest -/

/-- The numbers of a description. -/
def AssetMetadata.numbers (metadata : AssetMetadata) : List Binary64 :=
  metadata.duration.toList ++ metadata.frameRate.toList

/-- The numbers of output options. -/
def OutputOptions.numbers (options : OutputOptions) : List Binary64 := options.fps.toList

/-- The numbers of an overlay specification that are written as numbers. -/
def OverlaySpec.numbers (spec : OverlaySpec) : List Binary64 :=
  [spec.opacity, spec.start] ++ spec.duration.toList ++ spec.similarity.toList ++ spec.blend.toList

/-- The percentages of an overlay specification, which are written as texts. -/
def OverlaySpec.shares (spec : OverlaySpec) : List Binary64 :=
  (spec.width.bind Dimension.share?).toList ++ (spec.height.bind Dimension.share?).toList

/-- The numbers of a manifest that are written as numbers. -/
def Manifest.numbers (manifest : Manifest) : List Binary64 :=
  manifest.sources.flatMap (·.metadata.numbers) ++ manifest.overlays.flatMap (·.spec.numbers) ++
    manifest.output.numbers

/-- The percentages of a manifest. -/
def Manifest.shares (manifest : Manifest) : List Binary64 :=
  manifest.overlays.flatMap (·.spec.shares)

/-! ## Parts of a manifest -/

theorem MediaKind.reads (kind : MediaKind) : Reads MediaKind.reader (.string kind.name) kind := by
  cases kind <;> exact reads_variant rfl

theorem Position.reads (position : Position) :
    Reads Position.reader (.string position.name) position := by
  cases position <;> exact reads_variant (by decide)

theorem Dimension.reads {dimension : Dimension}
    (finite : ∀ share ∈ dimension.share?, share.isFinite = true) :
    Reads Dimension.reader (.string dimension.text) dimension := by
  refine reads_spelled ?_
  rw [Dimension.ofText_text finite]
  rfl

theorem Color.reads (color : Color) : Reads Color.reader (.string color.manifestText) color := by
  refine reads_spelled ?_
  rw [Color.ofText_manifestText]
  rfl

theorem AssetMetadata.reads {metadata : AssetMetadata}
    (back : ∀ x ∈ metadata.numbers, x.ReadsBack) :
    Reads AssetMetadata.record.reader metadata.toJson metadata := by
  have duration : ∀ x ∈ metadata.duration, x.ReadsBack := fun x found =>
    back x (List.mem_append_left _ (Option.mem_toList.mpr found))
  have frameRate : ∀ x ∈ metadata.frameRate, x.ReadsBack := fun x found =>
    back x (List.mem_append_right _ (Option.mem_toList.mpr found))
  have fills : Fills AssetMetadata.record.fields AssetMetadata.record.blank _ metadata :=
    .optional metadata.duration (fun x found => reads_real (duration x found))
      (fun x found => isGiven_real (duration x found)) rfl <|
    .optional metadata.width (fun n _ => reads_word n) (fun _ _ => nofun) rfl <|
    .optional metadata.height (fun n _ => reads_word n) (fun _ _ => nofun) rfl <|
    .optional metadata.frameRate (fun x found => reads_real (frameRate x found))
      (fun x found => isGiven_real (frameRate x found)) rfl <|
    .optional metadata.sampleRate (fun n _ => reads_word n) (fun _ _ => nofun) rfl <|
    .optional metadata.channels (fun n _ => reads_word n) (fun _ _ => nofun) rfl <|
    .optional metadata.hasAudio (fun b _ => reads_boolean b) (fun _ _ => nofun) rfl <|
    .optional metadata.format (fun text _ => reads_textAs _ text) (fun _ _ => nofun) rfl <|
    .nil metadata
  have reads := fills.reads (by decide)
  simpa only [AssetMetadata.toJson, List.append_assoc, List.append_nil] using reads

theorem AssetSource.reads {source : AssetSource}
    (back : ∀ x ∈ source.metadata.numbers, x.ReadsBack) :
    Reads AssetSource.record.reader source.toJson source := by
  have fills : Fills AssetSource.record.fields AssetSource.record.blank _ source :=
    .needed (reads_textAs _ source.path) <|
    .defaulted (MediaKind.reads source.kind) <|
    .defaulted (AssetMetadata.reads back) <|
    .nil source
  exact fills.reads (by decide)

theorem Resolution.reads (resolution : Resolution) :
    Reads Resolution.record.reader resolution.toJson resolution := by
  have fills : Fills Resolution.record.fields Resolution.record.blank _ resolution :=
    .needed (reads_word resolution.width) <|
    .needed (reads_word resolution.height) <|
    .nil resolution
  exact fills.reads (by decide)

theorem OutputOptions.reads {options : OutputOptions} (back : ∀ x ∈ options.numbers, x.ReadsBack) :
    Reads OutputOptions.record.reader options.toJson options := by
  have fps : ∀ x ∈ options.fps, x.ReadsBack := fun x found => back x (Option.mem_toList.mpr found)
  have fills : Fills OutputOptions.record.fields OutputOptions.record.blank _ options :=
    .optional options.videoLabel (fun text _ => reads_textAs _ text) (fun _ _ => nofun) rfl <|
    .optional options.audioLabel (fun text _ => reads_textAs _ text) (fun _ _ => nofun) rfl <|
    .defaulted (reads_textAs _ options.format) <|
    .optional options.videoCodec (fun text _ => reads_textAs _ text) (fun _ _ => nofun) rfl <|
    .optional options.audioCodec (fun text _ => reads_textAs _ text) (fun _ _ => nofun) rfl <|
    .optional options.bitrate (fun text _ => reads_textAs _ text) (fun _ _ => nofun) rfl <|
    .optional options.resolution (fun size _ => Resolution.reads size) (fun _ _ => nofun) rfl <|
    .optional options.fps (fun x found => reads_real (fps x found))
      (fun x found => isGiven_real (fps x found)) rfl <|
    .nil options
  have reads := fills.reads (by decide)
  simpa only [OutputOptions.toJson, List.append_assoc, List.cons_append, List.nil_append,
    List.append_nil] using reads

/-! ## Overlays -/

/-- The numbers of an overlay specification one by one. -/
theorem OverlaySpec.readsBack {spec : OverlaySpec} (back : ∀ x ∈ spec.numbers, x.ReadsBack) :
    spec.opacity.ReadsBack ∧ spec.start.ReadsBack ∧ (∀ x ∈ spec.duration, x.ReadsBack) ∧
      (∀ x ∈ spec.similarity, x.ReadsBack) ∧ ∀ x ∈ spec.blend, x.ReadsBack := by
  simp only [OverlaySpec.numbers, List.forall_mem_append, List.forall_mem_cons, and_assoc,
    Option.mem_toList] at back
  obtain ⟨opacity, start, -, duration, similarity, blend⟩ := back
  exact ⟨opacity, start, duration, similarity, blend⟩

theorem OverlaySpec.fills {spec : OverlaySpec} (back : ∀ x ∈ spec.numbers, x.ReadsBack)
    (finite : ∀ share ∈ spec.shares, share.isFinite = true) :
    Fills OverlaySpec.record.fields OverlaySpec.record.blank spec.members spec := by
  have width : ∀ dimension ∈ spec.width, ∀ share ∈ dimension.share?, share.isFinite = true :=
    fun dimension found share shared => finite share (List.mem_append_left _
      (Option.mem_toList.mpr (Option.mem_bind_iff.mpr ⟨dimension, found, shared⟩)))
  have height : ∀ dimension ∈ spec.height, ∀ share ∈ dimension.share?, share.isFinite = true :=
    fun dimension found share shared => finite share (List.mem_append_right _
      (Option.mem_toList.mpr (Option.mem_bind_iff.mpr ⟨dimension, found, shared⟩)))
  obtain ⟨opacity, start, duration, similarity, blend⟩ := OverlaySpec.readsBack back
  have fills : Fills OverlaySpec.record.fields OverlaySpec.record.blank _ spec :=
    .defaulted (Position.reads spec.position) <|
    .optional spec.width (fun dimension found => Dimension.reads (width dimension found))
      (fun _ _ => nofun) rfl <|
    .optional spec.height (fun dimension found => Dimension.reads (height dimension found))
      (fun _ _ => nofun) rfl <|
    .defaulted (reads_real opacity) <|
    .defaulted (reads_real start) <|
    .optional spec.duration (fun x found => reads_real (duration x found))
      (fun x found => isGiven_real (duration x found)) rfl <|
    .optional spec.colorKey (fun color _ => Color.reads color) (fun _ _ => nofun) rfl <|
    .optional spec.similarity (fun x found => reads_real (similarity x found))
      (fun x found => isGiven_real (similarity x found)) rfl <|
    .optional spec.blend (fun x found => reads_real (blend x found))
      (fun x found => isGiven_real (blend x found)) rfl <|
    .defaulted (reads_boolean spec.mixAudio) <|
    .nil spec
  simpa only [OverlaySpec.members, List.append_assoc, List.cons_append, List.nil_append] using fills

theorem OverlaySpec.reads {spec : OverlaySpec} (back : ∀ x ∈ spec.numbers, x.ReadsBack)
    (finite : ∀ share ∈ spec.shares, share.isFinite = true) :
    Reads OverlaySpec.record.reader spec.toJson spec :=
  (OverlaySpec.fills back finite).reads (by decide)

namespace OverlayEntry

/-- A member that is set aside without objection. -/
def IsAside (member : String × Json) : Prop :=
  member.1 ≠ "asset" ∧ Json.lookThrough .text asideRoom member.2.document = .ok ()

theorem isAside_text {name : String} (other : name ≠ "asset") (text : String) :
    IsAside (name, .string text) := by
  refine ⟨other, ?_⟩
  rw [Json.document, Json.lookThrough, Json.readText_rawText]
  rfl

theorem isAside_boolean {name : String} (other : name ≠ "asset") (value : Bool) :
    IsAside (name, .boolean value) := ⟨other, rfl⟩

theorem isAside_real {name : String} (other : name ≠ "asset") {x : Binary64} (back : x.ReadsBack) :
    IsAside (name, .real x) := by
  obtain ⟨text, printed, read⟩ := Option.bind_eq_some_iff.mp back
  obtain ⟨number, lexeme, -⟩ := Option.map_eq_some_iff.mp read
  refine ⟨other, ?_⟩
  rw [Json.document, printed]
  show Json.lookThrough .text asideRoom (.number text.toList) = _
  rw [Json.lookThrough, Json.readNumber, lexeme]
  rfl

theorem isAside_member {α : Type} {name : String} {toJson : α → Json} {value? : Option α}
    (aside : ∀ value ∈ value?, IsAside (name, toJson value)) :
    ∀ member ∈ member? name toJson value?, IsAside member := by
  cases value? with
  | none => exact fun _ never => nomatch never
  | some value =>
      intro member only
      rw [List.mem_singleton.mp only]
      exact aside value rfl

/-- The members of a specification are set aside next to the asset. -/
theorem isAside_members {spec : OverlaySpec} (back : ∀ x ∈ spec.numbers, x.ReadsBack) :
    ∀ member ∈ spec.members, IsAside member := by
  obtain ⟨opacity, start, duration, similarity, blend⟩ := OverlaySpec.readsBack back
  simp only [OverlaySpec.members, List.forall_mem_append, List.forall_mem_cons, and_assoc]
  refine ⟨isAside_text (by decide) _, fun _ never => (nomatch never),
    isAside_member fun _ _ => isAside_text (by decide) _,
    isAside_member fun _ _ => isAside_text (by decide) _,
    isAside_real (by decide) opacity, isAside_real (by decide) start,
    fun _ never => (nomatch never),
    isAside_member fun x found => isAside_real (by decide) (duration x found),
    isAside_member fun _ _ => isAside_text (by decide) _,
    isAside_member fun x found => isAside_real (by decide) (similarity x found),
    isAside_member fun x found => isAside_real (by decide) (blend x found),
    isAside_boolean (by decide) spec.mixAudio, fun _ never => (nomatch never)⟩

/-- Members that are set aside are kept in their order. -/
theorem gather_aside {context : Json.Context} (textual : context.encoding = .text)
    {asset : AssetSource} {members : List (String × Json)}
    (aside : ∀ member ∈ members, IsAside member) (before : List (List Char × Json.Document)) :
    gather context (some asset) before (documentMembers members) =
      .ok (some asset, before.reverse ++ documentMembers members) := by
  induction members generalizing before with
  | nil =>
      rw [documentMembers, gather, List.append_nil]
  | cons member rest ih =>
      obtain ⟨name, value⟩ := member
      rw [List.forall_mem_cons] at aside
      obtain ⟨⟨other, clean⟩, others⟩ := aside
      rw [documentMembers, gather, textual, Json.readText_rawText]
      refine bind_ok_iff.mpr ⟨name, rfl, ?_⟩
      rw [if_neg other]
      refine bind_ok_iff.mpr ⟨(), clean, ?_⟩
      rw [ih others, List.reverse_cons, List.append_assoc]
      rfl

theorem reads {entry : OverlayEntry} (asset : ∀ x ∈ entry.asset.metadata.numbers, x.ReadsBack)
    (back : ∀ x ∈ entry.spec.numbers, x.ReadsBack)
    (finite : ∀ share ∈ entry.spec.shares, share.isFinite = true) :
    Reads OverlayEntry.reader entry.toJson entry := by
  intro context textual
  have gathered : gather context none []
      (documentMembers (("asset", entry.asset.toJson) :: entry.spec.members)) =
        .ok (some entry.asset, documentMembers entry.spec.members) := by
    rw [documentMembers, gather, textual, Json.readText_rawText]
    refine bind_ok_iff.mpr ⟨"asset", rfl, ?_⟩
    rw [if_pos rfl]
    refine bind_ok_iff.mpr ⟨entry.asset, AssetSource.reads asset context textual, ?_⟩
    rw [gather_aside textual (isAside_members back)]
    rfl
  have fills : OverlaySpec.record.ofMembers { context with setAside := true }
      (documentMembers entry.spec.members) = .ok entry.spec :=
    (OverlaySpec.fills back finite).ofMembers (by decide) textual
  refine bind_ok_iff.mpr ⟨_, gathered, ?_⟩
  exact bind_ok_iff.mpr ⟨entry.spec, fills, rfl⟩

end OverlayEntry

/-! ## Manifests -/

theorem Manifest.reads {manifest : Manifest} (back : ∀ x ∈ manifest.numbers, x.ReadsBack)
    (finite : ∀ share ∈ manifest.shares, share.isFinite = true) :
    Reads Manifest.record.reader manifest.toJson manifest := by
  simp only [Manifest.numbers, List.forall_mem_append] at back
  obtain ⟨⟨assets, specs⟩, output⟩ := back
  have number : ∀ source ∈ manifest.sources, ∀ x ∈ source.metadata.numbers, x.ReadsBack :=
    fun source member x found => assets x (List.mem_flatMap.mpr ⟨source, member, found⟩)
  simp only [Manifest.sources, Manifest.otherSources, List.forall_mem_cons, List.forall_mem_append,
    List.forall_mem_map] at number
  obtain ⟨main, ⟨prepend, append⟩, overlays⟩ := number
  have fills : Fills Manifest.record.fields Manifest.record.blank _ manifest :=
    .needed (AssetSource.reads main) <|
    .defaulted (reads_list fun source member => AssetSource.reads (prepend source member)) <|
    .defaulted (reads_list fun source member => AssetSource.reads (append source member)) <|
    .defaulted (reads_list fun entry member => OverlayEntry.reads (overlays entry member)
      (fun x found => specs x (List.mem_flatMap.mpr ⟨entry, member, found⟩))
      (fun share found => finite share (List.mem_flatMap.mpr ⟨entry, member, found⟩))) <|
    .defaulted (reads_list fun text _ => reads_textAs _ text) <|
    .defaulted (OutputOptions.reads output) <|
    .nil manifest
  exact fills.reads (by decide)

theorem Manifest.ofText_of_read {manifest : Manifest} {text : String}
    (read : Json.ofText Manifest.record.reader text = .ok manifest)
    (path : manifest.main.path ≠ "") : Manifest.ofText text = .ok manifest := by
  unfold Manifest.ofText
  rw [read]
  dsimp only
  rw [if_neg (by simpa using path)]

/-- Everything that is written is read back as it was, given finite numbers of
which those that are written as numbers are read back as they were. -/
theorem Manifest.round_trip :
    (∀ manifest : Manifest, manifest.main.path ≠ "" →
      (∀ x ∈ manifest.numbers ++ manifest.shares, x.isFinite = true) →
      (∀ x ∈ manifest.numbers, x.isFinite = true → x.ReadsBack) →
        Manifest.ofText manifest.toJson.compactText = .ok manifest ∧
        Manifest.ofText manifest.toJson.prettyText = .ok manifest) ∧
    (∀ spec : OverlaySpec, (∀ x ∈ spec.numbers ++ spec.shares, x.isFinite = true) →
      (∀ x ∈ spec.numbers, x.isFinite = true → x.ReadsBack) →
        Json.ofText OverlaySpec.record.reader spec.toJson.compactText = .ok spec ∧
        Json.ofText OverlaySpec.record.reader spec.toJson.prettyText = .ok spec) ∧
    (∀ options : OutputOptions, (∀ x ∈ options.numbers, x.isFinite = true) →
      (∀ x ∈ options.numbers, x.isFinite = true → x.ReadsBack) →
        Json.ofText OutputOptions.record.reader options.toJson.compactText = .ok options ∧
        Json.ofText OutputOptions.record.reader options.toJson.prettyText = .ok options) := by
  refine ⟨fun manifest path finite back => ?_, fun spec finite back => ?_,
    fun options finite back => ?_⟩
  · rw [List.forall_mem_append] at finite
    have reads := Manifest.reads (fun x found => back x found (finite.1 x found)) finite.2
    exact ⟨ofText_of_read reads.ofText_compactText path,
      ofText_of_read reads.ofText_prettyText path⟩
  · rw [List.forall_mem_append] at finite
    have reads := OverlaySpec.reads (fun x found => back x found (finite.1 x found)) finite.2
    exact ⟨reads.ofText_compactText, reads.ofText_prettyText⟩
  · have reads := OutputOptions.reads (fun x found => back x found (finite x found))
    exact ⟨reads.ofText_compactText, reads.ofText_prettyText⟩

/-- A manifest with a little of everything. -/
def Manifest.keepsake : Manifest where
  main := { path := "été/\"one\"\t1.mp4"
            metadata := { duration := some 12.5, frameRate := some 29.97 } }
  append := [{ path := "song.ogg", kind := .audio, metadata := { hasAudio := some true } }]
  overlays := [⟨{ path := "logo.mov" }, {
    position := .bottomRight
    width := some (.percent 33.3)
    height := some (.pixels 64)
    opacity := 0.1
    duration := some 0.00002
    colorKey := some ⟨0, 255, 26⟩ }⟩]
  customFilters := ["[out]eq=gamma=1.2[graded]"]
  output := { videoLabel := some "graded", resolution := some ⟨1280, 720⟩, fps := some 23.976 }

theorem Manifest.round_trip_keepsake :
    (Manifest.ofText keepsake.toJson.compactText = .ok keepsake ∧
      Manifest.ofText keepsake.toJson.prettyText = .ok keepsake) ∧
    (∃ entry ∈ keepsake.overlays,
      Json.ofText OverlaySpec.record.reader entry.spec.toJson.compactText = .ok entry.spec ∧
      Json.ofText OverlaySpec.record.reader entry.spec.toJson.prettyText = .ok entry.spec) ∧
    (Json.ofText OutputOptions.record.reader keepsake.output.toJson.compactText =
        .ok keepsake.output ∧
      Json.ofText OutputOptions.record.reader keepsake.output.toJson.prettyText =
        .ok keepsake.output) := by
  obtain ⟨manifests, specs, options⟩ := Manifest.round_trip
  refine ⟨manifests keepsake (by decide) (by decide +kernel) (by decide +kernel),
    ⟨_, List.mem_cons_self, specs _ (by decide +kernel) (by decide +kernel)⟩,
    options keepsake.output (by decide +kernel) (by decide +kernel)⟩

end Montage
