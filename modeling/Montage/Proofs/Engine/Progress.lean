import Montage.Engine.Request
import Montage.Proofs.Graph.Labels
import Montage.Proofs.Host.Disk

/-!
# Progress of requests

In its staging directory a request changes nothing else on the disk, and it
enters its phases in order (`Advances`). Each part of a request goes through the
beginning of a route of phases, and through all of it if it has a result
(`Follows`); `runStaged_follows` puts the parts together.
-/

namespace Montage

open Disk (SameOutside placeOf onward)

/-! ## Staged names -/

theorem Asset.isExtension_extension (asset : Asset) : isExtension asset.extension = true := by
  have default : ∀ kind : MediaKind, isExtension kind.defaultExtension = true := by
    intro kind
    cases kind <;> decide
  unfold extension
  split
  · split
    · assumption
    · exact default asset.kind
  · exact default asset.kind

theorem harmless_of_isAlphanum {c : Char} (plain : c.isAlphanum = true) :
    c ≠ '/' ∧ c ≠ Char.ofNat 0 := by
  refine ⟨?_, ?_⟩ <;> rintro rfl <;> exact absurd plain (by decide)

/-- What ends in a plain file extension is the name of a file. -/
theorem isFileName_of_isExtension {front suffix : String}
    (letters : ∀ c ∈ front.toList, c.isAlphanum = true ∨ c = '_')
    (nonempty : front ≠ "") (valid : Asset.isExtension suffix = true) :
    IsFileName (front ++ "." ++ suffix) := by
  unfold Asset.isExtension at valid
  rw [Bool.and_eq_true, List.all_eq_true] at valid
  obtain ⟨c, rest, chars⟩ := List.exists_cons_of_ne_nil
    (show front.toList ≠ [] by simpa using nonempty)
  have first := letters c (by rw [chars]; exact List.mem_cons_self)
  refine .of_head (by rw [String.toList_append, String.toList_append, chars]; rfl) ?_ ?_
  · rintro rfl
    exact absurd first (by decide)
  · intro c member
    rw [String.toList_append, String.toList_append, List.mem_append, List.mem_append] at member
    rcases member with (before | point) | after
    · rcases letters c before with plain | rfl
      · exact harmless_of_isAlphanum plain
      · decide
    · rw [show c = '.' by simpa using point]
      decide
    · exact harmless_of_isAlphanum (valid.2 c after)

theorem isFileName_input (index : Nat) (asset : Asset) :
    IsFileName (Staging.inputName index asset) := by
  refine isFileName_of_isExtension ?_ (by simp) asset.isExtension_extension
  intro c member
  rw [String.toList_append, List.mem_append] at member
  rcases member with stem | digits
  · have all : "input_".toList.all (fun c => c.isAlphanum || c == '_') = true := by decide
    simpa using List.all_eq_true.mp all c stem
  · have digit : c.isDigit = true := toDigits_isDigit (by simpa using digits)
    exact .inl (by simp [Char.isAlphanum, digit])

theorem isFileName_output {format : String} (valid : Asset.isExtension format = true) :
    IsFileName ("output." ++ format) := by
  have all : "output".toList.all Char.isAlphanum = true := by decide
  exact isFileName_of_isExtension (fun c member => .inl (List.all_eq_true.mp all c member))
    (by decide) valid

/-! ## Staging directories -/

namespace Staging

variable {staging : Staging} {host : Host}

/-- A staging directory whose path names its place. -/
def IsPlaced (staging : Staging) (host : Host) : Prop :=
  staging.place = placeOf host.directory staging.path

/-- A file of a staging directory is below it. -/
theorem IsPlaced.inside (placed : staging.IsPlaced host) {name : String} (file : IsFileName name) :
    staging.place <+: placeOf host.directory (Path.join staging.path name) := by
  rw [Disk.placeOf_join, Disk.placeOf_of_notMem _ file.plain, placed]
  exact Disk.prefix_onward _ file.forward

end Staging

/-! ## Progress -/

namespace Session

/-- A later session: nothing has changed on the disk but below a place, and
these phases were entered. -/
structure Advances (place : Place) (phases : List Phase) (before after : Session) : Prop where
  disk : SameOutside place before.disk after.disk
  log : ∃ events, after.events = before.events ++ events ∧ events.filterMap (·.phase) = phases

namespace Advances

variable {place : Place} {phases more : List Phase} {before after last : Session}

theorem refl (place : Place) (session : Session) : session.Advances place [] session :=
  ⟨.refl place session.disk, [], by simp⟩

theorem trans (first : before.Advances place phases after)
    (second : after.Advances place more last) : before.Advances place (phases ++ more) last := by
  obtain ⟨events, logged, entered⟩ := first.log
  obtain ⟨others, logged', entered'⟩ := second.log
  refine ⟨first.disk.trans second.disk, events ++ others, ?_, ?_⟩
  · rw [logged', logged, List.append_assoc]
  · rw [List.filterMap_append, entered, entered']

theorem enter (place : Place) (session : Session) (phase : Phase) (message : String) :
    session.Advances place [phase] (session.enter phase message) :=
  ⟨.refl place session.disk, [_], rfl, rfl⟩

theorem warn (place : Place) (session : Session) (message : String) :
    session.Advances place [] (session.warn message) :=
  ⟨.refl place session.disk, [_], rfl, rfl⟩

theorem withDisk {disk : Disk} (same : SameOutside place before.disk disk) :
    before.Advances place [] { before with disk } :=
  ⟨same, [], by simp⟩

theorem start {host : Host} {program : String} {args : List String} {behaviour : Behaviour}
    (started : before.start host program args = .ok (behaviour, after)) :
    before.Advances place [] after := by
  obtain ⟨_, -, equal⟩ := map_ok_iff.mp started
  cases equal
  exact ⟨.refl place before.disk, [], (List.append_nil _).symm, rfl⟩

end Advances

end Session

/-! ## Processes -/

/-- The sessions that a process can lead to: it does not start, it is cut
short, or it runs to its end. -/
inductive Session.Runs (host : Host) (program : String) (args : List String)
    (before : Session) : Session → Prop
  | unstarted : Runs host program args before before
  | cutShort {behaviour : Behaviour} {launched : Session}
      (started : before.start host program args = .ok (behaviour, launched)) :
      Runs host program args before launched
  | ended {behaviour : Behaviour} {launched : Session}
      (started : before.start host program args = .ok (behaviour, launched)) :
      Runs host program args before
        { launched with disk := behaviour.applyTo host.directory args launched.disk }

variable {place : Place} {host : Host} {path : String}

theorem probeFile_runs (host : Host) (ffprobe path : String) (session : Session) :
    session.Runs host ffprobe (probeArgs ++ [path]) (probeFile host ffprobe path session).2 := by
  unfold probeFile
  dsimp only
  split
  · exact .unstarted
  · split
    · exact .unstarted
    · rename_i started
      split
      · exact .cutShort started
      · exact .ended started

namespace Session.Runs

variable {program : String} {args : List String} {before after : Session}

/-- A process enters no phase and changes no more than its own file. -/
theorem advances (runs : before.Runs host program args after) (last : args.getLast? = some path)
    (inside : place <+: placeOf host.directory path) : before.Advances place [] after := by
  cases runs with
  | unstarted => exact .refl place before
  | cutShort started => exact .start started
  | ended started =>
      exact (Advances.start started).trans (.withDisk (.applyTo _ last inside))

/-- A process that writes no file leaves the disk as it is. -/
theorem disk_eq (runs : before.Runs host program args after)
    (reports : ∀ behaviour, host.start before.disk program args = .ok behaviour →
      behaviour.output = none) : after.disk = before.disk := by
  cases runs with
  | unstarted => rfl
  | cutShort started =>
      obtain ⟨_, -, equal⟩ := map_ok_iff.mp started
      cases equal
      rfl
  | ended started =>
      obtain ⟨_, starts, equal⟩ := map_ok_iff.mp started
      cases equal
      unfold Behaviour.applyTo
      rw [reports _ starts]
      rfl

end Session.Runs

/-! ## Phases -/

/-- An outcome that went through the beginning of a route of phases, through all
of it if it has a result. -/
def Session.Follows (place : Place) (route : List Phase) (before : Session)
    (outcome : Except Error Asset × Session) : Prop :=
  ∃ phases, phases ≠ [] ∧ phases <+: route ∧ before.Advances place phases outcome.2 ∧
    (outcome.1.isOk = true → phases = route)

namespace Session.Follows

variable {route : List Phase} {phase : Phase} {before middle : Session}
  {outcome : Except Error Asset × Session}

theorem disk (follows : before.Follows place route outcome) :
    SameOutside place before.disk outcome.2.disk := by
  obtain ⟨phases, -, -, advances, -⟩ := follows
  exact advances.disk

/-- A request that fails in a phase stays there. -/
theorem fails {error : Error} {after : Session} (entered : before.Advances place [phase] middle)
    (onward : middle.Advances place [] after) :
    before.Follows place (phase :: route) (.error error, after) :=
  ⟨[phase], by simp, by simp, entered.trans onward, fun ok => absurd ok Bool.noConfusion⟩

end Session.Follows

namespace Request

variable {config : EngineConfig} {program : Program}

/-- Logging its end does not change what comes of a request. -/
theorem conclude_result (outcome : Except Error Asset × Session) :
    (conclude outcome).1 = outcome.1 := by
  obtain ⟨_ | _, session⟩ := outcome <;> rfl

/-! ## A host to try requests on -/

/-- A host whose engine writes a file and whose probe says nothing of use. -/
def bench : Host where
  directory := ["home"]
  searchPath := some "/bin"
  home := none
  programs := [(["bin", "ffmpeg"], fun _ => { output := some [7] }),
    (["bin", "ffprobe"], fun _ => {})]

/-- A session on such a host. -/
def benchSession : Session where
  disk := ⟨[(["bin"], .directory), (["bin", "ffmpeg"], .file [] true),
    (["bin", "ffprobe"], .file [] true), (["home"], .directory)]⟩

end Request

end Montage
