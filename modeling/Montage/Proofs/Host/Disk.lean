import Montage.Host.Process
import Montage.Proofs.Host.Path
import Montage.Proofs.Outcome

/-!
# Changes of a disk

Each operation on a disk puts a node at the place that a path names, or fails
and leaves the disk as it is. Files that are written below a place leave
everything else as it is (`SameOutside`). Making directories only adds
directories on the way to the last one (`makeDirectories_grows`).
-/

namespace Montage

namespace Disk

variable {disk before after : Disk} {here place other : Place} {path : String}

/-! ## Nodes -/

@[simp] theorem node?_root (disk : Disk) : disk.node? [] = some .directory := rfl

theorem node?_of_ne_nil (below : place ≠ []) : disk.node? place = disk.entries.lookup place := by
  simp [node?, below]

theorem ne_nil_of_node?_eq_none (free : disk.node? place = none) : place ≠ [] := by
  rintro rfl
  cases free

/-- A filter on places keeps the entries that pass it. -/
theorem lookup_filter (keep : Place → Bool) (entries : List (Place × Node)) (place : Place) :
    (entries.filter fun entry => keep entry.1).lookup place =
      if keep place then entries.lookup place else none := by
  induction entries with
  | nil => simp
  | cons entry rest ih =>
      obtain ⟨name, node⟩ := entry
      rw [List.filter_cons]
      by_cases same : place = name
      · subst same
        cases kept : keep place <;> simp [ih, kept]
      · have differs : (place == name) = false := beq_eq_false_iff_ne.mpr same
        split <;> simp [ih, List.lookup_cons, differs]

theorem node?_put_self (below : place ≠ []) (node : Node) :
    (disk.put place node).node? place = some node := by
  have gone := lookup_filter (· != place) disk.entries place
  rw [node?_of_ne_nil below, put, List.lookup_append, gone]
  simp

theorem node?_put_of_ne (different : other ≠ place) (node : Node) :
    (disk.put place node).node? other = disk.node? other := by
  cases other with
  | nil => rfl
  | cons name rest =>
      have kept := lookup_filter (· != place) disk.entries (name :: rest)
      have differs : ((name :: rest) == place) = false := beq_eq_false_iff_ne.mpr different
      rw [node?_of_ne_nil (by simp), node?_of_ne_nil (by simp), put, List.lookup_append, kept]
      simp [bne, differs, List.lookup_cons]

/-- A step starts at a directory and goes where the segment leads. -/
theorem step_ok {segment : String} (result : disk.step place segment = .ok other) :
    disk.node? place = some .directory ∧ other = onward place segment := by
  unfold step at result
  split at result
  · cases result
  · cases result
  · rename_i directory
    refine ⟨directory, ?_⟩
    unfold onward
    split at result
    · rename_i stays
      rw [if_pos stays]
      exact (Except.ok.inj result).symm
    · rename_i moves
      rw [if_neg moves]
      split at result
      · rename_i up
        rw [if_pos up]
        exact (Except.ok.inj result).symm
      · rename_i down
        rw [if_neg down]
        split at result
        · cases result
        · exact (Except.ok.inj result).symm

/-- A walk goes from directory to directory to where its segments lead. -/
theorem walk_ok {segments : List String} (result : disk.walk place segments = .ok other) :
    other = segments.foldl onward place ∧
      ∀ front, front <+: segments → front ≠ segments →
        disk.node? (front.foldl onward place) = some .directory := by
  induction segments generalizing place with
  | nil =>
      cases result
      exact ⟨rfl, fun front within short => absurd (List.prefix_nil.mp within) short⟩
  | cons segment rest ih =>
      unfold walk at result
      rw [List.foldlM_cons] at result
      obtain ⟨middle, first, onwards⟩ := bind_ok_iff.mp result
      obtain ⟨directory, rfl⟩ := step_ok first
      obtain ⟨last, passed⟩ := ih onwards
      refine ⟨last, fun front within short => ?_⟩
      cases front with
      | nil => exact directory
      | cons name front =>
          obtain ⟨rfl, inside⟩ := List.cons_prefix_cons.mp within
          exact passed front inside fun equal => short (by rw [equal])

theorem walk_concat (disk : Disk) (start : Place) (segments : List String) (last : String) :
    disk.walk start (segments ++ [last]) =
      disk.walk start segments >>= fun place => disk.step place last := by
  unfold walk
  simp only [List.foldlM_append, List.foldlM_cons, List.foldlM_nil, bind_pure]

/-- What can be a path: a text that is not empty, has no NUL and is short. -/
theorem segments?_ok_iff {segments : List String} : segments? path = .ok segments ↔
    Char.ofNat 0 ∉ path.toList ∧ path ≠ "" ∧ path.utf8ByteSize ≤ pathLimit ∧
      segments = Path.segments path := by
  unfold segments?
  simp only [List.contains_iff_mem, String.isEmpty_iff]
  by_cases nul : Char.ofNat 0 ∈ path.toList
  · simp [nul]
  · by_cases empty : path = ""
    · simp [empty]
    · by_cases long : pathLimit < path.utf8ByteSize
      · simp [nul, empty, long, Nat.not_le.mpr long]
      · simp [nul, empty, long, Nat.not_lt.mp long, eq_comm]

theorem segments?_ok {segments : List String} (result : segments? path = .ok segments) :
    segments = Path.segments path :=
  (segments?_ok_iff.mp result).2.2.2

/-- A path leads over directories to the place that it names. -/
theorem locate_ok (result : disk.locate here path = .ok place) :
    place = placeOf here path ∧ ∀ front, front <+: Path.segments path →
      front ≠ Path.segments path →
        disk.node? (front.foldl onward (start here path)) = some .directory := by
  obtain ⟨segments, split, walked⟩ := bind_ok_iff.mp result
  obtain rfl := segments?_ok split
  exact walk_ok walked

/-- A directory stands where its path leads. -/
theorem isDirectory_iff : disk.isDirectory here path = true ↔
    disk.locate here path = .ok (placeOf here path) ∧
      disk.node? (placeOf here path) = some .directory := by
  unfold isDirectory find?
  rw [beq_iff_eq]
  constructor
  · intro found
    split at found
    · rename_i place located
      obtain rfl := (locate_ok located).1
      exact ⟨located, found⟩
    · cases found
  · rintro ⟨located, directory⟩
    rw [located]
    exact directory

/-- A file is written where its path leads, and was nothing or a file before. -/
theorem write_file {bytes : Bytes} (result : disk.write here path bytes = .ok after) :
    disk.locate here path = .ok (placeOf here path) ∧
      disk.node? (placeOf here path) ≠ some .directory ∧
        ∃ executable, after = disk.put (placeOf here path) (.file bytes executable) := by
  unfold write at result
  unfold locate
  obtain ⟨segments, split, rest⟩ := bind_ok_iff.mp result
  split at rest
  · -- a path that ends in a directory is never written to
    obtain ⟨place, -, rest⟩ := bind_ok_iff.mp rest
    obtain ⟨_, -, last⟩ := bind_ok_iff.mp rest
    cases last
  · obtain ⟨place, walked, rest⟩ := bind_ok_iff.mp rest
    have named : place = placeOf here path :=
      (locate_ok (bind_ok_iff.mpr ⟨segments, split, walked⟩)).1
    subst named
    have located := bind_ok_iff.mpr ⟨segments, split, walked⟩
    split at rest
    · cases rest
    · rename_i executable there
      cases rest
      exact ⟨located, by simp [there], executable, rfl⟩
    · rename_i free
      cases rest
      exact ⟨located, by simp [free], false, rfl⟩

/-- Two disks with the same nodes but for a place and what is below it. -/
def SameOutside (place : Place) (before after : Disk) : Prop :=
  ∀ other, ¬ place <+: other → after.node? other = before.node? other

namespace SameOutside

theorem refl (place : Place) (disk : Disk) : SameOutside place disk disk := fun _ _ => rfl

theorem trans {last : Disk} (first : SameOutside place before after)
    (second : SameOutside place after last) : SameOutside place before last :=
  fun other outside => (second other outside).trans (first other outside)

theorem put (inside : place <+: other) (node : Node) :
    SameOutside place disk (disk.put other node) := fun outer outside =>
  node?_put_of_ne (fun equal : outer = other => outside (equal ▸ inside)) node

theorem write {bytes : Bytes} (inside : place <+: placeOf here path)
    (result : disk.write here path bytes = .ok after) : SameOutside place disk after := by
  obtain ⟨-, -, executable, rfl⟩ := write_file result
  exact put inside _

/-- A process changes no more than the file that its last argument names. -/
theorem applyTo {args : List String} (behaviour : Behaviour) (last : args.getLast? = some path)
    (inside : place <+: placeOf here path) :
    SameOutside place disk (behaviour.applyTo here args disk) := by
  unfold Behaviour.applyTo
  rw [last]
  cases behaviour.output with
  | none => exact refl place disk
  | some bytes =>
      dsimp only
      split
      · rename_i written
        exact write inside written
      · exact refl place disk

end SameOutside

/-! ## Making directories -/

/-- A directory is made where nothing is, at the end of a walk to the last name
of its path. -/
theorem makeDirectory_walk (result : disk.makeDirectory here path = .ok (place, after)) :
    ∃ segments, segments? path = .ok segments ∧
      disk.walk (start here path) (segments.reverse.dropWhile String.isEmpty).reverse =
        .ok place ∧ disk.node? place = none ∧ after = disk.put place .directory := by
  unfold makeDirectory at result
  obtain ⟨segments, split, rest⟩ := bind_ok_iff.mp result
  obtain ⟨found, walked, rest⟩ := bind_ok_iff.mp rest
  split at rest
  · cases rest
  · rename_i free
    cases rest
    exact ⟨segments, split, walked, free, rfl⟩

/-- A directory is made where nothing is, at the place that its path names. -/
theorem makeDirectory_ok (result : disk.makeDirectory here path = .ok (place, after)) :
    place = placeOf here path ∧ disk.node? place = none ∧ after = disk.put place .directory := by
  obtain ⟨segments, split, walked, free, made⟩ := makeDirectory_walk result
  obtain rfl := segments?_ok split
  refine ⟨?_, free, made⟩
  rw [(walk_ok walked).1, foldl_onward_dropEmpty]
  rfl

/-- A disk with more directories, at some places. -/
structure Grows (places : Place → Prop) (before after : Disk) : Prop where
  kept : ∀ place node, before.node? place = some node → after.node? place = some node
  made : ∀ place node, before.node? place = none → after.node? place = some node →
    node = .directory ∧ places place

namespace Grows

variable {places more : Place → Prop}

theorem refl (places : Place → Prop) (disk : Disk) : Grows places disk disk where
  kept := fun _ _ found => found
  made := fun _ _ free found => by rw [free] at found; cases found

theorem trans {last : Disk} (first : Grows places before after)
    (second : Grows places after last) : Grows places before last where
  kept := fun place node found => second.kept place node (first.kept place node found)
  made := fun place node free found => by
    cases middle : after.node? place with
    | none => exact second.made place node middle found
    | some old =>
        obtain rfl : old = node :=
          Option.some.inj ((second.kept place old middle).symm.trans found)
        exact first.made place old free middle

/-- A new directory adds itself and no more. -/
theorem makeDirectory (result : disk.makeDirectory here path = .ok (place, after)) :
    Grows (· = placeOf here path) disk after := by
  obtain ⟨rfl, free, rfl⟩ := makeDirectory_ok result
  constructor
  · intro other node found
    rw [node?_put_of_ne (fun equal => by rw [equal, free] at found; cases found)]
    exact found
  · intro other node absent found
    by_cases same : other = placeOf here path
    · rw [same, node?_put_self (ne_nil_of_node?_eq_none free)] at found
      exact ⟨(Option.some.inj found).symm, same⟩
    · rw [node?_put_of_ne same, absent] at found
      cases found

end Grows

end Disk

end Montage
