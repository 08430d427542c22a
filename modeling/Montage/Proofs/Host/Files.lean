import Montage.Proofs.Host.Disk
import Mathlib.Data.List.TakeWhile

/-!
# Files of a disk

A file that is written can be read (`read_write`), and it can still be read
after files have been written elsewhere (`read_mono`): no directory goes away,
so a path leads where it led before (`KeepsDirectories`). Right into a directory
any file can be written (`write_join`), also into one that has just been made
(`isDirectory_of_makeDirectory`). On a disk that is a tree nothing stands below a
place where nothing is (`IsTree.free_below`), and making directories keeps it
one.
-/

namespace Montage

namespace Disk

variable {disk before after : Disk} {here place other : Place} {path : String} {bytes : Bytes}

/-! ## Paths that lead where they led -/

/-- A later disk on which every directory is still one. -/
def KeepsDirectories (before after : Disk) : Prop :=
  ∀ place, before.node? place = some .directory → after.node? place = some .directory

theorem KeepsDirectories.put (noDirectory : disk.node? place ≠ some .directory) (node : Node) :
    KeepsDirectories disk (disk.put place node) := by
  intro other directory
  rw [node?_put_of_ne (fun same : other = place => noDirectory (same ▸ directory))]
  exact directory

theorem KeepsDirectories.trans {last : Disk} (first : KeepsDirectories before after)
    (second : KeepsDirectories after last) : KeepsDirectories before last :=
  fun place directory => second place (first place directory)

/-- A step from a directory does not depend on the rest of the disk. -/
theorem step_congr (directory : before.node? place = some .directory)
    (directory' : after.node? place = some .directory) (segment : String) :
    after.step place segment = before.step place segment := by
  unfold step
  rw [directory, directory']

theorem walk_mono (keeps : KeepsDirectories before after) {segments : List String}
    (result : before.walk place segments = .ok other) :
    after.walk place segments = .ok other := by
  induction segments generalizing place with
  | nil => exact result
  | cons segment rest ih =>
      unfold walk at result ⊢
      rw [List.foldlM_cons] at result ⊢
      obtain ⟨middle, first, onwards⟩ := bind_ok_iff.mp result
      have directory := (step_ok first).1
      rw [step_congr directory (keeps place directory) segment, first]
      exact ih onwards

theorem locate_mono (keeps : KeepsDirectories before after)
    (result : before.locate here path = .ok place) : after.locate here path = .ok place := by
  unfold locate at result ⊢
  obtain ⟨segments, split, walked⟩ := bind_ok_iff.mp result
  exact bind_ok_iff.mpr ⟨segments, split, walk_mono keeps walked⟩

/-! ## Reading and writing -/

/-- A file is read if its path leads to it. -/
theorem read_ok_iff :
    disk.read here path = .ok bytes ↔ disk.locate here path = .ok (placeOf here path) ∧
      ∃ executable, disk.node? (placeOf here path) = some (.file bytes executable) := by
  unfold read
  rw [bind_ok_iff]
  constructor
  · rintro ⟨place, located, found⟩
    obtain rfl := (locate_ok located).1
    refine ⟨located, ?_⟩
    split at found
    · cases found
    · cases found
    · rename_i executable there
      cases found
      exact ⟨executable, there⟩
  · rintro ⟨located, executable, there⟩
    refine ⟨_, located, ?_⟩
    rw [there]
    rfl

/-- A file at the same place is still read if no directory has gone away. -/
theorem read_mono (keeps : KeepsDirectories before after)
    (same : after.node? (placeOf here path) = before.node? (placeOf here path))
    (result : before.read here path = .ok bytes) : after.read here path = .ok bytes := by
  rw [read_ok_iff] at result ⊢
  rw [same]
  exact ⟨locate_mono keeps result.1, result.2⟩

/-- What is written can be read. -/
theorem read_write (result : disk.write here path bytes = .ok after) :
    after.read here path = .ok bytes := by
  obtain ⟨located, noDirectory, executable, rfl⟩ := write_file result
  have below : placeOf here path ≠ [] := by
    intro root
    rw [root] at noDirectory
    exact noDirectory rfl
  exact read_ok_iff.mpr ⟨locate_mono (.put noDirectory _) located, executable,
    node?_put_self below _⟩

/-! ## Files in a directory -/

theorem isDirectory_mono (keeps : KeepsDirectories before after)
    (directory : before.isDirectory here path = true) : after.isDirectory here path = true := by
  rw [isDirectory_iff] at directory ⊢
  exact ⟨locate_mono keeps directory.1, keeps _ directory.2⟩

section

variable {directory name : String} (file : IsFileName name)
  (short : name.utf8ByteSize ≤ nameLimit)
include file short

theorem step_isFileName (found : disk.node? place = some .directory) :
    disk.step place name = .ok (place ++ [name]) := by
  unfold step
  rw [found]
  simp [file.named, file.notHere, file.forward, Nat.not_lt.mpr short]

/-- A path into a directory leads to a place right in it. -/
theorem walk_join (found : disk.isDirectory here directory = true)
    (within : (Path.join directory name).utf8ByteSize ≤ pathLimit) :
    ∃ front, segments? (Path.join directory name) = .ok (front ++ [name]) ∧
      disk.walk (start here (Path.join directory name)) (front ++ [name]) =
        .ok (placeOf here directory ++ [name]) := by
  obtain ⟨located, there⟩ := isDirectory_iff.mp found
  obtain ⟨segments, split, walked⟩ := bind_ok_iff.mp located
  obtain ⟨noNul, named, -, rfl⟩ := segments?_ok_iff.mp split
  have relative := Path.isAbsolute_of_notMem file.plain
  obtain ⟨front, joined, before⟩ := Path.segments_join named relative
  rw [Path.segments_of_notMem file.plain] at joined
  -- the walk to the directory ends where that along the front does
  have reached : disk.walk (start here directory) front = .ok (placeOf here directory) := by
    rcases before with whole | closed
    · rw [← whole]
      exact walked
    · rw [closed, walk_concat] at walked
      obtain ⟨middle, reached, stays⟩ := bind_ok_iff.mp walked
      rw [reached, (step_ok stays).2, onward_empty]
  refine ⟨front, segments?_ok_iff.mpr ⟨fun nul => ?_, fun empty => ?_, within, joined.symm⟩, ?_⟩
  · rcases Path.mem_join nul with inside | slash | inside
    · exact noNul inside
    · exact absurd slash (by decide)
    · exact file.noNul inside
  · rw [empty] at joined
    have last := congrArg List.getLast? joined
    rw [List.getLast?_concat] at last
    exact file.named (Option.some.inj last).symm
  · rw [start_join here named relative, walk_concat, reached]
    exact step_isFileName file short there

/-- A file can be written right into a directory. -/
theorem write_join (found : disk.isDirectory here directory = true)
    (within : (Path.join directory name).utf8ByteSize ≤ pathLimit)
    (free : disk.node? (placeOf here directory ++ [name]) ≠ some .directory) (bytes : Bytes) :
    ∃ after, disk.write here (Path.join directory name) bytes = .ok after := by
  obtain ⟨front, valid, walked⟩ := walk_join file short found within
  have last : endsInDirectory (front ++ [name]) = false := by
    rw [endsInDirectory, List.getLast?_concat]
    simp [file.named, file.notHere, file.forward]
  unfold write
  simp only [valid, walked, last, bind, Except.bind, Bool.false_eq_true, if_false]
  split
  · rename_i directory
    exact absurd directory free
  · exact ⟨_, rfl⟩
  · exact ⟨_, rfl⟩

end

/-- Empty segments lead nowhere else. -/
theorem walk_nameless (found : disk.node? place = some .directory) {segments : List String}
    (nameless : ∀ segment ∈ segments, segment.isEmpty = true) :
    disk.walk place segments = .ok place := by
  induction segments with
  | nil => rfl
  | cons segment rest ih =>
      rw [List.forall_mem_cons] at nameless
      have stays : disk.step place segment = .ok place := by
        unfold step
        rw [found]
        simp [nameless.1]
      unfold walk at ih ⊢
      rw [List.foldlM_cons, stays]
      exact ih nameless.2

/-- A directory that is made stands where its path leads. -/
theorem isDirectory_of_makeDirectory (result : disk.makeDirectory here path = .ok (place, after)) :
    after.isDirectory here path = true := by
  obtain ⟨named, -, -⟩ := makeDirectory_ok result
  obtain ⟨segments, split, walked, free, made⟩ := makeDirectory_walk result
  have there : after.node? place = some .directory := by
    rw [made]
    exact node?_put_self (ne_nil_of_node?_eq_none free) _
  -- the walk was to the last name, and only empty segments follow it
  have keeps : KeepsDirectories disk after := by
    rw [made]
    exact .put (by simp [free]) _
  have parts : segments = (segments.reverse.dropWhile String.isEmpty).reverse ++
      (segments.reverse.takeWhile String.isEmpty).reverse := by
    rw [← List.reverse_append, List.takeWhile_append_dropWhile, List.reverse_reverse]
  have onwards : after.walk place (segments.reverse.takeWhile String.isEmpty).reverse =
      .ok place :=
    walk_nameless there fun segment member =>
      List.mem_takeWhile_imp (List.mem_reverse.mp member)
  have reached := walk_mono keeps walked
  refine isDirectory_iff.mpr ⟨bind_ok_iff.mpr ⟨segments, split, ?_⟩, named ▸ there⟩
  rw [← named, parts]
  unfold walk at reached onwards ⊢
  rw [List.foldlM_append, reached]
  exact onwards

/-! ## Trees -/

/-- A disk on which every node stands in a directory. -/
def IsTree (disk : Disk) : Prop :=
  ∀ entry ∈ disk.entries, disk.node? entry.1.dropLast = some .directory

instance (disk : Disk) : Decidable disk.IsTree :=
  inferInstanceAs (Decidable (∀ entry ∈ disk.entries, _))

/-- What is looked up is among the entries. -/
theorem mem_of_node? {node : Node} (below : place ≠ []) (found : disk.node? place = some node) :
    (place, node) ∈ disk.entries := by
  rw [node?_of_ne_nil below, List.lookup_eq_some_iff] at found
  obtain ⟨front, back, split, -⟩ := found
  rw [split]
  exact List.mem_append_right _ List.mem_cons_self

/-- Nothing stands below a place where nothing is. -/
theorem IsTree.free_below (tree : disk.IsTree) (free : disk.node? place = none)
    (inside : place <+: other) : disk.node? other = none := by
  obtain ⟨names, rfl⟩ := inside
  induction names using List.reverseRecOn with
  | nil => rwa [List.append_nil]
  | append_singleton names name ih =>
      cases found : disk.node? (place ++ (names ++ [name])) with
      | none => rfl
      | some node =>
          have parent := tree _ (mem_of_node? (by simp) found)
          rw [← List.append_assoc, List.dropLast_concat, ih] at parent
          cases parent

/-- A tree with a node more, where nothing was, in a directory. -/
theorem IsTree.put (tree : disk.IsTree) (free : disk.node? place = none)
    (parent : disk.node? place.dropLast = some .directory) (node : Node) :
    (disk.put place node).IsTree := by
  have keeps : KeepsDirectories disk (disk.put place node) := .put (by simp [free]) node
  intro entry member
  rcases List.mem_append.mp member with old | new
  · exact keeps _ (tree entry (List.mem_filter.mp old).1)
  · obtain rfl := List.mem_singleton.mp new
    exact keeps _ parent

/-- A relative path does not only consist of slashes. -/
theorem names_ne_nil {segments : List String} (split : segments? path = .ok segments)
    (relative : Path.isAbsolute path = false) :
    segments.reverse.dropWhile String.isEmpty ≠ [] := by
  have nonempty : path.toList ≠ [] := by
    intro empty
    simp [segments?, String.toList_eq_nil_iff.mp empty] at split
  obtain rfl := segments?_ok split
  obtain ⟨c, cs, chars⟩ := List.exists_cons_of_ne_nil nonempty
  have other : c ≠ '/' := by
    rintro rfl
    simp [Path.isAbsolute, chars] at relative
  obtain ⟨segment, others, rest⟩ := List.exists_cons_of_ne_nil (Path.splitChars_ne_nil cs)
  intro nameless
  rw [List.dropWhile_eq_nil_iff, Path.segments, chars, Path.splitChars_cons other rest] at nameless
  have first := nameless (String.ofList (c :: segment)) (by simp)
  simp [String.ofList_eq_empty_iff] at first

/-- A walk to a place where nothing is ends in a directory above it. -/
theorem IsTree.parent_of_walk (tree : disk.IsTree) {names : List String} (nonempty : names ≠ [])
    (walked : disk.walk place names = .ok other) (free : disk.node? other = none) :
    disk.node? other.dropLast = some .directory := by
  have split := List.dropLast_concat_getLast nonempty
  rw [← split, walk, List.foldlM_append] at walked
  obtain ⟨middle, -, last⟩ := bind_ok_iff.mp walked
  rw [List.foldlM_cons] at last
  obtain ⟨reached, stepped, same⟩ := bind_ok_iff.mp last
  obtain rfl : reached = other := Except.ok.inj same
  obtain ⟨directory, rfl⟩ := step_ok stepped
  -- a step that stays or goes up ends in a directory
  unfold onward at free ⊢
  split at free
  · rw [directory] at free
    cases free
  · rename_i moves
    rw [if_neg moves]
    split at free
    · cases middle with
      | nil => cases free
      | cons name rest =>
          rw [tree _ (mem_of_node? (by simp) directory)] at free
          cases free
    · rename_i down
      rw [if_neg down, List.dropLast_concat]
      exact directory

/-- A tree with a new directory is a tree. -/
theorem IsTree.makeDirectory (tree : disk.IsTree)
    (result : disk.makeDirectory here path = .ok (place, after)) : after.IsTree := by
  obtain ⟨segments, split, walked, free, rfl⟩ := makeDirectory_walk result
  refine tree.put free ?_ .directory
  by_cases absolute : Path.isAbsolute path = true
  · by_cases root : segments.reverse.dropWhile String.isEmpty = []
    · rw [root, start, if_pos absolute] at walked
      cases walked
      cases free
    · exact tree.parent_of_walk (by simpa using root) walked free
  · have root := names_ne_nil split (Bool.eq_false_iff.mpr absolute)
    exact tree.parent_of_walk (by simpa using root) walked free

/-- A tree with more directories is a tree. -/
theorem IsTree.makeFirst (tree : disk.IsTree) (here : Place) (paths : List String) :
    (disk.makeFirst here paths).2.IsTree := by
  induction paths generalizing disk with
  | nil => exact tree
  | cons path above ih =>
      rw [Disk.makeFirst]
      split
      · exact tree
      · split
        · rename_i made
          exact tree.makeDirectory made
        · have above := ih tree
          split
          · rename_i failed
            rw [failed] at above
            exact above
          · rename_i done
            rw [done] at above
            split
            · rename_i made
              exact above.makeDirectory made
            · exact above
        · exact tree

theorem IsTree.makeDirectories (tree : disk.IsTree) (here : Place) (path : String) :
    (disk.makeDirectories here path).2.IsTree :=
  tree.makeFirst here (Path.ancestors path)

end Disk

end Montage
