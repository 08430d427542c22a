import Montage.Program.Compile
import Montage.Proofs.Decimal.Digits
import Mathlib.Data.List.Nodup
import Mathlib.Data.List.TakeWhile

/-!
# Labels

Three kinds of labels meet in a graph: streams of inputs such as `0:v`, the
links that the routes make up, and the labels that are asked for. A stream of
an input is told by its colon; the links of the routes are pairwise different
because their name and their number can be read back from their text.
-/

namespace Montage

/-! ## Streams of inputs -/

namespace Composition

/-- The letter of a kind in a stream's label. -/
def streamMark : MediaKind → Char
  | .video => 'v'
  | .audio => 'a'

theorem streamLabel_toList (kind : MediaKind) (index : Nat) :
    (streamLabel kind index).toList = Nat.toDigits 10 index ++ [':', streamMark kind] := by
  cases kind <;> simp [streamLabel, streamMark]

theorem colon_mem_streamLabel (kind : MediaKind) (index : Nat) :
    ':' ∈ (streamLabel kind index).toList := by
  simp [streamLabel_toList]

/-- A stream's label tells the kind and the input. -/
theorem streamLabel_inj {kind kind' : MediaKind} {index index' : Nat} :
    streamLabel kind index = streamLabel kind' index' ↔ kind = kind' ∧ index = index' := by
  constructor
  · intro equal
    have lists := congrArg String.toList equal
    rw [streamLabel_toList, streamLabel_toList] at lists
    obtain ⟨digits, marks⟩ := List.append_inj' lists rfl
    refine ⟨?_, toDigits_injective digits⟩
    cases kind <;> cases kind' <;> simp [streamMark] at marks ⊢
  · rintro ⟨rfl, rfl⟩
    rfl

/-- A stream's label names its input as long as the index has 64 bits. -/
theorem inputStreamIndex?_streamLabel (kind : MediaKind) (index : Nat) :
    inputStreamIndex? (streamLabel kind index) =
      if index ≤ UInt64.size - 1 then some index else none := by
  have numeric : ∀ c ∈ Nat.toDigits 10 index, decide (c ≠ ':') = true := by
    intro c member
    have digit := toDigits_isDigit member
    refine decide_eq_true fun equal => ?_
    rw [equal] at digit
    exact absurd digit (by decide)
  unfold inputStreamIndex?
  simp only [streamLabel_toList]
  rw [List.dropWhile_append_of_pos numeric, List.takeWhile_append_of_pos numeric]
  simp [Decimal.natUpTo?_toDigits]

end Composition

/-- A label without a colon names no stream of an input. -/
theorem inputStreamIndex?_eq_none {label : String} (plain : ':' ∉ label.toList) :
    inputStreamIndex? label = none := by
  have skipped : label.toList.dropWhile (· ≠ ':') = [] := by
    refine List.dropWhile_eq_nil_iff.mpr fun c member => ?_
    exact decide_eq_true fun equal => plain (equal ▸ member)
  simp only [inputStreamIndex?, skipped]

theorem isInputStream_eq_false {label : String} (plain : ':' ∉ label.toList) :
    isInputStream label = false := by
  simp [isInputStream, inputStreamIndex?_eq_none plain]

/-- A label that may be asked for has no colon. -/
theorem colon_notMem_of_isLinkLabel {label : String} (valid : isLinkLabel label = true) :
    ':' ∉ label.toList := by
  intro member
  unfold isLinkLabel at valid
  rw [Bool.and_eq_true, List.all_eq_true] at valid
  have allowed := valid.2 ':' member
  exact absurd allowed (by decide)

/-! ## Links of the routes -/

/-- The families of links that the two routes number by clip or by layer. -/
inductive LinkFamily where
  /-- a clip's video in the common format -/
  | clipVideo
  /-- a clip's audio in the common format, or the silence in its place -/
  | clipAudio
  /-- a layer with its transparent lead-in -/
  | delayed
  /-- a layer with its colour keyed out -/
  | keyed
  /-- a layer after all its preparation -/
  | prepared
  /-- a layer with its opacity changed -/
  | translucent
  /-- the video with a layer laid on -/
  | laid
  /-- a layer's audio in its time window -/
  | timedAudio
  /-- a plain layer with its size and its opacity -/
  | plain
  /-- the video with a plain layer laid on -/
  | laidPlain
deriving DecidableEq

namespace LinkFamily

/-- What stands before the number. -/
def stem : LinkFamily → String
  | clipVideo => "v"
  | clipAudio => "a"
  | prepared => "overlayProcessed"
  | plain => "layer"
  | laidPlain => "dv"
  | delayed | keyed | translucent | laid | timedAudio => "ov"

/-- What stands after the number. -/
def tail : LinkFamily → String
  | delayed => "_pad"
  | keyed => "_key"
  | translucent => "_alpha"
  | timedAudio => "_audio"
  | clipVideo | clipAudio | prepared | laid | plain | laidPlain => ""

theorem eq_of_stem_of_tail {family family' : LinkFamily}
    (stems : family.stem = family'.stem) (tails : family.tail = family'.tail) :
    family = family' := by
  cases family <;> cases family' <;>
    first | rfl | exact absurd stems (by decide) | exact absurd tails (by decide)

theorem stem_noDigit (family : LinkFamily) :
    ∀ c ∈ family.stem.toList, (!c.isDigit) = true := by
  have all : family.stem.toList.all (!·.isDigit) = true := by cases family <;> decide
  exact List.all_eq_true.mp all

theorem tail_takeWhile (family : LinkFamily) :
    family.tail.toList.takeWhile Char.isDigit = [] := by
  cases family <;> decide

end LinkFamily

/-- The links that the two routes make up. -/
inductive LinkName where
  /-- the video of the joined clips -/
  | joinedVideo
  /-- the audio of the joined clips -/
  | joinedAudio
  | mixedAudio
  | numbered (family : LinkFamily) (number : Nat)
deriving DecidableEq

namespace LinkName

/-- The label of a link. -/
def text : LinkName → String
  | joinedVideo => "basev"
  | joinedAudio => "basea"
  | mixedAudio => "mixa"
  | numbered family number => family.stem ++ toString number ++ family.tail

theorem numbered_toList (family : LinkFamily) (number : Nat) :
    (numbered family number).text.toList =
      family.stem.toList ++ (Nat.toDigits 10 number ++ family.tail.toList) := by
  simp [text]

/-- The digits start right after the stem. -/
theorem takeWhile_noDigit_numbered (family : LinkFamily) (number : Nat) :
    (numbered family number).text.toList.takeWhile (!·.isDigit) = family.stem.toList := by
  obtain ⟨c, rest, equal⟩ :=
    List.exists_cons_of_ne_nil (Nat.toDigits_ne_nil (n := number) (b := 10))
  have digit : c.isDigit = true := toDigits_isDigit (n := number) (by rw [equal]; simp)
  rw [numbered_toList, List.takeWhile_append_of_pos family.stem_noDigit, equal]
  simp [digit]

/-- The digits end where the tail begins. -/
theorem takeWhile_isDigit_numbered (family : LinkFamily) (number : Nat) :
    (Nat.toDigits 10 number ++ family.tail.toList).takeWhile Char.isDigit =
      Nat.toDigits 10 number := by
  rw [List.takeWhile_append_of_pos fun _ member => toDigits_isDigit member,
    family.tail_takeWhile, List.append_nil]

/-- A numbered link's label tells its family and its number. -/
theorem numbered_text_inj {family family' : LinkFamily} {number number' : Nat}
    (equal : (numbered family number).text = (numbered family' number').text) :
    family = family' ∧ number = number' := by
  -- the stem is what stands before the first digit
  have stems : family.stem.toList = family'.stem.toList := by
    rw [← takeWhile_noDigit_numbered, ← takeWhile_noDigit_numbered, equal]
  have lists := congrArg String.toList equal
  rw [numbered_toList, numbered_toList, stems] at lists
  have rests := List.append_cancel_left lists
  -- no tail begins with a digit, so the number ends where the tail begins
  have digits : Nat.toDigits 10 number = Nat.toDigits 10 number' := by
    calc Nat.toDigits 10 number
        = (Nat.toDigits 10 number ++ family.tail.toList).takeWhile Char.isDigit :=
          (takeWhile_isDigit_numbered family number).symm
      _ = (Nat.toDigits 10 number' ++ family'.tail.toList).takeWhile Char.isDigit := by rw [rests]
      _ = Nat.toDigits 10 number' := takeWhile_isDigit_numbered family' number'
  rw [digits] at rests
  have tails := List.append_cancel_left rests
  exact ⟨LinkFamily.eq_of_stem_of_tail (String.toList_inj.mp stems) (String.toList_inj.mp tails),
    toDigits_injective digits⟩

/-- A label without digits is no numbered link. -/
theorem numbered_text_ne {family : LinkFamily} {number : Nat} {label : String}
    (plain : label.toList.all (!·.isDigit) = true) : (numbered family number).text ≠ label := by
  intro equal
  obtain ⟨c, member⟩ := List.exists_mem_of_ne_nil _ (Nat.toDigits_ne_nil (n := number) (b := 10))
  have inside : c ∈ label.toList := by
    rw [← equal, numbered_toList]
    simp [member]
  have noDigit := List.all_eq_true.mp plain c inside
  rw [toDigits_isDigit member] at noDigit
  exact absurd noDigit (by decide)

/-- A label without digits is no link of the routes, apart from the three that
have no number. -/
theorem text_ne {label : String} (plain : label.toList.all (!·.isDigit) = true)
    (other : label ∉ [joinedVideo.text, joinedAudio.text, mixedAudio.text]) (name : LinkName) :
    name.text ≠ label := by
  rintro rfl
  cases name with
  | numbered family number => exact numbered_text_ne plain rfl
  | joinedVideo => exact other (by simp)
  | joinedAudio => exact other (by simp)
  | mixedAudio => exact other (by simp)

/-- No two links share a label. -/
theorem text_injective : Function.Injective text := by
  intro name name' equal
  -- a label that is not numbered has no digits
  cases name with
  | numbered family number =>
      cases name' with
      | numbered family' number' =>
          obtain ⟨rfl, rfl⟩ := numbered_text_inj equal
          rfl
      | _ => exact absurd equal (numbered_text_ne (by decide))
  | _ =>
      cases name' with
      | numbered family' number' => exact absurd equal.symm (numbered_text_ne (by decide))
      | _ => first | rfl | exact absurd equal (by decide)

/-- No link's label names a stream of an input. -/
theorem colon_notMem_text (name : LinkName) : ':' ∉ name.text.toList := by
  cases name with
  | numbered family number =>
      have digits : ':' ∉ Nat.toDigits 10 number := fun member =>
        absurd (toDigits_isDigit member) (by decide)
      rw [numbered_toList]
      cases family <;> simp [LinkFamily.stem, LinkFamily.tail, digits]
  | _ => decide

end LinkName

/-! The labels that the routes write down are the labels of these links. -/

section

open Montage.Composition

variable (number : Nat)

theorem clipVideo_text : "v" ++ toString number = (LinkName.numbered .clipVideo number).text := by
  simp [LinkName.text, LinkFamily.stem, LinkFamily.tail]

theorem clipAudio_text : "a" ++ toString number = (LinkName.numbered .clipAudio number).text := by
  simp [LinkName.text, LinkFamily.stem, LinkFamily.tail]

theorem preparedLabel_eq : preparedLabel number = (LinkName.numbered .prepared number).text := by
  show "overlayProcessed" ++ toString number = _
  simp [LinkName.text, LinkFamily.stem, LinkFamily.tail]

theorem laid_text : "ov" ++ toString number = (LinkName.numbered .laid number).text := by
  simp [LinkName.text, LinkFamily.stem, LinkFamily.tail]

theorem plain_text : "layer" ++ toString number = (LinkName.numbered .plain number).text := by
  simp [LinkName.text, LinkFamily.stem, LinkFamily.tail]

theorem laidPlain_text : "dv" ++ toString number = (LinkName.numbered .laidPlain number).text := by
  simp [LinkName.text, LinkFamily.stem, LinkFamily.tail]

theorem layerLabel_eq (family : LinkFamily) (name : String) (stem : family.stem = "ov")
    (tail : family.tail = "_" ++ name) :
    layerLabel number name = (LinkName.numbered family number).text := by
  simp only [layerLabel, LinkName.text, stem, tail, String.append_assoc]

end

/-! ## What statements declare -/

/-- Links of some families under each of some numbers. -/
def numberedLinks (families : List LinkFamily) (numbers : List Nat) : List LinkName :=
  numbers.flatMap fun number => families.map (LinkName.numbered · number)

theorem mem_numberedLinks {families : List LinkFamily} {numbers : List Nat} {name : LinkName} :
    name ∈ numberedLinks families numbers ↔
      ∃ number ∈ numbers, ∃ family ∈ families, LinkName.numbered family number = name := by
  simp [numberedLinks, List.mem_flatMap, List.mem_map]

theorem nodup_numberedLinks {families : List LinkFamily} {numbers : List Nat}
    (distinct : families.Nodup) (distinctNumbers : numbers.Nodup) :
    (numberedLinks families numbers).Nodup := by
  refine List.nodup_flatMap.mpr ⟨fun number _ => ?_, ?_⟩
  · -- under one number the families differ
    exact distinct.map fun _ _ equal => (LinkName.numbered.inj equal).1
  · -- and a link under two numbers would make them equal
    refine distinctNumbers.imp fun apart name first second => ?_
    obtain ⟨_, -, rfl⟩ := List.mem_map.mp first
    obtain ⟨_, -, equal⟩ := List.mem_map.mp second
    exact apart (LinkName.numbered.inj equal).2.symm

/-- Links of different families differ. -/
theorem disjoint_numberedLinks {families families' : List LinkFamily} {numbers numbers' : List Nat}
    (apart : families.Disjoint families') :
    (numberedLinks families numbers).Disjoint (numberedLinks families' numbers') := by
  intro name first second
  obtain ⟨_, -, family, member, rfl⟩ := mem_numberedLinks.mp first
  obtain ⟨_, -, family', member', equal⟩ := mem_numberedLinks.mp second
  obtain ⟨rfl, -⟩ := LinkName.numbered.inj equal
  exact apart member member'

/-- All that some statements declare is among some links of the routes, in
their order. -/
def Declares (statements : List Statement) (names : List LinkName) : Prop :=
  (statements.flatMap (·.outputs)).Sublist (names.map LinkName.text)

namespace Declares

variable {statements more : List Statement} {names others : List LinkName}

theorem nil (names : List LinkName) : Declares [] names := List.nil_sublist _

theorem append (first : Declares statements names) (second : Declares more others) :
    Declares (statements ++ more) (names ++ others) := by
  unfold Declares
  rw [List.flatMap_append, List.map_append]
  exact List.Sublist.append first second

theorem flatMap {α : Type} {items : List α} {f : α → List Statement} {g : α → List LinkName}
    (each : ∀ item ∈ items, Declares (f item) (g item)) :
    Declares (items.flatMap f) (items.flatMap g) := by
  induction items with
  | nil => exact nil _
  | cons item rest ih =>
      rw [List.forall_mem_cons] at each
      exact append each.1 (ih each.2)

/-- Statements for numbered items that declare links of the same families. -/
theorem numbered {α : Type} {items : List α} {f : α → List Statement} {number : α → Nat}
    {families : List LinkFamily}
    (each : ∀ item ∈ items, Declares (f item) (families.map (.numbered · (number item)))) :
    Declares (items.flatMap f) (numberedLinks families (items.map number)) := by
  unfold numberedLinks
  rw [List.flatMap_map]
  exact flatMap each

theorem mem {label : String} (declares : Declares statements names)
    (member : label ∈ statements.flatMap (·.outputs)) : ∃ name ∈ names, name.text = label :=
  List.mem_map.mp (declares.subset member)

theorem colon_notMem (declares : Declares statements names) :
    ∀ label ∈ statements.flatMap (·.outputs), ':' ∉ label.toList := by
  intro label member
  obtain ⟨name, -, rfl⟩ := declares.mem member
  exact name.colon_notMem_text

theorem nodup (declares : Declares statements names) (distinct : names.Nodup) :
    (statements.flatMap (·.outputs)).Nodup :=
  List.Nodup.sublist declares (distinct.map LinkName.text_injective)

end Declares

end Montage
