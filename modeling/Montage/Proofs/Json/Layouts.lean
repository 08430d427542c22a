import Montage.Proofs.Json.Strings

/-!
# The layouts of a value

The compact and the pretty text of a value are one text that differs in its
spacing (`toList_compactText`, `toList_prettyTextAt`).
-/

namespace Montage.Json

/-! ## Spacing -/

/-- The white space of a layout. -/
structure Spacing where
  /-- what follows a colon -/
  gap : List Char
  /-- what stands before an item or a closing bracket of a level -/
  line : Nat → List Char
  gap_blank : ∀ c ∈ gap, Document.isSpace c = true
  line_blank : ∀ level, ∀ c ∈ line level, Document.isSpace c = true

/-- No white space at all. -/
def Spacing.compact : Spacing where
  gap := []
  line _ := []
  gap_blank _ never := nomatch never
  line_blank _ _ never := nomatch never

/-- A line for each item, and a space after each colon. -/
def Spacing.pretty : Spacing where
  gap := [' ']
  line level := (newLine level).toList
  gap_blank c member := by
    rw [List.mem_singleton.mp member]
    decide
  line_blank level c member := by
    have spaces : c = '\n' ∨ c = ' ' := by
      simp only [newLine, String.toList_append, String.toList_ofList, List.mem_append,
        List.mem_replicate] at member
      exact member.imp List.mem_singleton.mp And.right
    rcases spaces with rfl | rfl <;> decide

section

variable (spacing : Spacing)

mutual

/-- The text of a value at a level. -/
def spaced (level : Nat) : Json → List Char
  | array [] => ['[', ']']
  | array (item :: items) =>
    '[' :: (spacing.line (level + 1) ++ (spaced (level + 1) item ++ spacedItems level items))
  | object [] => ['{', '}']
  | object ((name, value) :: members) =>
    '{' :: (spacing.line (level + 1) ++ ((stringText name).toList ++ ':' ::
      (spacing.gap ++ (spaced (level + 1) value ++ spacedMembers level members))))
  | value => value.scalarText.toList

/-- The text of the items after the first one, with the closing bracket. -/
def spacedItems (level : Nat) : List Json → List Char
  | [] => spacing.line level ++ [']']
  | item :: items =>
    ',' :: (spacing.line (level + 1) ++ (spaced (level + 1) item ++ spacedItems level items))

/-- The text of the members after the first one, with the closing brace. -/
def spacedMembers (level : Nat) : List (String × Json) → List Char
  | [] => spacing.line level ++ ['}']
  | (name, value) :: members =>
    ',' :: (spacing.line (level + 1) ++ ((stringText name).toList ++ ':' ::
      (spacing.gap ++ (spaced (level + 1) value ++ spacedMembers level members))))

end

end

/-! ## The two layouts -/

mutual

theorem toList_compactText (level : Nat) :
    ∀ value : Json, value.compactText.toList = spaced .compact level value
  | array [] => rfl
  | array (item :: items) => by
      have first := toList_compactText (level + 1) item
      have others := toList_compactItems level items item.compactText
      show ("[" ++ ",".intercalate (item.compactText :: compactItems items) ++ "]").toList = _
      rw [String.append_assoc, String.toList_append, others, first]
      rfl
  | object [] => rfl
  | object ((name, value) :: members) => by
      have first := toList_compactText (level + 1) value
      have others := toList_compactMembers level members
        (stringText name ++ ":" ++ value.compactText)
      show ("\x7b" ++ ",".intercalate ((stringText name ++ ":" ++ value.compactText) ::
        compactMembers members) ++ "\x7d").toList = _
      rw [String.append_assoc, String.toList_append, others, String.toList_append,
        String.toList_append, first]
      simp [spaced, Spacing.compact]
  | null => rfl
  | boolean _ => rfl
  | integer _ => rfl
  | real _ => rfl
  | string _ => rfl

theorem toList_compactItems (level : Nat) : ∀ (items : List Json) (first : String),
    (",".intercalate (first :: compactItems items) ++ "]").toList =
      first.toList ++ spacedItems .compact level items
  | [], first => by
      rw [compactItems, String.intercalate_singleton, String.toList_append]
      rfl
  | item :: items, first => by
      have next := toList_compactText (level + 1) item
      have others := toList_compactItems level items item.compactText
      rw [compactItems, String.intercalate_cons_cons, String.append_assoc, String.append_assoc,
        String.toList_append, String.toList_append, others, next]
      rfl

theorem toList_compactMembers (level : Nat) :
    ∀ (members : List (String × Json)) (first : String),
      (",".intercalate (first :: compactMembers members) ++ "\x7d").toList =
        first.toList ++ spacedMembers .compact level members
  | [], first => by
      rw [compactMembers, String.intercalate_singleton, String.toList_append]
      rfl
  | (name, value) :: members, first => by
      have next := toList_compactText (level + 1) value
      have others := toList_compactMembers level members
        (stringText name ++ ":" ++ value.compactText)
      rw [compactMembers, String.intercalate_cons_cons, String.append_assoc, String.append_assoc,
        String.toList_append, String.toList_append, others, String.toList_append,
        String.toList_append, next]
      simp [spacedMembers, Spacing.compact]

end

theorem bracketed_nil (opening closing : String) (level : Nat) :
    bracketed opening closing level [] = opening ++ closing := if_pos rfl

mutual

theorem toList_prettyTextAt (level : Nat) :
    ∀ value : Json, (value.prettyTextAt level).toList = spaced .pretty level value
  | array [] => by
      rw [prettyTextAt, prettyItems, bracketed_nil]
      rfl
  | array (item :: items) => by
      have first := toList_prettyTextAt (level + 1) item
      have others := toList_prettyItems level items (item.prettyTextAt (level + 1))
      show ("[" ++ newLine (level + 1) ++ ("," ++ newLine (level + 1)).intercalate
        (item.prettyTextAt (level + 1) :: prettyItems (level + 1) items) ++ newLine level ++
        "]").toList = _
      rw [String.append_assoc, String.append_assoc, String.append_assoc, String.toList_append,
        String.toList_append, others, first]
      rfl
  | object [] => by
      rw [prettyTextAt, prettyMembers, bracketed_nil]
      rfl
  | object ((name, value) :: members) => by
      have first := toList_prettyTextAt (level + 1) value
      have others := toList_prettyMembers level members
        (stringText name ++ ": " ++ value.prettyTextAt (level + 1))
      show ("\x7b" ++ newLine (level + 1) ++ ("," ++ newLine (level + 1)).intercalate
        ((stringText name ++ ": " ++ value.prettyTextAt (level + 1)) ::
          prettyMembers (level + 1) members) ++ newLine level ++ "\x7d").toList = _
      rw [String.append_assoc, String.append_assoc, String.append_assoc, String.toList_append,
        String.toList_append, others, String.toList_append, String.toList_append, first]
      simp [spaced, Spacing.pretty]
  | null => rfl
  | boolean _ => rfl
  | integer _ => rfl
  | real _ => rfl
  | string _ => rfl

theorem toList_prettyItems (level : Nat) : ∀ (items : List Json) (first : String),
    (("," ++ newLine (level + 1)).intercalate (first :: prettyItems (level + 1) items) ++
      (newLine level ++ "]")).toList = first.toList ++ spacedItems .pretty level items
  | [], first => by
      rw [prettyItems, String.intercalate_singleton, String.toList_append, String.toList_append]
      rfl
  | item :: items, first => by
      have next := toList_prettyTextAt (level + 1) item
      have others := toList_prettyItems level items (item.prettyTextAt (level + 1))
      rw [prettyItems, String.intercalate_cons_cons, String.append_assoc, String.append_assoc,
        String.append_assoc, String.toList_append, String.toList_append, String.toList_append,
        others, next]
      rfl

theorem toList_prettyMembers (level : Nat) :
    ∀ (members : List (String × Json)) (first : String),
      (("," ++ newLine (level + 1)).intercalate (first :: prettyMembers (level + 1) members) ++
        (newLine level ++ "\x7d")).toList = first.toList ++ spacedMembers .pretty level members
  | [], first => by
      rw [prettyMembers, String.intercalate_singleton, String.toList_append, String.toList_append]
      rfl
  | (name, value) :: members, first => by
      have next := toList_prettyTextAt (level + 1) value
      have others := toList_prettyMembers level members
        (stringText name ++ ": " ++ value.prettyTextAt (level + 1))
      rw [prettyMembers, String.intercalate_cons_cons, String.append_assoc, String.append_assoc,
        String.append_assoc, String.toList_append, String.toList_append, String.toList_append,
        others, String.toList_append, String.toList_append, next]
      simp [spacedMembers, Spacing.pretty]

end

end Montage.Json
