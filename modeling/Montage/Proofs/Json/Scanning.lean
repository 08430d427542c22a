import Montage.Proofs.Json.Layouts
import Montage.Proofs.Json.Lexemes

/-!
# Scanning what was written

With any spacing a text is scanned into the document of its value
(`scans_spaced`), so the compact and the pretty text both hold that document
(`scan?_compactText`, `scan?_prettyText`).
-/

namespace Montage.Json

/-! ## Documents of values -/

mutual

/-- The document that the text of a value holds. -/
def document : Json → Document
  | null => .null
  | boolean value => .boolean value
  | integer value => .number (toString value).toList
  | real value =>
    match value.jsonText? with
    | some text => .number text.toList
    | none => .null
  | string value => .string (rawText value)
  | array items => .array (documentItems items)
  | object members => .object (documentMembers members)

/-- The documents of items. -/
def documentItems : List Json → List Document
  | [] => []
  | item :: rest => document item :: documentItems rest

/-- The documents of members. -/
def documentMembers : List (String × Json) → List (List Char × Document)
  | [] => []
  | (name, value) :: rest => (rawText name, document value) :: documentMembers rest

end

/-! ## Scanning -/

namespace Document

theorem skipSpace_append {spaces : List Char} (blank : ∀ c ∈ spaces, isSpace c = true)
    (cs : List Char) : skipSpace (spaces ++ cs) = skipSpace cs :=
  List.dropWhile_append_of_pos blank

theorem skipSpace_cons {c : Char} (solid : isSpace c = false) (cs : List Char) :
    skipSpace (c :: cs) = c :: cs := by
  simp [skipSpace, solid]

/-- White space in front of a value makes no difference. -/
theorem scanValue_space {spaces : List Char} (blank : ∀ c ∈ spaces, isSpace c = true)
    (steps : Nat) (cs : List Char) : scanValue steps (spaces ++ cs) = scanValue steps cs := by
  cases steps with
  | zero => rfl
  | succ steps =>
      rw [scanValue.eq_2, skipSpace_append blank, ← scanValue.eq_2]

/-- What a value can begin with. -/
structure Begins (cs : List Char) : Prop where
  head : ∃ c more, cs = c :: more ∧ isSpace c = false ∧ c ≠ ']'

theorem Begins.append {cs : List Char} (begins : Begins cs) (rest : List Char) :
    Begins (cs ++ rest) := by
  obtain ⟨c, more, rfl, others⟩ := begins
  exact ⟨c, more ++ rest, rfl, others⟩

theorem scanValue_bracket (steps : Nat) (cs : List Char) :
    scanValue (steps + 1) ('[' :: cs) =
      match skipSpace cs with
      | ']' :: rest => some (array [], rest)
      | rest => (scanItems steps rest).map fun (items, rest) => (array items, rest) := by
  rewrite [scanValue.eq_2, skipSpace_cons (by decide)]
  rfl

theorem scanValue_brace (steps : Nat) (cs : List Char) :
    scanValue (steps + 1) ('{' :: cs) =
      match skipSpace cs with
      | '}' :: rest => some (object [], rest)
      | rest => (scanMembers steps rest).map fun (members, rest) => (object members, rest) := by
  rewrite [scanValue.eq_2, skipSpace_cons (by decide)]
  rfl

theorem scanMembers_quote {spaces : List Char} (blank : ∀ c ∈ spaces, isSpace c = true)
    (steps : Nat) (cs : List Char) :
    scanMembers (steps + 1) (spaces ++ '"' :: cs) =
      match scanString cs with
      | none => none
      | some (key, rest) =>
        match skipSpace rest with
        | ':' :: rest =>
          match scanValue steps rest with
          | none => none
          | some (value, rest) =>
            match skipSpace rest with
            | '}' :: rest => some ([(key, value)], rest)
            | ',' :: rest =>
              (scanMembers steps rest).map fun (members, rest) => ((key, value) :: members, rest)
            | _ => none
        | _ => none := by
  rewrite [scanMembers.eq_2, skipSpace_append blank, skipSpace_cons (by decide)]
  rfl

/-- A key, up to the value of its member. -/
theorem scanMembers_named {spaces cs key rest : List Char} {steps : Nat}
    (blank : ∀ c ∈ spaces, isSpace c = true)
    (scanned : scanString cs = some (key, ':' :: rest)) :
    scanMembers (steps + 1) (spaces ++ '"' :: cs) =
      match scanValue steps rest with
      | none => none
      | some (value, rest) =>
        match skipSpace rest with
        | '}' :: rest => some ([(key, value)], rest)
        | ',' :: rest =>
          (scanMembers steps rest).map fun (members, rest) => ((key, value) :: members, rest)
        | _ => none := by
  rewrite [scanMembers_quote blank, scanned]
  dsimp only
  rewrite [skipSpace_cons (by decide)]
  rfl

/-- A bracket with an item after it. -/
theorem scanValue_items {steps : Nat} {spaces cs : List Char}
    (blank : ∀ c ∈ spaces, isSpace c = true) (begins : Begins cs) :
    scanValue (steps + 1) ('[' :: (spaces ++ cs)) =
      (scanItems steps cs).map fun (items, rest) => (array items, rest) := by
  obtain ⟨c, more, rfl, solid, bracket⟩ := begins
  rw [scanValue_bracket, skipSpace_append blank, skipSpace_cons solid]
  split
  · rename_i equal
    exact absurd (List.cons.inj equal).1 bracket
  · rfl

/-- A brace with a member after it. -/
theorem scanValue_members {steps : Nat} {spaces cs : List Char}
    (blank : ∀ c ∈ spaces, isSpace c = true) :
    scanValue (steps + 1) ('{' :: (spaces ++ '"' :: cs)) =
      (scanMembers steps ('"' :: cs)).map fun (members, rest) => (object members, rest) := by
  rewrite [scanValue_brace, skipSpace_append blank, skipSpace_cons (by decide)]
  rfl

/-- A number begins with a digit or a sign. -/
theorem IsNumeral.head {cs : List Char} (number : IsNumeral cs) :
    ∃ c more, cs = c :: more ∧ (c.isDigit = true ∨ c = '-') := by
  cases number with
  | unsigned number =>
      obtain ⟨c, more, split, digit⟩ := number.head
      exact ⟨c, more, split, .inl digit⟩
  | negative number => exact ⟨'-', _, rfl, .inr rfl⟩

theorem ne_of_numeral {c mark : Char} (first : c.isDigit = true ∨ c = '-')
    (digit : mark.isDigit = false) (minus : mark ≠ '-') : c ≠ mark := by
  rintro rfl
  rcases first with here | sign
  · rw [digit] at here
    cases here
  · exact minus sign

theorem scanScalar_numeral {cs rest : List Char} (number : IsNumeral cs)
    (delimited : Delimited rest) : scanScalar (cs ++ rest) = some (.number cs, rest) := by
  have scanned := scanNumber_append number delimited
  obtain ⟨c, more, rfl, first⟩ := number.head
  unfold scanScalar
  split
  · rename_i equal
    exact absurd (List.cons.inj equal).1 (ne_of_numeral first (by decide) (by decide))
  · rename_i equal
    exact absurd (List.cons.inj equal).1 (ne_of_numeral first (by decide) (by decide))
  · rename_i equal
    exact absurd (List.cons.inj equal).1 (ne_of_numeral first (by decide) (by decide))
  · rename_i equal
    exact absurd (List.cons.inj equal).1 (ne_of_numeral first (by decide) (by decide))
  · rw [scanned]
    rfl

end Document

/-! ## Scalars -/

/-- A value that is neither an array nor an object. -/
def IsScalar : Json → Prop
  | array _ => False
  | object _ => False
  | _ => True

theorem scalarText_real (value : Binary64) :
    (real value).scalarText = value.jsonText?.getD "null" := rfl

/-- The text of a scalar is scanned into its document. -/
theorem scanScalar_scalarText {value : Json} (scalar : value.IsScalar) {rest : List Char}
    (delimited : Delimited rest) :
    Document.scanScalar (value.scalarText.toList ++ rest) = some (value.document, rest) := by
  cases value with
  | null => rfl
  | boolean value => cases value <;> rfl
  | integer value => exact Document.scanScalar_numeral (Document.isNumeral_toString value) delimited
  | real value =>
      rw [scalarText_real, document]
      cases printed : value.jsonText? with
      | none => rfl
      | some text =>
          exact Document.scanScalar_numeral (Document.isNumeral_jsonText printed) delimited
  | string value =>
      show Document.scanScalar ((stringText value).toList ++ rest) = _
      rw [toList_stringText, List.cons_append, List.append_assoc]
      show (Document.scanString (rawText value ++ '"' :: rest)).map _ = _
      rw [Document.scanString_rawText]
      rfl
  | array items => cases scalar
  | object members => cases scalar

/-- A scalar begins with a character of its own. -/
theorem scalarText_head {value : Json} (scalar : value.IsScalar) :
    ∃ c more, value.scalarText.toList = c :: more ∧ Document.isSpace c = false ∧
      c ≠ ']' ∧ c ≠ '[' ∧ c ≠ '{' := by
  have numeral : ∀ cs, Document.IsNumeral cs → ∃ c more, cs = c :: more ∧
      Document.isSpace c = false ∧ c ≠ ']' ∧ c ≠ '[' ∧ c ≠ '{' := by
    intro cs number
    obtain ⟨c, more, split, first⟩ := number.head
    have other : ∀ mark : Char, mark.isDigit = false → mark ≠ '-' → c ≠ mark :=
      fun mark => Document.ne_of_numeral first
    refine ⟨c, more, split, ?_, other ']' (by decide) (by decide),
      other '[' (by decide) (by decide), other '{' (by decide) (by decide)⟩
    simp [Document.isSpace, other ' ' (by decide) (by decide), other '\n' (by decide) (by decide),
      other '\r' (by decide) (by decide), other '\t' (by decide) (by decide)]
  cases value with
  | null => exact ⟨'n', _, rfl, by decide⟩
  | boolean value =>
      cases value with
      | false => exact ⟨'f', _, rfl, by decide⟩
      | true => exact ⟨'t', _, rfl, by decide⟩
  | integer value => exact numeral _ (Document.isNumeral_toString value)
  | real value =>
      rw [scalarText_real]
      cases printed : value.jsonText? with
      | none => exact ⟨'n', _, rfl, by decide⟩
      | some text => exact numeral _ (Document.isNumeral_jsonText printed)
  | string value => exact ⟨'"', _, toList_stringText value, by decide⟩
  | array items => cases scalar
  | object members => cases scalar

/-! ## Values -/

section

variable {spacing : Spacing} {level : Nat}

theorem spaced_scalar {value : Json} (scalar : value.IsScalar) :
    spaced spacing level value = value.scalarText.toList := by
  cases value with
  | array items => cases scalar
  | object members => cases scalar
  | _ => rfl

theorem begins_spaced (value : Json) : Document.Begins (spaced spacing level value) := by
  have other : value.IsScalar → Document.Begins (spaced spacing level value) := by
    intro scalar
    rw [spaced_scalar scalar]
    obtain ⟨c, more, split, solid, bracket, -⟩ := scalarText_head scalar
    exact ⟨c, more, split, solid, bracket⟩
  cases value with
  | array items => cases items <;> exact ⟨'[', _, rfl, by decide, by decide⟩
  | object members =>
      cases members with
      | nil => exact ⟨'{', _, rfl, by decide, by decide⟩
      | cons first rest =>
          obtain ⟨name, value⟩ := first
          exact ⟨'{', _, rfl, by decide, by decide⟩
  | _ => exact other trivial

theorem delimited_line (closing : Char) (delimiter : isDelimiter closing = true)
    (rest : List Char) : Delimited (spacing.line level ++ closing :: rest) :=
  .of_allSpace (spacing.line_blank level) (delimited_cons delimiter rest)

theorem delimited_spacedItems (items : List Json) (rest : List Char) :
    Delimited (spacedItems spacing level items ++ rest) := by
  cases items with
  | nil =>
      rw [spacedItems, List.append_assoc]
      exact delimited_line ']' (by decide) rest
  | cons item items => exact delimited_cons (by decide) _

theorem delimited_spacedMembers (members : List (String × Json)) (rest : List Char) :
    Delimited (spacedMembers spacing level members ++ rest) := by
  cases members with
  | nil =>
      rw [spacedMembers, List.append_assoc]
      exact delimited_line '}' (by decide) rest
  | cons member members => exact delimited_cons (by decide) _

variable (spacing level)

/-- The text of a value is scanned into its document, given two steps for each
character. -/
def Scans (value : Json) : Prop :=
  ∀ steps rest, 2 * (spaced spacing level value).length ≤ steps → Delimited rest →
    Document.scanValue steps (spaced spacing level value ++ rest) = some (value.document, rest)

/-- The texts of an item and of those after it are scanned. -/
def ScansItems (item : Json) (items : List Json) : Prop :=
  ∀ steps spaces rest, (∀ c ∈ spaces, Document.isSpace c = true) →
    2 * ((spaced spacing (level + 1) item).length + (spacedItems spacing level items).length) + 1 ≤
      steps →
    Document.scanItems steps (spaces ++ (spaced spacing (level + 1) item ++
      (spacedItems spacing level items ++ rest))) =
        some (item.document :: documentItems items, rest)

/-- The texts of a member and of those after it are scanned. -/
def ScansMembers (name : String) (value : Json) (members : List (String × Json)) : Prop :=
  ∀ steps spaces rest, (∀ c ∈ spaces, Document.isSpace c = true) →
    2 * ((spaced spacing (level + 1) value).length +
      (spacedMembers spacing level members).length) + 1 ≤ steps →
    Document.scanMembers steps (spaces ++ ((stringText name).toList ++ ':' ::
      (spacing.gap ++ (spaced spacing (level + 1) value ++
        (spacedMembers spacing level members ++ rest))))) =
          some ((rawText name, value.document) :: documentMembers members, rest)

variable {spacing level}

theorem scans_scalar {value : Json} (scalar : value.IsScalar) : Scans spacing level value := by
  intro steps rest enough delimited
  rw [spaced_scalar scalar] at enough ⊢
  have scanned := scanScalar_scalarText scalar delimited
  obtain ⟨c, more, split, solid, -, bracket, brace⟩ := scalarText_head scalar
  rw [split, List.cons_append] at scanned ⊢
  rw [split, List.length_cons] at enough
  obtain ⟨steps, rfl⟩ : ∃ n, steps = n + 1 := ⟨steps - 1, by omega⟩
  rw [Document.scanValue.eq_2, Document.skipSpace_cons solid]
  split
  · rename_i equal
    exact absurd (List.cons.inj equal).1 bracket
  · rename_i equal
    exact absurd (List.cons.inj equal).1 brace
  · exact scanned

/-- An item is followed by a bracket, or by a comma and more items. -/
theorem scansItems_nil {item : Json} (first : Scans spacing (level + 1) item) :
    ScansItems spacing level item [] := by
  intro steps spaces rest blank enough
  obtain ⟨steps, rfl⟩ : ∃ n, steps = n + 1 := ⟨steps - 1, by omega⟩
  rw [Document.scanItems.eq_2, Document.scanValue_space blank,
    first steps _ (by omega) (delimited_spacedItems [] rest)]
  dsimp only
  rw [spacedItems, List.append_assoc, Document.skipSpace_append (spacing.line_blank level)]
  rfl

theorem scansItems_cons {item next : Json} {items : List Json}
    (first : Scans spacing (level + 1) item) (others : ScansItems spacing level next items) :
    ScansItems spacing level item (next :: items) := by
  intro steps spaces rest blank enough
  obtain ⟨steps, rfl⟩ : ∃ n, steps = n + 1 := ⟨steps - 1, by omega⟩
  rw [Document.scanItems.eq_2, Document.scanValue_space blank,
    first steps _ (by omega) (delimited_spacedItems (next :: items) rest)]
  dsimp only
  rw [spacedItems, List.length_cons, List.length_append, List.length_append] at enough
  rw [spacedItems, List.cons_append, Document.skipSpace_cons (by decide), List.append_assoc,
    List.append_assoc]
  show (Document.scanItems steps _).map _ = _
  rw [others steps (spacing.line (level + 1)) rest (spacing.line_blank _) (by omega)]
  rfl

/-- The name of a member, and its value. -/
theorem scanMembers_eq {steps : Nat} {spaces rest : List Char} (name : String) {value : Json}
    (blank : ∀ c ∈ spaces, Document.isSpace c = true) (first : Scans spacing (level + 1) value)
    (enough : 2 * (spaced spacing (level + 1) value).length ≤ steps) (delimited : Delimited rest) :
    Document.scanMembers (steps + 1) (spaces ++ ((stringText name).toList ++ ':' ::
      (spacing.gap ++ (spaced spacing (level + 1) value ++ rest)))) =
        match Document.skipSpace rest with
        | '}' :: rest => some ([(rawText name, value.document)], rest)
        | ',' :: rest => (Document.scanMembers steps rest).map fun (members, rest) =>
            ((rawText name, value.document) :: members, rest)
        | _ => none := by
  rewrite [toList_stringText, List.cons_append, List.append_assoc, List.singleton_append,
    Document.scanMembers_named blank (Document.scanString_rawText name _),
    Document.scanValue_space spacing.gap_blank, first steps rest enough delimited]
  rfl

theorem scansMembers_nil {name : String} {value : Json}
    (first : Scans spacing (level + 1) value) : ScansMembers spacing level name value [] := by
  intro steps spaces rest blank enough
  obtain ⟨steps, rfl⟩ : ∃ n, steps = n + 1 := ⟨steps - 1, by omega⟩
  rw [scanMembers_eq name blank first (by omega) (delimited_spacedMembers [] rest), spacedMembers,
    List.append_assoc, Document.skipSpace_append (spacing.line_blank level)]
  rfl

theorem scansMembers_cons {name next : String} {value other : Json}
    {members : List (String × Json)} (first : Scans spacing (level + 1) value)
    (others : ScansMembers spacing level next other members) :
    ScansMembers spacing level name value ((next, other) :: members) := by
  intro steps spaces rest blank enough
  obtain ⟨steps, rfl⟩ : ∃ n, steps = n + 1 := ⟨steps - 1, by omega⟩
  rw [scanMembers_eq name blank first (by omega) (delimited_spacedMembers _ rest)]
  simp only [spacedMembers, List.length_cons, List.length_append] at enough
  rw [spacedMembers, List.cons_append, Document.skipSpace_cons (by decide)]
  simp only [List.append_assoc, List.cons_append]
  rw [others steps (spacing.line (level + 1)) rest (spacing.line_blank _) (by omega)]
  rfl

/-- Brackets around items, or braces around members. -/
theorem scans_brackets : Scans spacing level (array []) ∧ Scans spacing level (object []) := by
  constructor <;>
  · intro steps rest enough delimited
    rw [spaced, List.length_cons] at enough
    obtain ⟨steps, rfl⟩ : ∃ n, steps = n + 1 := ⟨steps - 1, by omega⟩
    rfl

theorem scans_array {item : Json} {items : List Json}
    (scans : ScansItems spacing level item items) :
    Scans spacing level (array (item :: items)) := by
  intro steps rest enough delimited
  rw [spaced, List.length_cons, List.length_append, List.length_append] at enough
  obtain ⟨steps, rfl⟩ : ∃ n, steps = n + 1 := ⟨steps - 1, by omega⟩
  have scanned := scans steps [] rest (List.forall_mem_nil _) (by omega)
  have first : Document.Begins (spaced spacing (level + 1) item) := begins_spaced item
  have begins := first.append (spacedItems spacing level items ++ rest)
  rw [spaced, List.cons_append, List.append_assoc, List.append_assoc,
    Document.scanValue_items (spacing.line_blank _) begins]
  rw [List.nil_append] at scanned
  rw [scanned]
  rfl

theorem scans_object {name : String} {value : Json} {members : List (String × Json)}
    (scans : ScansMembers spacing level name value members) :
    Scans spacing level (object ((name, value) :: members)) := by
  intro steps rest enough delimited
  simp only [spaced, List.length_cons, List.length_append] at enough
  obtain ⟨steps, rfl⟩ : ∃ n, steps = n + 1 := ⟨steps - 1, by omega⟩
  have scanned := scans steps [] rest (List.forall_mem_nil _) (by omega)
  rw [spaced, List.cons_append, List.append_assoc, toList_stringText, List.cons_append,
    List.cons_append, Document.scanValue_members (spacing.line_blank _)]
  rw [List.nil_append, toList_stringText] at scanned
  simp only [List.append_assoc, List.cons_append] at scanned ⊢
  rw [scanned]
  rfl

mutual

/-- Every value is scanned from its text. -/
theorem scans_spaced (level : Nat) : ∀ value : Json, Scans spacing level value
  | array [] => scans_brackets.1
  | array (item :: items) =>
      scans_array (scansItems_spaced level items (scans_spaced (level + 1) item))
  | object [] => scans_brackets.2
  | object ((_, value) :: members) =>
      scans_object (scansMembers_spaced level members (scans_spaced (level + 1) value))
  | null => scans_scalar trivial
  | boolean _ => scans_scalar trivial
  | integer _ => scans_scalar trivial
  | real _ => scans_scalar trivial
  | string _ => scans_scalar trivial

theorem scansItems_spaced (level : Nat) : ∀ (items : List Json) {item : Json},
    Scans spacing (level + 1) item → ScansItems spacing level item items
  | [], _, first => scansItems_nil first
  | next :: items, _, first =>
      scansItems_cons first (scansItems_spaced level items (scans_spaced (level + 1) next))

theorem scansMembers_spaced (level : Nat) :
    ∀ (members : List (String × Json)) {name : String} {value : Json},
      Scans spacing (level + 1) value → ScansMembers spacing level name value members
  | [], _, _, first => scansMembers_nil first
  | (_, other) :: members, _, _, first =>
      scansMembers_cons first (scansMembers_spaced level members (scans_spaced (level + 1) other))

end

/-- A text that is a value with some spacing holds the document of the value. -/
theorem scan?_spaced (spacing : Spacing) (level : Nat) (value : Json) :
    Document.scan? (spaced spacing level value) = some value.document := by
  have scans : Scans spacing level value := scans_spaced level value
  have scanned := scans (2 * (spaced spacing level value).length + 2) [] (by omega)
    (fun c never => nomatch never)
  rw [List.append_nil] at scanned
  unfold Document.scan?
  rw [scanned]
  rfl

end

theorem scan?_compactText (value : Json) :
    Document.scan? value.compactText.toList = some value.document := by
  rw [toList_compactText 0]
  exact scan?_spaced .compact 0 value

theorem scan?_prettyText (value : Json) :
    Document.scan? value.prettyText.toList = some value.document := by
  unfold prettyText
  rw [toList_prettyTextAt]
  exact scan?_spaced .pretty 0 value

end Montage.Json
