import Montage.Json.Reader
import Montage.Proofs.Json.Scanning
import Montage.Proofs.Outcome

/-!
# Reading back what was written

A reader takes a value back if it finds it in the document of its JSON form
(`Reads`); it then also finds it in the texts of that form
(`Reads.ofText_compactText`, `Reads.ofText_prettyText`). A record is read back
if its members fill its fields in their order (`Fills.reads`).
-/

namespace Montage

/-- A number that is read back from the JSON text it is printed as. -/
def Binary64.ReadsBack (x : Binary64) : Prop :=
  (x.jsonText?.bind fun text => (Json.Number.ofLexeme? text.toList).map Json.Number.toBinary64) =
    some x

instance (x : Binary64) : Decidable x.ReadsBack := inferInstanceAs (Decidable (_ = some x))

namespace Json

variable {α : Type} {reader : Reader α} {json : Json} {value : α}

/-- A reader that finds a value in the document of its JSON form. -/
def Reads (reader : Reader α) (json : Json) (value : α) : Prop :=
  ∀ context : Context, context.encoding = .text → reader context json.document = .ok value

theorem Reads.ofText_compactText (reads : Reads reader json value) :
    ofText reader json.compactText = .ok value := by
  unfold ofText readChars
  rw [scan?_compactText]
  dsimp only
  rw [reads ⟨.text, false⟩ rfl]

theorem Reads.ofText_prettyText (reads : Reads reader json value) :
    ofText reader json.prettyText = .ok value := by
  unfold ofText readChars
  rw [scan?_prettyText]
  dsimp only
  rw [reads ⟨.text, false⟩ rfl]

/-! ## Scalars -/

theorem reads_boolean (value : Bool) : Reads .boolean (.boolean value) value := fun _ _ => rfl

theorem reads_textAs (wanted text : String) : Reads (.textAs wanted) (.string text) text := by
  rintro ⟨encoding, setAside⟩ rfl
  exact readText_rawText text

theorem reads_word (n : UInt32) : Reads .word (word n) n := by
  intro context _
  have lexeme : (toString (n.toNat : Int)).toList = Nat.toDigits 10 n.toNat :=
    toList_toString n.toNat
  have fits : n.toNat < UInt64.size := Nat.lt_trans n.toNat_lt (by decide)
  show Reader.word context (.number (toString (n.toNat : Int)).toList) = _
  rw [lexeme, Reader.word, readNumber, Number.ofLexeme?_toDigits fits]
  dsimp only
  have range : (decide ((0 : Int) ≤ n.toNat) && decide ((n.toNat : Int) < UInt32.size)) = true := by
    have bound := n.toNat_lt
    simp only [Bool.and_eq_true, decide_eq_true_eq, UInt32.size]
    omega
  rw [if_pos range]
  simp

theorem reads_real {x : Binary64} (back : x.ReadsBack) : Reads .real (.real x) x := by
  obtain ⟨text, printed, read⟩ := Option.bind_eq_some_iff.mp back
  obtain ⟨number, lexeme, same⟩ := Option.map_eq_some_iff.mp read
  intro context _
  rw [document, printed]
  show (readNumber text.toList).map Number.toBinary64 = _
  rw [readNumber, lexeme]
  exact congrArg Except.ok same

theorem reads_variant {variants : List (String × α)} {name : String}
    (known : variants.lookup name = some value) :
    Reads (.variant variants) (.string name) value := by
  rintro ⟨encoding, setAside⟩ rfl
  show Reader.variant variants ⟨.text, setAside⟩ (.string (rawText name)) = _
  unfold Reader.variant
  dsimp only
  rw [readText_rawText]
  dsimp only
  rw [Reader.variantNamed, known]

theorem reads_spelled {parse : String → Except String α} {text : String}
    (parses : parse text = .ok value) : Reads (.spelled parse) (.string text) value := by
  intro context textual
  have found : Reader.text context (string text).document = .ok text :=
    reads_textAs "a string" text context textual
  unfold Reader.spelled
  rw [found]
  dsimp only
  rw [parses]

/-! ## Composites -/

/-- A value that is not written as `null`. -/
def IsGiven (json : Json) : Prop := json.document ≠ .null

theorem Reads.optional (reads : Reads reader json value) (given : json.IsGiven) :
    Reads (.optional reader) json (some value) := by
  intro context textual
  have found := reads context textual
  unfold Reader.optional
  split
  · rename_i null
    exact absurd null given
  · rw [found]
    rfl

theorem isGiven_real {x : Binary64} (back : x.ReadsBack) : (real x).IsGiven := by
  obtain ⟨text, printed, -⟩ := Option.bind_eq_some_iff.mp back
  unfold IsGiven
  rw [document, printed]
  exact Document.noConfusion

theorem documentItems_eq_map (items : List Json) : documentItems items = items.map document := by
  induction items with
  | nil => rfl
  | cons item rest ih => rw [documentItems, ih, List.map_cons]

theorem reads_list {toJson : α → Json} {values : List α}
    (each : ∀ value ∈ values, Reads reader (toJson value) value) :
    Reads (.list reader) (.array (values.map toJson)) values := by
  intro context textual
  show (documentItems (values.map toJson)).mapM (reader context) = .ok values
  rw [documentItems_eq_map]
  induction values with
  | nil => rfl
  | cons value rest ih =>
      rw [List.forall_mem_cons] at each
      rw [List.map_cons, List.map_cons, List.mapM_cons]
      exact bind_ok_iff.mpr ⟨value, each.1 context textual,
        bind_ok_iff.mpr ⟨rest, ih each.2, rfl⟩⟩

/-! ## Records -/

section

variable {ρ : Type} {field : Field ρ} {fields : List (Field ρ)} {blank next last : ρ}
  {members : List (String × Json)} {name : String} {put : α → ρ → ρ}

/-- Members that fill the fields of a record one after the other. Fields that
need not be given may be left out. -/
inductive Fills : List (Field ρ) → ρ → List (String × Json) → ρ → Prop where
  | nil (last : ρ) : Fills [] last [] last
  | left {field : Field ρ} {fields : List (Field ρ)} {blank last : ρ}
      {members : List (String × Json)} (optional : field.required = false)
      (fills : Fills fields blank members last) : Fills (field :: fields) blank members last
  | given {field : Field ρ} {fields : List (Field ρ)} {blank next last : ρ} {json : Json}
      {members : List (String × Json)}
      (reads : ∀ context : Context, context.encoding = .text →
        field.read context json.document blank = .ok next)
      (fills : Fills fields next members last) :
      Fills (field :: fields) blank ((field.name, json) :: members) last

/-- A member for a field. -/
theorem Fills.needed (reads : Reads reader json value)
    (fills : Fills fields (put value blank) members last) :
    Fills (.needed name reader put :: fields) blank ((name, json) :: members) last := by
  refine .given (fun context textual => ?_) fills
  show (reader context json.document).map _ = _
  rw [reads context textual]
  rfl

theorem Fills.defaulted (reads : Reads reader json value)
    (fills : Fills fields (put value blank) members last) :
    Fills (.defaulted name reader put :: fields) blank ((name, json) :: members) last := by
  refine .given (fun context textual => ?_) fills
  show (reader context json.document).map _ = _
  rw [reads context textual]
  rfl

/-- A member for a field that may be left out with its value. -/
theorem Fills.optional {toJson : α → Json} (value? : Option α) {put : Option α → ρ → ρ}
    (reads : ∀ value ∈ value?, Reads reader (toJson value) value)
    (given : ∀ value ∈ value?, (toJson value).IsGiven)
    (unset : put none blank = blank) (fills : Fills fields (put value? blank) members last) :
    Fills (.defaulted name (.optional reader) put :: fields) blank
      (member? name toJson value? ++ members) last := by
  cases value? with
  | none =>
      rw [unset] at fills
      exact .left rfl fills
  | some value =>
      exact .defaulted ((reads value rfl).optional (given value rfl)) fills

/-- Every field that must be given is among the names read. -/
def Completes (fields : List (Field ρ)) (seen : List String) : Prop :=
  ∀ field ∈ fields, field.required = true → field.name ∈ seen

theorem find?_name {fields : List (Field ρ)} (distinct : (fields.map (·.name)).Nodup)
    (here : field ∈ fields) : fields.find? (·.name == field.name) = some field := by
  induction fields with
  | nil => cases here
  | cons first rest ih =>
      rw [List.map_cons, List.nodup_cons] at distinct
      rcases List.mem_cons.mp here with rfl | there
      · simp
      · have other : first.name ≠ field.name := by
          intro same
          exact distinct.1 (List.mem_map.mpr ⟨field, there, same.symm⟩)
        rw [List.find?_cons_of_neg (by simpa using other)]
        exact ih distinct.2 there

/-- A member with the name of a field is read into that field. -/
theorem readMembers_member {record : Record ρ} (distinct : (record.fields.map (·.name)).Nodup)
    (here : field ∈ record.fields) {seen : List String} (new : field.name ∉ seen)
    {context : Context} (textual : context.encoding = .text) {document : Document}
    (found : field.read context document blank = .ok next) (rest : List (List Char × Document)) :
    record.readMembers context blank seen ((rawText field.name, document) :: rest) =
      record.readMembers context next (field.name :: seen) rest := by
  rw [Record.readMembers, textual, readText_rawText]
  dsimp only [bind, Except.bind]
  rw [find?_name distinct here]
  dsimp only
  rw [if_neg (by simpa using new), found]

/-- What members read into a record, given what was read before them. -/
theorem Fills.readMembers {record : Record ρ} (distinct : (record.fields.map (·.name)).Nodup)
    {context : Context} (textual : context.encoding = .text) {remaining : List (Field ρ)}
    (fills : Fills remaining blank members last) :
    ∀ {done : List (Field ρ)} {seen : List String}, record.fields = done ++ remaining →
      Completes done seen → (∀ field ∈ remaining, field.name ∉ seen) →
      ∃ all, record.readMembers context blank seen (documentMembers members) = .ok (last, all) ∧
        Completes record.fields all := by
  induction fills with
  | nil last =>
      intro done seen split complete fresh
      rw [List.append_nil] at split
      exact ⟨seen, rfl, split ▸ complete⟩
  | @left field fields _ _ _ optional _ ih =>
      intro done seen split complete fresh
      have split' : record.fields = (done ++ [field]) ++ fields := by
        rw [split, List.append_assoc]
        rfl
      refine ih split' ?_ fun other member => fresh other (List.mem_cons_of_mem _ member)
      intro other member required
      rcases List.mem_append.mp member with before | here
      · exact complete other before required
      · rw [List.mem_singleton.mp here, optional] at required
        cases required
  | @given field fields _ next _ json members reads _ ih =>
      intro done seen split complete fresh
      have here : field ∈ record.fields := by
        rw [split]
        exact List.mem_append_right _ List.mem_cons_self
      have new : field.name ∉ seen := fresh field List.mem_cons_self
      have alone : field.name ∉ fields.map (·.name) := by
        rw [split, List.map_append, List.map_cons] at distinct
        exact (List.nodup_cons.mp (List.nodup_append.mp distinct).2.1).1
      have complete' : Completes (done ++ [field]) (field.name :: seen) := by
        intro other member required
        rcases List.mem_append.mp member with before | same
        · exact List.mem_cons_of_mem _ (complete other before required)
        · rw [List.mem_singleton.mp same]
          exact List.mem_cons_self
      have fresh' : ∀ other ∈ fields, other.name ∉ field.name :: seen := by
        intro other member read
        rcases List.mem_cons.mp read with same | before
        · exact alone (List.mem_map.mpr ⟨other, member, same⟩)
        · exact fresh other (List.mem_cons_of_mem _ member) before
      obtain ⟨all, read, completes⟩ := ih (by rw [split, List.append_assoc]; rfl) complete' fresh'
      refine ⟨all, ?_, completes⟩
      rw [documentMembers, readMembers_member distinct here new textual (reads context textual)]
      exact read

/-- Members that fill the fields of a record are read as the record. -/
theorem Fills.ofMembers {record : Record ρ} (distinct : (record.fields.map (·.name)).Nodup)
    (fills : Fills record.fields record.blank members last) {context : Context}
    (textual : context.encoding = .text) :
    record.ofMembers context (documentMembers members) = .ok last := by
  have nothing : Completes ([] : List (Field ρ)) [] := fun _ never => nomatch never
  obtain ⟨all, read, completes⟩ := fills.readMembers distinct textual (List.nil_append _).symm
    nothing (fun _ _ never => nomatch never)
  have none : record.missing? all = none := by
    unfold Record.missing?
    rw [Option.map_eq_none_iff, List.find?_eq_none]
    intro field member
    have given := completes field member
    simpa using given
  refine bind_ok_iff.mpr ⟨(last, all), read, ?_⟩
  dsimp only
  rw [none]
  rfl

theorem Fills.reads {record : Record ρ} (distinct : (record.fields.map (·.name)).Nodup)
    (fills : Fills record.fields record.blank members last) :
    Reads record.reader (.object members) last :=
  fun _ textual => fills.ofMembers distinct textual

end

end Json

end Montage
