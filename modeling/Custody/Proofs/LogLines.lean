import Custody.Log.Json
import Custody.Proofs.Json.Reader
import Mathlib.Algebra.Field.Rat
import Mathlib.Data.List.Basic

/-!
# Log lines are JSON texts

The line for programs is a JSON object without a control character in it, and what it denotes is
the entry: `Entry.document`. Each part of the line is shown to be free of control characters and to
denote what it should (`Denoted`), and the parts are put together as the grammar puts parts
together: numbers in decimal, strings with their escapes, members without blanks around them.
-/

namespace Custody

open Json

/-! ## Digits -/

theorem decimal_toDigits (n : Nat) : decimal (Nat.toDigits 10 n) = n :=
  Nat.ofDigitChars_ten_toDigits

/-- No zero leads the decimal digits of a number. -/
theorem whole_toDigits (n : Nat) : Whole (Nat.toDigits 10 n) := by
  refine ⟨⟨Nat.toDigits_ne_nil, fun c mem => ?_⟩, ?_⟩
  · exact Nat.isDigit_of_mem_toDigits (by omega) (by omega) mem
  induction n using Nat.strongRecOn with
  | ind n ih =>
    by_cases small : n < 10
    · rw [Nat.toDigits_of_lt_base small]
      simp
    · -- The digits of the tenth come first, and they are not a zero alone.
      rw [Nat.toDigits_of_base_le (by omega) (by omega),
        List.head?_append_of_ne_nil _ Nat.toDigits_ne_nil]
      intro leads
      have zero := congrArg decimal (ih (n / 10) (by omega) leads)
      rw [decimal_toDigits] at zero
      have none : decimal ['0'] = 0 := rfl
      omega

theorem magnitude_toDigits (n : Nat) : Magnitude (Nat.toDigits 10 n) n := by
  have denoted : scaled (Nat.toDigits 10 n) 0 0 = n := by simp [scaled, decimal_toDigits]
  have magnitude := Magnitude.intro (whole_toDigits n) .none .none
  simp only [List.append_nil, List.length_nil] at magnitude
  rwa [denoted] at magnitude

theorem hexDigit?_digitChar : ∀ d < 16, hexDigit? (Nat.digitChar d) = some d := by decide

theorem codeUnit?_fourDigits {n : Nat} (small : n < 0x10000) :
    codeUnit? (Nat.digitChar (n / 4096 % 16)) (Nat.digitChar (n / 256 % 16))
      (Nat.digitChar (n / 16 % 16)) (Nat.digitChar (n % 16)) = some n := by
  simp only [codeUnit?, hexDigit?_digitChar _ (Nat.mod_lt _ (show 0 < 16 by omega))]
  show some _ = some n
  congr 1
  omega

namespace Log

/-! ## Control characters -/

theorem isControl_iff {c : Char} :
    isControl c = true ↔ c.toNat ≤ 0x1F ∨ (0x7F ≤ c.toNat ∧ c.toNat ≤ 0x9F) := by
  simp only [isControl, Bool.or_eq_true, Bool.and_eq_true, decide_eq_true_eq]
  omega

theorem isControl_digitChar : ∀ d < 16, isControl (Nat.digitChar d) = false := by decide

theorem isControl_of_isDigit {c : Char} (digit : c.isDigit = true) : isControl c = false := by
  simp only [Char.isDigit, Bool.and_eq_true, decide_eq_true_eq, ge_iff_le,
    UInt32.le_iff_toNat_le] at digit
  rw [← Bool.not_eq_true, isControl_iff]
  change 48 ≤ c.toNat ∧ c.toNat ≤ 57 at digit
  omega

/-- No control character stands in a text. -/
def Clean (cs : List Char) : Prop := ∀ c ∈ cs, isControl c = false

instance (cs : List Char) : Decidable (Clean cs) :=
  List.decidableBAll (fun c => isControl c = false) cs

theorem clean_cons {c : Char} {cs : List Char} :
    Clean (c :: cs) ↔ isControl c = false ∧ Clean cs :=
  List.forall_mem_cons

theorem clean_append {cs ds : List Char} : Clean (cs ++ ds) ↔ Clean cs ∧ Clean ds :=
  List.forall_mem_append

theorem clean_intercalate {parts : List (List Char)} (clean : ∀ part ∈ parts, Clean part) :
    Clean ([','].intercalate parts) := by
  induction parts with
  | nil => decide
  | cons part parts ih =>
    have first := clean part (List.mem_cons_self ..)
    have others := ih fun part mem => clean part (List.mem_cons_of_mem _ mem)
    cases parts with
    | nil => simpa using first
    | cons next parts =>
      rw [List.intercalate_cons_cons, clean_append, clean_append]
      exact ⟨⟨first, by decide⟩, others⟩

/-! ## Strings -/

/-- A character stands in a string as an escape of one letter, as the escape of a control
character, or for itself. -/
theorem jsonChar_cases (c : Char) :
    (∃ letter, jsonChar c = ['\\', letter] ∧ escaped? letter = some c ∧
        isControl letter = false) ∨
      (jsonChar c = '\\' :: 'u' :: Text.Hex.fourDigits c.toNat ∧ isControl c = true) ∨
      (jsonChar c = [c] ∧ isControl c = false ∧ c ≠ '"' ∧ c ≠ '\\') := by
  by_cases quote : c = '"'
  · subst quote
    exact .inl ⟨'"', rfl, rfl, rfl⟩
  by_cases backslash : c = '\\'
  · subst backslash
    exact .inl ⟨'\\', rfl, rfl, rfl⟩
  by_cases feed : c = '\n'
  · subst feed
    exact .inl ⟨'n', rfl, rfl, rfl⟩
  by_cases back : c = '\r'
  · subst back
    exact .inl ⟨'r', rfl, rfl, rfl⟩
  by_cases tab : c = '\t'
  · subst tab
    exact .inl ⟨'t', rfl, rfl, rfl⟩
  right
  cases control : isControl c with
  | true =>
    left
    simp [jsonChar, quote, backslash, feed, back, tab, control]
  | false => exact .inr ⟨jsonChar_self quote backslash control, rfl, quote, backslash⟩

theorem letter_jsonChar (c : Char) : Letter (jsonChar c) c := by
  obtain ⟨letter, short, escaped, -⟩ | ⟨long, control⟩ | ⟨plain, control, quote, backslash⟩ :=
    jsonChar_cases c
  · rw [short]
    exact .escape escaped
  · have range := isControl_iff.1 control
    have unit := Letter.unit (codeUnit?_fourDigits (show c.toNat < 0x10000 by omega))
      (by simp [isHigh, isLow]; omega)
    rwa [Char.ofNat_toNat, ← Text.Hex.fourDigits, ← long] at unit
  · rw [plain]
    rw [← Bool.not_eq_true, isControl_iff] at control
    refine .plain ?_
    simp only [isUnescaped, Bool.and_eq_true, decide_eq_true_eq]
    exact ⟨⟨by omega, quote⟩, backslash⟩

theorem letters_jsonChars (cs : List Char) : Letters (jsonChars cs) cs := by
  induction cs with
  | nil => exact .nil
  | cons c cs ih => exact .cons (letter_jsonChar c) ih

theorem literal_jsonString (text : String) : Literal (jsonString text).toList text := by
  have literal := Literal.intro (letters_jsonChars text.toList)
  rw [String.ofList_toList] at literal
  simpa [jsonString] using literal

theorem clean_jsonChar (c : Char) : Clean (jsonChar c) := by
  obtain ⟨letter, short, -, control⟩ | ⟨long, -⟩ | ⟨plain, control, -⟩ := jsonChar_cases c
  · rw [short]
    exact clean_cons.2 ⟨rfl, clean_cons.2 ⟨control, by decide⟩⟩
  · have digit (m : Nat) := isControl_digitChar (m % 16) (Nat.mod_lt m (by omega))
    rw [long, clean_cons, clean_cons]
    refine ⟨rfl, rfl, ?_⟩
    simp [Clean, Text.Hex.fourDigits, digit]
  · rw [plain]
    simp [Clean, control]

theorem clean_jsonString (text : String) : Clean (jsonString text).toList := by
  have inner : Clean (jsonChars text.toList) := by
    intro c mem
    obtain ⟨d, -, mem⟩ := List.mem_flatMap.1 mem
    exact clean_jsonChar d c mem
  simp only [jsonString, String.toList_append, String.toList_ofList, clean_append]
  exact ⟨⟨by decide, inner⟩, by decide⟩

/-! ## Values -/

/-- A text without control characters that denotes a value. -/
structure Denoted (cs : List Char) (v : Json) : Prop where
  value : Value cs v
  clean : Clean cs

theorem denoted_string (text : String) : Denoted (jsonString text).toList (.string text) where
  value := .string (literal_jsonString text)
  clean := clean_jsonString text

theorem clean_toDigits (n : Nat) : Clean (Nat.toDigits 10 n) := by
  intro c mem
  exact isControl_of_isDigit ((whole_toDigits n).1.2 c mem)

theorem toList_repr (n : Nat) : n.repr.toList = Nat.toDigits 10 n := String.toList_ofList

theorem denoted_nat (n : Nat) : Denoted (toString n).toList (.number n) := by
  show Denoted n.repr.toList _
  rw [toList_repr]
  exact ⟨.number (.plain (magnitude_toDigits n)), clean_toDigits n⟩

theorem denoted_int (i : Int) : Denoted (toString i).toList (.number i) := by
  show Denoted i.repr.toList _
  rw [Int.repr_eq_if]
  by_cases sign : 0 ≤ i
  · obtain ⟨n, rfl⟩ := Int.eq_ofNat_of_zero_le sign
    rw [if_pos sign, Int.toNat_natCast, Int.cast_natCast]
    exact denoted_nat n
  · obtain ⟨n, opposite⟩ := Int.eq_ofNat_of_zero_le (show 0 ≤ -i by omega)
    rw [if_neg sign, String.toList_append, opposite, Int.toNat_natCast, toList_repr,
      show i = -(n : Int) by omega, Int.cast_neg, Int.cast_natCast]
    exact ⟨.number (.negative (magnitude_toDigits n)), clean_cons.2 ⟨rfl, clean_toDigits n⟩⟩

/-- What a field value is as a JSON value. -/
def FieldValue.document : FieldValue → Json
  | text value => .string value
  | unsigned value => .number value.toNat
  | signed value => .number value.toInt
  | flag value => .bool value

theorem denoted_fieldValue (v : FieldValue) : Denoted v.json.toList v.document := by
  cases v with
  | text value => exact denoted_string value
  | unsigned value => exact denoted_nat value.toNat
  | signed value => exact denoted_int value.toInt
  | flag value =>
    cases value with
    | true => exact ⟨.word (.tail _ (.head _)), by decide⟩
    | false => exact ⟨.word (.tail _ (.tail _ (.head _))), by decide⟩

/-! ## Members -/

/-- A member without blanks around its parts. -/
def tight (key : String) (text : List Char) (value : Json) : Member where
  before := []
  name := (jsonString key).toList
  between := []
  element := ⟨[], text, [], value, blank_nil, blank_nil⟩
  key := key
  blanks := ⟨blank_nil, blank_nil⟩
  named := literal_jsonString key

theorem spelled_tight (key : String) (text : List Char) (value : Json) :
    (tight key text value).spelled = (jsonString key ++ ":").toList ++ text := by
  simp [tight, Member.spelled, Element.spelled]

/-- A member is written without blanks, and what it holds is denoted. -/
inductive Written : Member → Prop
  | intro (key : String) {text : List Char} {value : Json} (denoted : Denoted text value) :
      Written (tight key text value)

theorem Written.clean {m : Member} (h : Written m) : Clean m.spelled := by
  obtain ⟨key, denoted⟩ := h
  rw [spelled_tight, String.toList_append, clean_append, clean_append]
  exact ⟨⟨clean_jsonString key, by decide⟩, denoted.clean⟩

theorem Written.value {m : Member} (h : Written m) : Value m.element.text m.element.value := by
  obtain ⟨key, denoted⟩ := h
  exact denoted.value

/-- An object of such members. -/
theorem denoted_object {members : List Member} (some : members ≠ [])
    (written : ∀ m ∈ members, Written m) :
    Denoted (bracketed '{' '}' (members.map Member.spelled))
      (.object (members.map Member.pair)) where
  value := .object some fun m mem => (written m mem).value
  clean := by
    have inner : Clean ([','].intercalate (members.map Member.spelled)) := by
      refine clean_intercalate fun part mem => ?_
      obtain ⟨m, member, rfl⟩ := List.mem_map.1 mem
      exact (written m member).clean
    exact clean_cons.2 ⟨rfl, clean_append.2 ⟨inner, by decide⟩⟩

/-- The member of a field. -/
def fieldMember (f : String × FieldValue) : Member := tight f.1 f.2.json.toList f.2.document

/-- The member of a text. -/
def textMember (key text : String) : Member := tight key (jsonString text).toList (.string text)

/-- What fields are as a JSON value: a member for each, in their order. -/
def fieldsDocument (fields : List (String × FieldValue)) : Json :=
  .object (fields.map fun f => (f.1, f.2.document))

/-- The text of the object of fields. -/
def fieldsText (fields : List (String × FieldValue)) : List Char :=
  bracketed '{' '}' ((fields.map fieldMember).map Member.spelled)

theorem denoted_fields {fields : List (String × FieldValue)} (some : fields ≠ []) :
    Denoted (fieldsText fields) (fieldsDocument fields) := by
  have members : fields.map fieldMember ≠ [] := by simpa using some
  have object := denoted_object members fun m mem => by
    obtain ⟨f, -, rfl⟩ := List.mem_map.1 mem
    exact .intro f.1 (denoted_fieldValue f.2)
  have pairs : (fields.map fieldMember).map Member.pair =
      fields.map fun f => (f.1, f.2.document) := List.map_map
  rwa [pairs] at object

namespace Entry

/-- What an entry is as a JSON value: the target and the thread are members if they are known,
and the fields if there are any. -/
def document (e : Entry) : Json :=
  .object (
    [("timestamp", .number e.timestamp.toNat), ("level", .string e.level.name)] ++
    e.target.toList.map (fun target => ("target", .string target)) ++
    e.thread.toList.map (fun thread => ("thread", .string thread)) ++
    [("message", .string e.message)] ++
    if e.fields = [] then [] else [("fields", fieldsDocument e.fields)])

/-- The members of the line. -/
def members (e : Entry) : List Member :=
  tight "timestamp" (toString e.timestamp.toNat).toList (.number e.timestamp.toNat) ::
    (textMember "level" e.level.name ::
      (e.target.toList.map (textMember "target") ++ e.thread.toList.map (textMember "thread") ++
        [textMember "message" e.message] ++
        if e.fields = [] then []
        else [tight "fields" (fieldsText e.fields) (fieldsDocument e.fields)]))

theorem written_members (e : Entry) : ∀ m ∈ e.members, Written m := by
  intro m mem
  simp only [members, List.mem_cons, List.mem_append, List.mem_map, List.not_mem_nil,
    or_false] at mem
  obtain rfl | rfl | ((⟨target, -, rfl⟩ | ⟨thread, -, rfl⟩) | rfl) | field := mem
  · exact .intro "timestamp" (denoted_nat e.timestamp.toNat)
  · exact .intro "level" (denoted_string e.level.name)
  · exact .intro "target" (denoted_string target)
  · exact .intro "thread" (denoted_string thread)
  · exact .intro "message" (denoted_string e.message)
  · by_cases none : e.fields = []
    · rw [if_pos none] at field
      cases field
    · rw [if_neg none] at field
      obtain rfl := List.mem_singleton.1 field
      exact .intro "fields" (denoted_fields none)

theorem pair_members (e : Entry) : .object (e.members.map Member.pair) = e.document := by
  by_cases none : e.fields = [] <;>
    simp [members, document, none, textMember, tight, Member.pair, Function.comp_def]

/-- Behind the first part, each part stands behind a comma. -/
theorem intercalate_cons (part : List Char) (parts : List (List Char)) :
    [','].intercalate (part :: parts) = part ++ parts.flatMap (',' :: ·) := by
  induction parts generalizing part with
  | nil => simp
  | cons next parts ih => simp [ih]

theorem toList_jsonMember (name : String) (value : Option String) :
    (jsonMember name value).toList =
      (value.toList.map (textMember name)).flatMap (',' :: ·.spelled) := by
  cases value with
  | none => rfl
  | some value => simp [jsonMember, textMember, spelled_tight]

theorem toList_jsonFields (fields : List (String × FieldValue)) :
    (jsonFields fields).toList =
      (if fields = [] then []
        else [tight "fields" (fieldsText fields) (fieldsDocument fields)]).flatMap
          (',' :: ·.spelled) := by
  cases fields with
  | nil => rfl
  | cons f fields =>
    have opening : ",\"fields\":\x7b".toList =
        ',' :: (jsonString "fields" ++ ":").toList ++ ['{'] := by decide
    have closing : "\x7d".toList = ['}'] := by decide
    have parts : ((f :: fields).map fun f => jsonString f.1 ++ ":" ++ f.2.json).map String.toList =
        ((f :: fields).map fieldMember).map Member.spelled := by
      simp [fieldMember, spelled_tight]
    show (",\"fields\":\x7b" ++
      ",".intercalate ((f :: fields).map fun f => jsonString f.1 ++ ":" ++ f.2.json) ++
      "\x7d").toList = _
    rw [String.toList_append, String.toList_append, String.toList_intercalate, parts,
      opening, closing, if_neg (List.cons_ne_nil f fields)]
    simp [fieldsText, bracketed, spelled_tight]

/-- The line is the object of the members. -/
theorem toList_json (e : Entry) :
    e.json.toList = bracketed '{' '}' (e.members.map Member.spelled) := by
  have opening : "\x7b\"timestamp\":".toList = '{' :: (jsonString "timestamp" ++ ":").toList := by
    decide
  have level : ",\"level\":".toList = ',' :: (jsonString "level" ++ ":").toList := by decide
  have closing : "\x7d".toList = ['}'] := by decide
  unfold json
  -- The braces and the names that stand in the line as they are become those of the members.
  simp only [String.toList_append, toList_jsonMember, toList_jsonFields]
  rw [opening, level, closing]
  simp only [members, textMember, bracketed, List.map_cons, List.map_append, List.map_nil,
    intercalate_cons, List.flatMap_cons, List.flatMap_append, List.flatMap_map, spelled_tight,
    String.toList_append, List.append_assoc, List.cons_append, Option.toList_some, List.flatMap_nil,
    List.nil_append]

theorem denoted_json (e : Entry) : Denoted e.json.toList e.document := by
  rw [toList_json, ← pair_members]
  exact denoted_object (by simp [members]) e.written_members

/-- **A log line for programs is one JSON object, without a control character in it, that says all
that the entry holds.** The line denotes the document of the entry and nothing else, so every
reader that conforms reads the document back: the members in their order, the fields in the order
in which they were added, repeated names included. -/
theorem json_read_back (e : Entry) :
    (∀ c ∈ e.json.toList, ¬ (c.toNat ≤ 0x1F ∨ (0x7F ≤ c.toNat ∧ c.toNat ≤ 0x9F))) ∧
      Value e.json.toList e.document ∧
      (∀ v, Denotes e.json v ↔ v = e.document) ∧
      ∀ read, Conforms read → read e.json = some e.document := by
  obtain ⟨value, clean⟩ := e.denoted_json
  have denotes := value.denotes
  refine ⟨fun c mem control => ?_, value, fun v => ⟨fun other => ?_, ?_⟩, fun read conforms => ?_⟩
  · exact absurd (isControl_iff.2 control) (by simp [clean c mem])
  · exact Denotes.unique other denotes
  · rintro rfl
    exact denotes
  · exact conforms e.json e.document denotes

/-- An entry with a repeated name, and with characters that need escapes in all places. -/
def awkward : Entry where
  level := .warn
  message := "say \"\\\n\""
  fields := [("k\x07", .signed (-3)), ("k\x07", .flag true), ("", .text "\u0085é")]
  timestamp := 1700000000000
  target := some "tether\t"

theorem json_read_back_awkward :
    Conforms read? ∧ read? awkward.json = some awkward.document ∧
      awkward.json =
        "\x7b\"timestamp\":1700000000000,\"level\":\"WARN\",\"target\":\"tether\\t\"," ++
          "\"message\":\"say \\\"\\\\\\n\\\"\",\"fields\":\x7b\"k\\u0007\":-3," ++
          "\"k\\u0007\":true,\"\":\"\\u0085é\"\x7d\x7d" :=
  ⟨conforms_read?, (json_read_back awkward).2.2.2 read? conforms_read?, by decide⟩

end Entry

end Log

end Custody
