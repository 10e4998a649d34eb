import Custody.Config.Environment
import Mathlib.Data.List.TakeWhile

/-!
# What the environment sets

A variable of the environment that is set to a text may write a number or spell a keyword, and what
it says may be in the range of its field or not. `Variable.Sets` is the rule for this, one case for
each variable, in terms of the text alone: it knows nothing of how texts are read. A number is
written as decimal digits with blanks around them and perhaps a plus sign before
(`Decimal.Writes`), and a keyword is spelled in letters of any case.

A configuration obeys an environment in a field if the field is what the variable sets it to, or is
the default where the variable sets it to nothing. There is exactly one configuration that obeys an
environment in all fields, it is valid, and each field of it hangs on its own variable alone, but
for the capacity, which has to hold a chunk of the size that was accepted:
`RuntimeConfig.ofEnvironment_obeys`.
-/

namespace Custody

namespace Text

/-! ## Keywords -/

section Keyword

variable {α : Type} {choices : List (String × α)} {text : String} {a : α}

/-- Where no keyword is listed twice, a text chooses what it spells in lower case. -/
theorem keyword?_eq_some_iff (distinct : (choices.map (·.1)).Nodup) :
    keyword? choices text = some a ↔ (text.toLower, a) ∈ choices := by
  induction choices with
  | nil => simp [keyword?]
  | cons choice rest ih =>
    obtain ⟨fresh, distinct⟩ := List.nodup_cons.1 distinct
    unfold keyword? at ih ⊢
    rw [List.find?_cons, List.mem_cons]
    by_cases here : choice.1 = text.toLower
    · have other : (text.toLower, a) ∉ rest := fun member =>
        fresh (List.mem_map.2 ⟨_, member, here.symm⟩)
      simp only [here, beq_self_eq_true, Option.map_some, Option.some.injEq, other, or_false]
      rw [← here]
      exact ⟨fun same => same ▸ rfl, fun same => (congrArg Prod.snd same).symm⟩
    · have other : (text.toLower, a) ≠ choice := fun same => here (same ▸ rfl)
      simp only [beq_eq_false_iff_ne.2 here, other, false_or]
      exact ih distinct

end Keyword

/-! ## Blanks -/

section Blanks

variable {cs before middle after : List Char}

/-- What is trimmed off a text are blanks before and behind the rest. -/
theorem exists_append_trimBlanks (cs : List Char) :
    ∃ before after, cs = before ++ trimBlanks cs ++ after ∧ (∀ c ∈ before, isBlank c = true) ∧
      ∀ c ∈ after, isBlank c = true := by
  let tail := (cs.dropWhile isBlank).reverse
  refine ⟨cs.takeWhile isBlank, (tail.takeWhile isBlank).reverse, ?_, ?_, ?_⟩
  · have rest : trimBlanks cs ++ (tail.takeWhile isBlank).reverse = cs.dropWhile isBlank := by
      show (tail.dropWhile isBlank).reverse ++ _ = _
      rw [← List.reverse_append, List.takeWhile_append_dropWhile, List.reverse_reverse]
    rw [List.append_assoc, rest, List.takeWhile_append_dropWhile]
  · exact fun c member => List.mem_takeWhile_imp member
  · exact fun c member => List.mem_takeWhile_imp (List.mem_reverse.1 member)

/-- Blanks before a text that begins with another character are dropped. -/
theorem dropWhile_isBlank_append (blank : ∀ c ∈ before, isBlank c = true)
    (bare : ∀ c ∈ middle.head?, isBlank c = false) :
    (before ++ middle).dropWhile isBlank = middle := by
  rw [List.dropWhile_append_of_pos blank]
  cases middle with
  | nil => rfl
  | cons c rest => exact List.dropWhile_cons_of_neg (by simp [bare c rfl])

/-- Blanks around a text without blanks are trimmed off. -/
theorem trimBlanks_append (blankBefore : ∀ c ∈ before, isBlank c = true)
    (blankAfter : ∀ c ∈ after, isBlank c = true) (bare : ∀ c ∈ middle, isBlank c = false)
    (some : middle ≠ []) : trimBlanks (before ++ middle ++ after) = middle := by
  have front : (before ++ (middle ++ after)).dropWhile isBlank = middle ++ after := by
    refine dropWhile_isBlank_append blankBefore fun c first => bare c ?_
    rw [List.head?_append, Option.or_of_isSome (List.isSome_head?.2 some)] at first
    exact List.mem_of_mem_head? first
  have back : (after.reverse ++ middle.reverse).dropWhile isBlank = middle.reverse :=
    dropWhile_isBlank_append (by simpa using blankAfter) fun c first =>
      bare c (List.mem_reverse.1 (List.mem_of_mem_head? first))
  unfold trimBlanks
  rw [List.append_assoc, front, List.reverse_append, back, List.reverse_reverse]

end Blanks

/-! ## Numbers -/

namespace Decimal

/-- Characters that write a number: at least one decimal digit, with blanks around and perhaps a
plus sign before. -/
inductive Writes : List Char → Nat → Prop
  | intro {before sign digits after : List Char} (blankBefore : ∀ c ∈ before, isBlank c = true)
      (signed : sign = [] ∨ sign = ['+']) (some : digits ≠ [])
      (decimal : ∀ c ∈ digits, c.isDigit = true) (blankAfter : ∀ c ∈ after, isBlank c = true) :
      Writes (before ++ (sign ++ digits) ++ after) (Nat.ofDigitChars 10 digits 0)

variable {cs digits : List Char} {c : Char} {n d seen bound : Nat}

theorem digit?_eq_some_iff : digit? c = some d ↔ c.isDigit = true ∧ d = c.toNat - '0'.toNat := by
  have range : ('0' ≤ c ∧ c ≤ '9') ↔ c.isDigit = true := by
    unfold Char.isDigit
    rw [Bool.and_eq_true, decide_eq_true_iff, decide_eq_true_iff]
    rfl
  unfold digit?
  by_cases digit : '0' ≤ c ∧ c ≤ '9'
  · rw [if_pos digit, Option.some.injEq]
    exact ⟨fun same => ⟨range.1 digit, same.symm⟩, fun h => h.2.symm⟩
  · rw [if_neg digit]
    exact ⟨nofun, fun h => absurd (range.2 h.1) digit⟩

/-- A run of characters is read if all are digits, as the number that they stand for. -/
theorem readDigits_eq_some_iff :
    readDigits seen cs = some n ↔
      (∀ c ∈ cs, c.isDigit = true) ∧ n = Nat.ofDigitChars 10 cs seen := by
  induction cs generalizing seen with
  | nil => exact ⟨fun same => ⟨nofun, (Option.some.inj same).symm⟩, fun h => congrArg _ h.2.symm⟩
  | cons c rest ih =>
    unfold readDigits
    cases digit : digit? c with
    | none =>
      have other : c.isDigit ≠ true := fun isDigit => by
        rw [digit?_eq_some_iff.2 ⟨isDigit, rfl⟩] at digit
        cases digit
      simp [other]
    | some d =>
      obtain ⟨isDigit, rfl⟩ := digit?_eq_some_iff.1 digit
      simp only [ih, List.forall_mem_cons, isDigit, true_and, Nat.ofDigitChars_cons]

/-- The digits of a number are not blank, and neither is its sign. -/
theorem isBlank_of_isDigit (h : c.isDigit = true) : isBlank c = false := by
  have range : 48 ≤ c.toNat ∧ c.toNat ≤ 57 := by
    unfold Char.isDigit at h
    rwa [Bool.and_eq_true, decide_eq_true_iff, decide_eq_true_iff] at h
  unfold isBlank
  simp only [Bool.or_eq_false_iff, Bool.and_eq_false_iff, decide_eq_false_iff_not,
    beq_eq_false_iff_ne]
  omega

/-- At most a plus sign is dropped. -/
theorem exists_eq_append_dropPlus (cs : List Char) :
    ∃ sign, (sign = [] ∨ sign = ['+']) ∧ cs = sign ++ dropPlus cs := by
  unfold dropPlus
  split
  · exact ⟨['+'], .inr rfl, rfl⟩
  · exact ⟨[], .inl rfl, rfl⟩

/-- Digits are left when the sign before them was dropped, and no digit is one. -/
theorem dropPlus_append {sign : List Char} (signed : sign = [] ∨ sign = ['+'])
    (decimal : ∀ c ∈ digits, c.isDigit = true) : dropPlus (sign ++ digits) = digits := by
  rcases signed with rfl | rfl
  · cases digits with
    | nil => rfl
    | cons c rest =>
      have digit : c ≠ '+' := by
        rintro rfl
        exact absurd (decimal '+' (List.mem_cons_self ..)) (by decide)
      unfold dropPlus
      split
      · exact absurd (List.cons.inj ‹_›).1 digit
      · rfl
  · rfl

/-- What is left of a text without its sign is read, unless nothing is left. -/
theorem read?_of_dropPlus (some : digits ≠ []) (dropped : dropPlus cs = digits) :
    read? cs = readDigits 0 digits := by
  unfold read?
  rw [dropped]
  cases digits with
  | nil => exact absurd rfl some
  | cons c rest => rfl

/-- Digits after a plus sign, or digits alone, are what is read. -/
theorem read?_eq_some_iff :
    read? cs = some n ↔ ∃ sign digits, (sign = [] ∨ sign = ['+']) ∧ cs = sign ++ digits ∧
      digits ≠ [] ∧ (∀ c ∈ digits, c.isDigit = true) ∧ n = Nat.ofDigitChars 10 digits 0 := by
  constructor
  · intro found
    have some : dropPlus cs ≠ [] := fun nothing => by
      unfold read? at found
      rw [nothing] at found
      cases found
    rw [read?_of_dropPlus some rfl] at found
    obtain ⟨decimal, value⟩ := readDigits_eq_some_iff.1 found
    obtain ⟨sign, signed, split⟩ := exists_eq_append_dropPlus cs
    exact ⟨sign, dropPlus cs, signed, split, some, decimal, value⟩
  · rintro ⟨sign, digits, signed, rfl, some, decimal, rfl⟩
    rw [read?_of_dropPlus some (dropPlus_append signed decimal)]
    exact readDigits_eq_some_iff.2 ⟨decimal, rfl⟩

/-- A number is read from a text, trimmed, exactly if the text writes it. -/
theorem read?_trimBlanks_eq_some_iff : read? (trimBlanks cs) = some n ↔ Writes cs n := by
  rw [read?_eq_some_iff]
  constructor
  · rintro ⟨sign, digits, signed, trimmed, some, decimal, rfl⟩
    obtain ⟨before, after, whole, blankBefore, blankAfter⟩ := exists_append_trimBlanks cs
    rw [whole, trimmed]
    exact .intro blankBefore signed some decimal blankAfter
  · rintro ⟨blankBefore, signed, some, decimal, blankAfter⟩
    refine ⟨_, _, signed, ?_, some, decimal, rfl⟩
    refine trimBlanks_append blankBefore blankAfter (List.forall_mem_append.2 ⟨?_, ?_⟩)
      (by simp [some])
    · rcases signed with rfl | rfl
      · exact List.forall_mem_nil _
      · exact List.forall_mem_singleton.2 rfl
    · exact fun c member => isBlank_of_isDigit (decimal c member)

end Decimal

end Text

/-! ## The rule -/

/-- What the text of a variable sets its field to, beside chunks of a given size. -/
inductive Variable.Sets (chunkSize : Nat) : Variable → String → ConfigChange → Prop
  | logLevel {text : String} {level : Log.Level}
      (spelled : (text.toLower, level) ∈ Log.Level.keywords) :
      Sets chunkSize .logLevel text (.logLevel level)
  | logFormat {text : String} {format : Log.Format}
      (spelled : (text.toLower, format) ∈ Log.Format.keywords) :
      Sets chunkSize .logFormat text (.logFormat format)
  | chunkSize {text : String} {bytes : Nat} (written : Text.Decimal.Writes text.toList bytes)
      (fits : bytes < Word.modulus) (least : leastChunkSize ≤ bytes)
      (power : bytes.isPowerOfTwo) : Sets chunkSize .chunkSize text (.chunkSize bytes)
  | maxSize {text : String} {bytes : Nat} (written : Text.Decimal.Writes text.toList bytes)
      (fits : bytes < Word.modulus) (range : bytes = 0 ∨ chunkSize ≤ bytes) :
      Sets chunkSize .maxSize text (.maxSize bytes)
  | leakPolicy {text : String} {policy : LeakPolicy}
      (spelled : (text.toLower, policy) ∈ LeakPolicy.keywords) :
      Sets chunkSize .leakPolicy text (.leakPolicy policy)
  | checkNothingAccess {text : String} {on : Bool}
      (spelled : (text.toLower, on) ∈ Environment.flagKeywords) :
      Sets chunkSize .checkNothingAccess text (.checkNothingAccess on)
  | abortOnFatal {text : String} {on : Bool}
      (spelled : (text.toLower, on) ∈ Environment.flagKeywords) :
      Sets chunkSize .abortOnFatal text (.abortOnFatal on)

namespace RuntimeConfig

/-- The field of a configuration that a variable sets. -/
def field (c : RuntimeConfig) : Variable → ConfigChange
  | .logLevel => .logLevel c.log.level
  | .logFormat => .logFormat c.log.format
  | .chunkSize => .chunkSize c.arena.chunkSize
  | .maxSize => .maxSize c.arena.maxSize
  | .leakPolicy => .leakPolicy c.arena.leakPolicy
  | .checkNothingAccess => .checkNothingAccess c.diagnostics.checkNothingAccess
  | .abortOnFatal => .abortOnFatal c.diagnostics.abortOnFatal

/-- A configuration is as an environment wants it in the field of a variable: as the variable sets
it, or the default if the variable sets it to nothing. -/
def Obeys (c : RuntimeConfig) (env : Environment) (v : Variable) : Prop :=
  (∃ text, env.setting v = .text text ∧ v.Sets c.arena.chunkSize text (c.field v)) ∨
    (∀ text change, env.setting v = .text text → ¬v.Sets c.arena.chunkSize text change) ∧
      c.field v = ({} : RuntimeConfig).field v

/-- A configuration has no other fields. -/
theorem eq_of_field {c d : RuntimeConfig} (same : ∀ v, c.field v = d.field v) : c = d := by
  obtain ⟨⟨chunkSize, maxSize, leakPolicy⟩, ⟨checkNothingAccess, abortOnFatal⟩, level, format⟩ := c
  cases same .logLevel
  cases same .logFormat
  cases same .chunkSize
  cases same .maxSize
  cases same .leakPolicy
  cases same .checkNothingAccess
  cases same .abortOnFatal
  rfl

end RuntimeConfig

/-- Environments that differ in one variable at most. -/
def Environment.SameBut (v : Variable) (env other : Environment) : Prop :=
  ∀ w, w ≠ v → other.setting w = env.setting w

/-! ## What is read -/

namespace Environment

variable {env : Environment} {v : Variable} {chunkSize : Nat}

/-- What a variable is read as, beside chunks of a given size. -/
def change? (env : Environment) (chunkSize : Nat) : Variable → Option ConfigChange
  | .logLevel => ((env.text? .logLevel).bind Log.Level.parse?).map .logLevel
  | .logFormat => ((env.text? .logFormat).bind Log.Format.parse?).map .logFormat
  | .chunkSize =>
    ((env.number? .chunkSize).filter fun n => leastChunkSize ≤ n && isPowerOfTwo n).map .chunkSize
  | .maxSize => ((env.number? .maxSize).filter fun n => n == 0 || chunkSize ≤ n).map .maxSize
  | .leakPolicy => ((env.text? .leakPolicy).bind LeakPolicy.parse?).map .leakPolicy
  | .checkNothingAccess => (env.flag? .checkNothingAccess).map .checkNothingAccess
  | .abortOnFatal => (env.flag? .abortOnFatal).map .abortOnFatal

theorem text?_eq_some_iff {text : String} :
    env.text? v = some text ↔ env.setting v = .text text := by
  unfold text?
  cases env.setting v <;> simp [Setting.text?]

/-- A variable writes a number if its text does, and the number fits a word. -/
theorem number?_eq_some_iff {n : Nat} :
    env.number? v = some n ↔
      ∃ text, env.setting v = .text text ∧ Text.Decimal.Writes text.toList n ∧
        n < Word.modulus := by
  simp only [number?, Option.bind_eq_some_iff, text?_eq_some_iff, Text.Decimal.readBelow?,
    Option.filter_eq_some_iff, Text.Decimal.read?_trimBlanks_eq_some_iff, decide_eq_true_iff]

/-- A variable chooses what the keyword stands for that its text spells. -/
theorem bind_keyword?_eq_some_iff {α : Type} {choices : List (String × α)} {a : α}
    (distinct : (choices.map (·.1)).Nodup) :
    (env.text? v).bind (Text.keyword? choices) = some a ↔
      ∃ text, env.setting v = .text text ∧ (text.toLower, a) ∈ choices := by
  simp only [Option.bind_eq_some_iff, text?_eq_some_iff, Text.keyword?_eq_some_iff distinct]

/-- A variable is read by the rule. -/
theorem change?_eq_some_iff {change : ConfigChange} :
    env.change? chunkSize v = some change ↔
      ∃ text, env.setting v = .text text ∧ v.Sets chunkSize text change := by
  have spelled {α : Type} {choices : List (String × α)} {made : α → ConfigChange}
      (distinct : (choices.map (·.1)).Nodup)
      (rule : ∀ text, v.Sets chunkSize text change ↔
        ∃ a, (text.toLower, a) ∈ choices ∧ made a = change) :
      ((env.text? v).bind (Text.keyword? choices)).map made = some change ↔
        ∃ text, env.setting v = .text text ∧ v.Sets chunkSize text change := by
    simp only [Option.map_eq_some_iff, bind_keyword?_eq_some_iff distinct, rule]
    grind
  have written {range : Nat → Bool} {made : Nat → ConfigChange}
      (rule : ∀ text, v.Sets chunkSize text change ↔
        ∃ n, Text.Decimal.Writes text.toList n ∧ n < Word.modulus ∧ range n = true ∧
          made n = change) :
      ((env.number? v).filter range).map made = some change ↔
        ∃ text, env.setting v = .text text ∧ v.Sets chunkSize text change := by
    simp only [Option.map_eq_some_iff, Option.filter_eq_some_iff, number?_eq_some_iff, rule]
    grind
  cases v with
  | logLevel | logFormat | leakPolicy | checkNothingAccess | abortOnFatal =>
    refine spelled (by decide) fun text => ⟨fun sets => ?_, ?_⟩
    · cases sets
      exact ⟨_, ‹_ ∈ _›, rfl⟩
    · rintro ⟨_, word, rfl⟩
      constructor
      exact word
  | chunkSize =>
    refine written fun text => ⟨fun sets => ?_, ?_⟩
    · cases sets with
      | chunkSize number fits least power =>
        exact ⟨_, number, fits, by simp [least, isPowerOfTwo_iff.2 power], rfl⟩
    · rintro ⟨_, number, fits, range, rfl⟩
      simp only [Bool.and_eq_true, decide_eq_true_iff, isPowerOfTwo_iff] at range
      exact .chunkSize number fits range.1 range.2
  | maxSize =>
    refine written fun text => ⟨fun sets => ?_, ?_⟩
    · cases sets with
      | maxSize number fits range => exact ⟨_, number, fits, by simpa using range, rfl⟩
    · rintro ⟨_, number, fits, range, rfl⟩
      exact .maxSize number fits (by simpa using range)

end Environment

namespace RuntimeConfig

variable {c : RuntimeConfig} {env other : Environment} {v w : Variable}

/-- What is not read is the default. -/
theorem field_ofEnvironment (env : Environment) (v : Variable) :
    (ofEnvironment env).field v =
      (env.change? (ofEnvironment env).arena.chunkSize v).getD (({} : RuntimeConfig).field v) := by
  cases v <;> exact (Option.getD_map ..).symm

/-- To obey an environment in a field is to have there what is read, or the default. -/
theorem obeys_iff :
    c.Obeys env v ↔
      c.field v = (env.change? c.arena.chunkSize v).getD (({} : RuntimeConfig).field v) := by
  unfold Obeys
  cases read : env.change? c.arena.chunkSize v with
  | some change =>
    obtain ⟨text, set, sets⟩ := Environment.change?_eq_some_iff.1 read
    rw [← Environment.change?_eq_some_iff, read, Option.some.injEq, Option.getD_some]
    refine ⟨?_, fun same => .inl same.symm⟩
    rintro (same | ⟨nothing, -⟩)
    · exact same.symm
    · exact absurd sets (nothing text change set)
  | none =>
    rw [← Environment.change?_eq_some_iff, read, Option.getD_none]
    refine ⟨?_, fun default => .inr ⟨fun text change set sets => ?_, default⟩⟩
    · rintro (⟨⟨⟩⟩ | ⟨-, default⟩)
      exact default
    · have found := Environment.change?_eq_some_iff.2 ⟨text, set, sets⟩
      rw [read] at found
      cases found

/-- The chunk size is read first, and of the other fields only the capacity is read beside it. -/
theorem change?_eq_of_setting_eq (k l : Nat) (same : other.setting v = env.setting v)
    (size : v = .maxSize → k = l) : other.change? k v = env.change? l v := by
  have text : other.text? v = env.text? v := congrArg Setting.text? same
  cases v with
  | maxSize =>
    obtain rfl := size rfl
    simp only [Environment.change?, Environment.number?, text]
  | _ => simp only [Environment.change?, Environment.number?, Environment.flag?, text]

/-- Only one configuration obeys an environment. -/
theorem eq_ofEnvironment_of_obeys (obeys : ∀ v, c.Obeys env v) : c = ofEnvironment env := by
  have field (v : Variable)
      (size : v = .maxSize → c.arena.chunkSize = (ofEnvironment env).arena.chunkSize) :
      c.field v = (ofEnvironment env).field v := by
    rw [obeys_iff.1 (obeys v), field_ofEnvironment, change?_eq_of_setting_eq _ _ rfl size]
  have size := ConfigChange.chunkSize.inj (field .chunkSize nofun)
  exact eq_of_field fun v => field v fun _ => size

/-- A configuration that obeys an environment is valid, as what is out of range is not set. -/
theorem valid_of_obeys (obeys : ∀ v, c.Obeys env v) : c.Valid := by
  have chunk : leastChunkSize ≤ c.arena.chunkSize ∧ c.arena.chunkSize.isPowerOfTwo := by
    rcases obeys .chunkSize with ⟨text, -, sets⟩ | ⟨-, default⟩
    · cases sets with
      | chunkSize written fits least power => exact ⟨least, power⟩
    · rw [ConfigChange.chunkSize.inj default]
      exact ⟨by decide, isPowerOfTwo_iff.1 (by decide)⟩
  refine ⟨chunk.1, chunk.2, ?_⟩
  rcases obeys .maxSize with ⟨text, -, sets⟩ | ⟨-, default⟩
  · cases sets with
    | maxSize written fits range => exact range
  · exact .inl (ConfigChange.maxSize.inj default)

/-- The configuration that an environment asks for is valid, and it is the one that obeys the
environment in every field: a field is what its variable sets it to, and the default if that is
unset, is not Unicode, does not parse or is out of range. Whatever another variable is set to, a
field stays as it is, but for the capacity beside another chunk size. -/
theorem ofEnvironment_obeys (env : Environment) :
    (ofEnvironment env).validate = .ok () ∧
      (∀ c : RuntimeConfig, (∀ v, c.Obeys env v) ↔ c = ofEnvironment env) ∧
      ∀ v other, env.SameBut v other → ∀ w, w ≠ v → ¬(v = .chunkSize ∧ w = .maxSize) →
        (ofEnvironment other).field w = (ofEnvironment env).field w := by
  have obeys (env : Environment) (v : Variable) : (ofEnvironment env).Obeys env v :=
    obeys_iff.2 (field_ofEnvironment env v)
  refine ⟨validate_eq_ok_iff.2 (valid_of_obeys (obeys env)), fun c => ?_, ?_⟩
  · exact ⟨eq_ofEnvironment_of_obeys, fun same v => same ▸ obeys env v⟩
  · intro v other same w here apart
    rw [field_ofEnvironment, field_ofEnvironment env]
    refine congrArg (Option.getD · _)
      (change?_eq_of_setting_eq _ _ (same w here) fun capacity => ?_)
    -- The chunk size is that of the other environment, since its variable is not the one.
    have size : Variable.chunkSize ≠ v := fun size => apart ⟨size.symm, capacity⟩
    apply ConfigChange.chunkSize.inj
    show (ofEnvironment other).field .chunkSize = (ofEnvironment env).field .chunkSize
    rw [field_ofEnvironment, field_ofEnvironment env]
    exact congrArg (Option.getD · _) (change?_eq_of_setting_eq _ _ (same _ size) nofun)

/-- A number may stand between blanks and behind a plus sign; 4095 bytes do not hold a chunk of
4096, and a keyword may be spelled in letters of any case, but has no blanks around it. -/
example :
    ofEnvironment (.ofList [("TETHER_ARENA_CHUNK_SIZE", .text " +4096\n"),
      ("TETHER_ARENA_MAX_SIZE", .text "4095"), ("TETHER_LEAK_POLICY", .text "Fatal"),
      ("TETHER_LOG_LEVEL", .text " debug"), ("TETHER_LOG_FORMAT", .notUnicode)]) =
      { arena := { chunkSize := 4096, leakPolicy := .fatal } } := by
  decide +kernel

end RuntimeConfig

end Custody
