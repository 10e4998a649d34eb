import Custody.Proofs.Json.Grammar

/-!
# Reading JSON texts

A reader of JSON texts, by recursive descent. Each part of the grammar has its reader, which takes
the part from the front of a text and hands back the rest; `Reads` says that it finds what the
part denotes, wherever it stands before something that may follow it. What may follow matters for
numbers, which could go on, and for blanks.

So every text is read as what it denotes (`Json.conforms_read?`), and since a reader has one
answer, a text denotes one value at most (`Json.Denotes.unique`).
-/

namespace Custody.Json

/-- Takes something from the front of a text, and hands back the rest. -/
abbrev Reader := StateT (List Char) Option

/-- Wherever a text stands before something that may follow it, a reader finds what is meant. -/
def Reads {α : Type} (follows : List Char → Prop) (read : Reader α) (cs : List Char) (a : α) :
    Prop :=
  ∀ rest, follows rest → read (cs ++ rest) = some (a, rest)

/-- A text does not begin with a character of some class. -/
def Lacks (p : Char → Bool) (cs : List Char) : Prop := ∀ c ∈ cs.head?, p c = false

/-- Reads on by what the next character is: takes it if it is of some class. -/
def choose {α : Type} (p : Char → Bool) (taken : Char → Reader α) (left : Reader α) : Reader α
  | [] => left []
  | c :: cs => if p c then taken c cs else left (c :: cs)

/-- Reads with a bound on how often something is repeated, for which the text is long enough. -/
def bounded {α : Type} (read : Nat → Reader α) : Reader α := fun cs => read (cs.length + 1) cs

/-- Something that must come next, and means nothing. -/
def expect (c : Char) : Reader Unit := choose (· = c) (fun _ => pure ()) failure

section Rules

variable {α β : Type} {F G : List Char → Prop} {read : Reader α} {next : α → Reader β}
  {p q : Char → Bool} {cs ds rest : List Char} {a : α} {b : β}

theorem lacks_nil : Lacks p [] := nofun

theorem lacks_cons {c : Char} : Lacks p (c :: cs) ↔ p c = false := by
  simp [Lacks]

theorem lacks_append (some : cs ≠ []) : Lacks p (cs ++ rest) ↔ Lacks p cs := by
  cases cs with
  | nil => exact absurd rfl some
  | cons c cs => simp only [List.cons_append, lacks_cons]

/-- What may be empty is followed by what comes after it. -/
theorem Lacks.append (first : Lacks p cs) (second : Lacks p rest) : Lacks p (cs ++ rest) := by
  cases cs with
  | nil => exact second
  | cons c cs => exact lacks_cons.2 (lacks_cons.1 first)

theorem Lacks.mono (lacks : Lacks q rest) (le : ∀ c, p c = true → q c = true) :
    Lacks p rest := by
  intro c first
  have none := lacks c first
  grind

theorem Reads.mono (reads : Reads F read cs a) (le : ∀ rest, G rest → F rest) :
    Reads G read cs a :=
  fun rest follows => reads rest (le rest follows)

theorem reads_pure : Reads F (pure a : Reader α) [] a := fun _ _ => rfl

/-- Two parts in a row, if the second one may follow the first. -/
theorem Reads.bind (first : Reads F read cs a) (second : Reads G (next a) ds b)
    (joins : ∀ rest, G rest → F (ds ++ rest)) : Reads G (read >>= next) (cs ++ ds) b := by
  intro rest follows
  show (read (cs ++ ds ++ rest)).bind _ = _
  rw [List.append_assoc, first (ds ++ rest) (joins rest follows)]
  exact second rest follows

/-- Two parts in a row, if anything may follow the first. -/
theorem Reads.seq (first : Reads (fun _ => True) read cs a) (second : Reads F (next a) ds b) :
    Reads F (read >>= next) (cs ++ ds) b :=
  first.bind second fun _ _ => trivial

/-- What follows a part is decided by it, and takes nothing more. -/
theorem Reads.finish (first : Reads (fun _ => True) read cs a) (second : Reads F (next a) [] b) :
    Reads F (read >>= next) cs b := by
  have both := first.seq second
  rwa [List.append_nil] at both

/-- Something else is made of what was read. -/
theorem Reads.map (reads : Reads F read cs a) (f : α → β) :
    Reads F (do return f (← read)) cs (f a) := by
  intro rest follows
  show (read (cs ++ rest)).bind _ = _
  rw [reads rest follows]
  rfl

theorem reads_choose {taken : Char → Reader α} {left : Reader α} {c : Char} (next : p c = true)
    (reads : Reads F (taken c) cs a) : Reads F (choose p taken left) (c :: cs) a := by
  intro rest follows
  show (if p c then _ else _) = _
  rw [if_pos next]
  exact reads rest follows

theorem reads_choose_left {taken : Char → Reader α} {left : Reader α}
    (lacks : ∀ rest, F rest → Lacks p (cs ++ rest)) (reads : Reads F left cs a) :
    Reads F (choose p taken left) cs a := by
  intro rest follows
  have other := lacks rest follows
  have found := reads rest follows
  generalize cs ++ rest = text at other found ⊢
  cases text with
  | nil => exact found
  | cons c ds =>
    show (if p c then _ else _) = _
    rw [if_neg (by simp [lacks_cons.1 other])]
    exact found

theorem Reads.orElse {read other : Reader α} (reads : Reads F read cs a) :
    Reads F (read <|> other) cs a := by
  intro rest follows
  show (read (cs ++ rest)).orElse _ = _
  rw [reads rest follows]
  rfl

theorem Reads.orElse_of_none {read other : Reader α} (reads : Reads F other cs a)
    (none : ∀ rest, read (cs ++ rest) = none) : Reads F (read <|> other) cs a := by
  intro rest follows
  show (read (cs ++ rest)).orElse _ = _
  rw [none rest]
  exact reads rest follows

theorem reads_expect (c : Char) : Reads F (expect c) [c] () :=
  reads_choose (by simp) reads_pure

theorem reads_bounded {read : Nat → Reader α}
    (reads : ∀ n, cs.length ≤ n → Reads F (read (n + 1)) cs a) : Reads F (bounded read) cs a := by
  intro rest follows
  refine reads _ ?_ rest follows
  simp

end Rules

variable {cs : List Char} {F : List Char → Prop}

/-! ## Blanks -/

/-- Whatever blanks come next. -/
def skip : Reader Unit := fun cs => some ((), cs.dropWhile isBlank)

theorem takeWhile_of_lacks {p : Char → Bool} (lacks : Lacks p cs) : cs.takeWhile p = [] := by
  cases cs with
  | nil => rfl
  | cons c cs => exact List.takeWhile_cons_of_neg (by simp [lacks_cons.1 lacks])

theorem dropWhile_of_lacks {p : Char → Bool} (lacks : Lacks p cs) : cs.dropWhile p = cs := by
  cases cs with
  | nil => rfl
  | cons c cs => exact List.dropWhile_cons_of_neg (by simp [lacks_cons.1 lacks])

theorem Blank.reads (blank : Blank cs) : Reads (Lacks isBlank) skip cs () := by
  intro rest lacks
  show some _ = _
  rw [List.dropWhile_append_of_pos blank, dropWhile_of_lacks lacks]

/-! ## Numbers -/

/-- As many digits as there are. -/
def readDigits : Reader (List Char) := fun cs =>
  if cs.takeWhile Char.isDigit = [] then none
  else some (cs.takeWhile Char.isDigit, cs.dropWhile Char.isDigit)

/-- As many digits as there are, without a zero that leads others. -/
def readWhole : Reader (List Char) := do
  let digits ← readDigits
  if digits.head? = some '0' ∧ digits ≠ ['0'] then failure else return digits

/-- The digits of a fraction. -/
def readFraction : Reader (List Char) := choose (· = '.') (fun _ => readDigits) (pure [])

/-- The factor that a sign stands for. -/
def readSign : Reader Int :=
  choose (· = '+') (fun _ => pure 1) (choose (· = '-') (fun _ => pure (-1)) (pure 1))

/-- The power of ten that an exponent stands for. -/
def readExponent : Reader Int :=
  choose isMark (fun _ => do return (← readSign) * decimal (← readDigits)) (pure 0)

/-- A number without a sign. -/
def readMagnitude : Reader Rat := do
  let whole ← readWhole
  let places ← readFraction
  let power ← readExponent
  return scaled (whole ++ places) places.length power

/-- A number. -/
def readNumber : Reader Rat :=
  choose (· = '-') (fun _ => do return -(← readMagnitude)) readMagnitude

/-- Whether a number could go on with a character. -/
def continues (c : Char) : Bool := c.isDigit || c = '.' || isMark c

theorem Digits.reads {digits : List Char} (h : Digits digits) :
    Reads (Lacks Char.isDigit) readDigits digits digits := by
  intro rest lacks
  unfold readDigits
  rw [List.takeWhile_append_of_pos h.2, takeWhile_of_lacks lacks, List.append_nil,
    List.dropWhile_append_of_pos h.2, dropWhile_of_lacks lacks, if_neg h.1]

theorem Digits.lacks {p : Char → Bool} {digits : List Char} (h : Digits digits)
    (others : ∀ c, p c = true → c.isDigit = false) (rest : List Char) :
    Lacks p (digits ++ rest) := by
  rw [lacks_append h.1]
  intro c first
  have digit := h.2 c (List.mem_of_mem_head? first)
  grind

theorem Whole.reads {whole : List Char} (h : Whole whole) :
    Reads (Lacks Char.isDigit) readWhole whole whole := by
  intro rest lacks
  show (readDigits (whole ++ rest)).bind _ = _
  rw [h.1.reads rest lacks]
  show (if _ then failure else pure whole : Reader _) rest = _
  rw [if_neg fun leading => leading.2 (h.2 leading.1)]
  rfl

theorem Fraction.reads {fraction places : List Char} (h : Fraction fraction places) :
    Reads (Lacks fun c => c.isDigit || c = '.') readFraction fraction places := by
  cases h with
  | none => exact reads_choose_left (fun _ lacks => lacks.mono (by simp)) reads_pure
  | places digits =>
    exact reads_choose (by simp) (digits.reads.mono fun _ lacks => lacks.mono (by simp +contextual))

theorem Fraction.lacks {fraction places : List Char} (h : Fraction fraction places) :
    Lacks Char.isDigit fraction := by
  cases h with
  | none => exact lacks_nil
  | places digits => exact lacks_cons.2 rfl

theorem Sign.reads {sign : List Char} {factor : Int} (h : Sign sign factor) :
    Reads (Lacks fun c => c = '+' || c = '-') readSign sign factor := by
  cases h with
  | none =>
    refine reads_choose_left (fun _ lacks => lacks.mono (by simp +contextual)) ?_
    exact reads_choose_left (fun _ lacks => lacks.mono (by simp +contextual)) reads_pure
  | plus => exact reads_choose (by simp) reads_pure
  | minus =>
    refine reads_choose_left (fun _ _ => lacks_cons.2 (by decide)) ?_
    exact reads_choose (by simp) reads_pure

theorem Exponent.reads {exponent : List Char} {power : Int} (h : Exponent exponent power) :
    Reads (Lacks continues) readExponent exponent power := by
  cases h with
  | none =>
    exact reads_choose_left (fun _ lacks => lacks.mono (by simp +contextual [continues])) reads_pure
  | power marked signed counted =>
    have ends : ∀ rest, Lacks continues rest → Lacks Char.isDigit rest := fun rest lacks =>
      lacks.mono (by simp +contextual [continues])
    refine reads_choose marked (signed.reads.bind ((counted.reads.map _).mono ends) ?_)
    exact fun rest _ => counted.lacks (by simp) rest

theorem isMark_iff {c : Char} : isMark c = true ↔ c = 'e' ∨ c = 'E' := by simp [isMark]

theorem Exponent.lacks {exponent : List Char} {power : Int} (h : Exponent exponent power) :
    Lacks (fun c => c.isDigit || c = '.') exponent := by
  cases h with
  | none => exact lacks_nil
  | power marked signed counted =>
    rw [lacks_cons]
    obtain rfl | rfl := isMark_iff.1 marked
    · decide
    · decide

theorem Magnitude.reads {q : Rat} (h : Magnitude cs q) :
    Reads (Lacks continues) readMagnitude cs q := by
  obtain ⟨isWhole, isFraction, isExponent⟩ := h
  have behindFraction : ∀ rest, Lacks continues rest → _ := fun rest lacks =>
    isExponent.lacks.append (lacks.mono (by simp +contextual [continues]))
  refine isWhole.reads.bind (isFraction.reads.bind (isExponent.reads.map _) behindFraction) ?_
  intro rest lacks
  rw [List.append_assoc]
  exact isFraction.lacks.append ((behindFraction rest lacks).mono (by simp +contextual))

theorem Magnitude.lacks {q : Rat} (h : Magnitude cs q) {p : Char → Bool}
    (others : ∀ c, p c = true → c.isDigit = false) (rest : List Char) : Lacks p (cs ++ rest) := by
  obtain ⟨isWhole, -, -⟩ := h
  rw [List.append_assoc]
  exact isWhole.1.lacks others _

theorem Number.reads {q : Rat} (h : Number cs q) : Reads (Lacks continues) readNumber cs q := by
  cases h with
  | plain magnitude =>
    exact reads_choose_left (fun rest _ => magnitude.lacks (by simp) rest) magnitude.reads
  | negative magnitude => exact reads_choose (by simp) (magnitude.reads.map _)

example : readNumber "-12.50e+1, 7".toList = some (-125, ", 7".toList) := by cbv

/-- A number begins with a digit or a minus sign. -/
theorem Number.lacks {q : Rat} (h : Number cs q) {p : Char → Bool}
    (others : ∀ c, p c = true → c.isDigit = false) (minus : p '-' = false) (rest : List Char) :
    Lacks p (cs ++ rest) := by
  cases h with
  | plain magnitude => exact magnitude.lacks others rest
  | negative magnitude => exact lacks_cons.2 minus

/-! ## Strings -/

/-- The code unit of four hexadecimal digits. -/
def readUnit : Reader Nat
  | a :: b :: c :: d :: cs => (codeUnit? a b c d).map fun n => (n, cs)
  | _ => none

/-- The code unit that goes with the first one of a surrogate pair. -/
def readLow (high : Nat) : Reader Char := do
  expect '\\'
  expect 'u'
  let low ← readUnit
  if isHigh high && isLow low then return paired high low else failure

/-- What stands behind a backslash and a `u`. -/
def readPoint : Reader Char := do
  let n ← readUnit
  if isHigh n || isLow n then readLow n else return Char.ofNat n

/-- What stands behind a backslash. -/
def readEscape : Reader Char :=
  choose (· = 'u') (fun _ => readPoint)
    (choose (fun letter => (escaped? letter).isSome)
      (fun letter cs => (escaped? letter).map fun c => (c, cs)) failure)

/-- A character of a string. -/
def readLetter : Reader Char :=
  choose (· = '\\') (fun _ => readEscape) (choose isUnescaped pure failure)

/-- The characters up to the quotation mark, if they are less than a number. -/
def readLetters : Nat → Reader (List Char)
  | 0 => failure
  | n + 1 => choose (· = '"') (fun _ => pure []) do
    let c ← readLetter
    let text ← readLetters n
    return c :: text

/-- What follows the quotation mark that opens a string. -/
def readText : Reader String := do return String.ofList (← bounded readLetters)

/-- A string. -/
def readLiteral : Reader String := choose (· = '"') (fun _ => readText) failure

theorem reads_unit {a b c d : Char} {n : Nat} (unit : codeUnit? a b c d = some n) :
    Reads F readUnit [a, b, c, d] n := by
  intro rest _
  show (codeUnit? a b c d).map _ = _
  rw [unit]
  rfl

theorem Letter.reads {c : Char} (h : Letter cs c) : Reads F readLetter cs c := by
  cases h with
  | plain unescaped =>
    refine reads_choose_left (fun rest _ => lacks_cons.2 ?_) (reads_choose unescaped reads_pure)
    grind [isUnescaped]
  | @escape letter c escaped =>
    have other : letter ≠ 'u' := by
      rintro rfl
      cases escaped
    refine reads_choose (by simp) (reads_choose_left (fun _ _ => lacks_cons.2 (by simp [other])) ?_)
    refine reads_choose (by simp [escaped]) fun rest _ => ?_
    show (escaped? letter).map _ = _
    rw [escaped]
    rfl
  | unit unit single =>
    refine reads_choose (by simp) (reads_choose (by simp) ?_)
    refine (reads_unit unit).finish ?_
    rw [if_neg (by simpa using single)]
    exact reads_pure
  | @pair a b c d a' b' c' d' high low first second isHigh isLow =>
    refine reads_choose (by simp) (reads_choose (by simp) ?_)
    refine (reads_unit first).seq ?_
    rw [if_pos (by simp [isHigh])]
    refine (reads_expect '\\').seq ((reads_expect 'u').seq ((reads_unit second).finish ?_))
    rw [if_pos (by simp [isHigh, isLow])]
    exact reads_pure

example : readLetter "\\ud83D\\uDe00!".toList = some ('😀', ['!']) := by decide

/-- A character of a string begins with no quotation mark. -/
theorem Letter.exists_cons {c : Char} (h : Letter cs c) : ∃ d ds, cs = d :: ds ∧ d ≠ '"' := by
  cases h with
  | plain unescaped =>
    refine ⟨_, _, rfl, ?_⟩
    grind [isUnescaped]
  | _ => exact ⟨_, _, rfl, by decide⟩

theorem Letters.reads {text : List Char} (h : Letters cs text) :
    ∀ n, cs.length ≤ n → Reads F (readLetters (n + 1)) (cs ++ ['"']) text := by
  induction h with
  | nil => exact fun n _ => reads_choose (by simp) reads_pure
  | @cons cs ds c text first others ih =>
    intro n fits
    obtain ⟨d, es, rfl, mark⟩ := first.exists_cons
    cases n with
    | zero => cases fits
    | succ n =>
      refine reads_choose_left (fun rest _ => lacks_cons.2 (by simp [mark])) ?_
      rw [List.append_assoc]
      refine first.reads.seq ((ih n ?_).map _)
      simp at fits
      omega

theorem reads_text {text : List Char} (h : Letters cs text) :
    Reads F readText (cs ++ ['"']) (String.ofList text) := by
  refine (reads_bounded fun n fits => h.reads n ?_).map _
  simp at fits
  omega

theorem Literal.reads {text : String} (h : Literal cs text) : Reads F readLiteral cs text := by
  obtain ⟨letters⟩ := h
  exact reads_choose (by simp) (reads_text letters)

/-! ## Values -/

/-- What may follow a value: a blank or something with which no number could go on. -/
abbrev Ends : List Char → Prop := Lacks fun c => isBlank c || continues c

/-- The parts of a group up to the bracket that closes it, if they are less than a number. -/
def readParts {α : Type} (part : Reader α) (closing : Char) : Nat → Reader (List α)
  | 0 => failure
  | n + 1 => do
    let a ← part
    choose (· = ',')
      (fun _ => do return a :: (← readParts part closing n))
      (do expect closing; return [a])

/-- What follows the bracket that opens a group. -/
def readGroup {α : Type} (part : Reader α) (closing : Char) : Reader (List α) := fun cs =>
  if (cs.dropWhile isBlank).head? = some closing then some ([], (cs.dropWhile isBlank).tail)
  else bounded (readParts part closing) cs

/-- An element, between blanks. -/
def readElement (value : Reader Json) : Reader Json := do
  skip
  let v ← value
  skip
  return v

/-- A member, between blanks. -/
def readMember (value : Reader Json) : Reader (String × Json) := do
  skip
  let key ← readLiteral
  skip
  expect ':'
  return (key, ← readElement value)

/-- A value that is a word. -/
def readWord : Reader Json := fun cs =>
  words.findSome? fun word =>
    if word.1.isPrefixOf cs then some (word.2, cs.drop word.1.length) else none

/-- A value, if groups are nested less deep than a number. -/
def readValue : Nat → Reader Json
  | 0 => failure
  | n + 1 =>
    choose (· = '[') (fun _ => do return array (← readGroup (readElement (readValue n)) ']'))
      (choose (· = '{') (fun _ => do return object (← readGroup (readMember (readValue n)) '}'))
        (choose (· = '"') (fun _ => do return string (← readText))
          (readWord <|> do return number (← readNumber))))

theorem length_le_intercalate {part : List Char} {parts : List (List Char)}
    (mem : part ∈ parts) : part.length ≤ ([','].intercalate parts).length := by
  induction parts with
  | nil => cases mem
  | cons first parts ih =>
    cases parts with
    | nil =>
      obtain rfl | none := List.mem_cons.1 mem
      · simp
      · cases none
    | cons second parts =>
      simp only [List.intercalate_cons_cons, List.length_append]
      obtain rfl | later := List.mem_cons.1 mem
      · omega
      · have := ih later
        omega

/-- There is a comma between any two parts. -/
theorem length_parts_le (parts : List (List Char)) :
    parts.length ≤ ([','].intercalate parts).length + 1 := by
  induction parts with
  | nil => simp
  | cons first parts ih =>
    cases parts with
    | nil => simp
    | cons second parts =>
      simp only [List.intercalate_cons_cons, List.length_append, List.length_cons] at ih ⊢
      omega

section Parts

variable {ι α : Type} {part : Reader α} {closing : Char} {text : ι → List Char} {meaning : ι → α}
  {items : List ι}

theorem reads_parts (closes : closing = ']' ∨ closing = '}')
    (reads : ∀ i ∈ items, Reads Ends part (text i) (meaning i)) (some : items ≠ []) :
    ∀ n, items.length ≤ n → Reads F (readParts part closing n)
      ([','].intercalate (items.map text) ++ [closing]) (items.map meaning) := by
  -- By induction on the parts: the last one stands before the bracket, the others before a comma.
  induction items with
  | nil => exact absurd rfl some
  | cons i items ih =>
    intro n fits
    cases n with
    | zero => cases fits
    | succ n =>
      have first := reads i (List.mem_cons_self ..)
      cases items with
      | nil =>
        simp only [List.map_cons, List.map_nil, List.intercalate_singleton]
        refine first.bind ?_ fun rest _ => lacks_cons.2 ?_
        · refine reads_choose_left (fun rest _ => lacks_cons.2 ?_) ((reads_expect closing).map _)
          obtain rfl | rfl := closes <;> decide
        · obtain rfl | rfl := closes <;> decide
      | cons j items =>
        have others := ih (fun k mem => reads k (List.mem_cons_of_mem i mem)) (by simp) n
          (Nat.le_of_succ_le_succ fits)
        simp only [List.map_cons, List.intercalate_cons_cons, List.append_assoc] at others ⊢
        refine first.bind (reads_choose (by simp) (others.map _)) fun rest _ => lacks_cons.2 ?_
        decide

/-- A group of some parts, none of which begins like the bracket that closes it. -/
theorem reads_group (closes : closing = ']' ∨ closing = '}')
    (reads : ∀ i ∈ items, Reads Ends part (text i) (meaning i)) (some : items ≠ [])
    (opens : ∀ i ∈ items, ∀ rest, ((text i ++ rest).dropWhile isBlank).head? ≠ closing) :
    Reads F (readGroup part closing) ([','].intercalate (items.map text) ++ [closing])
      (items.map meaning) := by
  intro rest follows
  have parts : Reads F (bounded (readParts part closing))
      ([','].intercalate (items.map text) ++ [closing]) (items.map meaning) := by
    refine reads_bounded fun n fits => reads_parts closes reads some (n + 1) ?_
    have commas := length_parts_le (items.map text)
    simp at fits commas
    omega
  unfold readGroup
  rw [if_neg, parts rest follows]
  cases items with
  | nil => exact absurd rfl some
  | cons i items =>
    cases items with
    | nil => simpa using opens i (by simp) _
    | cons j items => simpa using opens i (by simp) _

theorem reads_group_nil (closes : closing = ']' ∨ closing = '}') (blank : Blank cs) :
    Reads F (readGroup part closing) ([','].intercalate [cs] ++ [closing]) [] := by
  intro rest _
  have lacks : Lacks isBlank (closing :: rest) := by
    rw [lacks_cons]
    obtain rfl | rfl := closes <;> decide
  unfold readGroup
  rw [List.intercalate_singleton, List.append_assoc, List.dropWhile_append_of_pos blank]
  simp [dropWhile_of_lacks lacks]

end Parts

/-- Whether a character is a blank or closes a group. -/
def isOuter (c : Char) : Bool := isBlank c || c = ']' || c = '}'

theorem Literal.lacks {text : String} (h : Literal cs text) (rest : List Char) :
    Lacks isOuter (cs ++ rest) := by
  obtain ⟨letters⟩ := h
  exact lacks_cons.2 (by decide)

/-- A word begins with one of three letters. -/
theorem lacks_word {p : Char → Bool} {v : Json} (known : (cs, v) ∈ words)
    (initials : ∀ c ∈ ['n', 't', 'f'], p c = false) (rest : List Char) : Lacks p (cs ++ rest) := by
  simp only [words, List.mem_cons, Prod.mk.injEq, List.not_mem_nil, or_false] at known
  obtain ⟨rfl, rfl⟩ | ⟨rfl, rfl⟩ | ⟨rfl, rfl⟩ := known <;>
    exact lacks_cons.2 (initials _ (by decide))

/-- A value begins with no blank, and not like the end of a group. -/
theorem Value.lacks {v : Json} (h : Value cs v) (rest : List Char) :
    Lacks isOuter (cs ++ rest) := by
  cases h with
  | word known => exact lacks_word known (by simp [isOuter, isBlank]) rest
  | number number => exact number.lacks (by simp [isOuter, isBlank, or_assoc]) (by decide) rest
  | string literal => exact literal.lacks rest
  | _ => exact lacks_cons.2 (by decide)

theorem dropWhile_blank {before : List Char} (blank : Blank before)
    (lacks : Lacks isOuter cs) : (before ++ cs).dropWhile isBlank = cs := by
  rw [List.dropWhile_append_of_pos blank]
  exact dropWhile_of_lacks (lacks.mono fun c => by simp +contextual [isOuter])

theorem head?_ne_of_lacks {closing : Char} (closes : closing = ']' ∨ closing = '}')
    (lacks : Lacks isOuter cs) : cs.head? ≠ closing := by
  intro first
  have none := lacks closing first
  obtain rfl | rfl := closes <;> cases none

/-- With blanks no number goes on, nor with what follows them. -/
theorem Blank.lacks_append (blank : Blank cs) {rest : List Char} (ends : Ends rest) :
    Lacks continues (cs ++ rest) := by
  refine Lacks.append ?_ (ends.mono (by simp +contextual))
  intro c first
  have := blank c (List.mem_of_mem_head? first)
  simp only [isBlank, Bool.or_eq_true, decide_eq_true_eq] at this
  obtain ((rfl | rfl) | rfl) | rfl := this <;> decide

theorem readElement_reads (e : Element) {value : Reader Json} (denotes : Value e.text e.value)
    (reads : Reads (Lacks continues) value e.text e.value) :
    Reads Ends (readElement value) e.spelled e.value := by
  obtain ⟨before, after⟩ := e.blanks
  refine before.reads.bind (reads.bind ((after.reads.map fun _ => e.value).mono ?_) ?_) ?_
  · exact fun rest ends => ends.mono (by simp +contextual)
  · exact fun rest ends => after.lacks_append ends
  · intro rest _
    rw [List.append_assoc]
    exact (denotes.lacks _).mono (by simp +contextual [isOuter])

theorem readMember_reads (m : Member) {value : Reader Json}
    (denotes : Value m.element.text m.element.value)
    (reads : Reads (Lacks continues) value m.element.text m.element.value) :
    Reads Ends (readMember value) m.spelled m.pair := by
  obtain ⟨before, between⟩ := m.blanks
  have element := (readElement_reads m.element denotes reads).map fun v => (m.key, v)
  refine before.reads.bind (m.named.reads.seq (between.reads.bind
    ((reads_expect ':').seq element) ?_)) ?_
  · exact fun rest _ => lacks_cons.2 (by decide)
  · intro rest _
    rw [List.append_assoc]
    exact (m.named.lacks _).mono (by simp +contextual [isOuter])

theorem readWord_reads {v : Json} (known : (cs, v) ∈ words) : Reads F readWord cs v := by
  simp only [words, List.mem_cons, Prod.mk.injEq, List.not_mem_nil, or_false] at known
  intro rest _
  obtain ⟨rfl, rfl⟩ | ⟨rfl, rfl⟩ | ⟨rfl, rfl⟩ := known <;> simp [readWord, words]

/-- Whether a word begins with a character. -/
def isInitial (c : Char) : Bool := c = 'n' || c = 't' || c = 'f'

theorem readWord_of_lacks (lacks : Lacks isInitial cs) : readWord cs = none := by
  cases cs with
  | nil => rfl
  | cons c cs =>
    have other := lacks_cons.1 lacks
    simp only [isInitial, Bool.or_eq_false_iff, decide_eq_false_iff_not] at other
    simp [readWord, words, Ne.symm other.1.1, Ne.symm other.1.2, Ne.symm other.2]

theorem Element.opens (e : Element) (denotes : Value e.text e.value) {closing : Char}
    (closes : closing = ']' ∨ closing = '}') (rest : List Char) :
    ((e.spelled ++ rest).dropWhile isBlank).head? ≠ closing := by
  have lacks := denotes.lacks (e.after ++ rest)
  rw [Element.spelled, List.append_assoc, List.append_assoc, dropWhile_blank e.blanks.1 lacks]
  exact head?_ne_of_lacks closes lacks

theorem Member.opens (m : Member) {closing : Char} (closes : closing = ']' ∨ closing = '}')
    (rest : List Char) : ((m.spelled ++ rest).dropWhile isBlank).head? ≠ closing := by
  have lacks := m.named.lacks ((m.between ++ ':' :: m.element.spelled) ++ rest)
  rw [Member.spelled, List.append_assoc, List.append_assoc, dropWhile_blank m.blanks.1 lacks]
  exact head?_ne_of_lacks closes lacks

theorem Element.length_text_le (e : Element) : e.text.length ≤ e.spelled.length := by
  simp only [Element.spelled, List.length_append]
  omega

theorem Member.length_text_le (m : Member) : m.element.text.length ≤ m.spelled.length := by
  have := m.element.length_text_le
  simp only [Member.spelled, List.length_append, List.length_cons]
  omega

theorem length_le_of_bracketed {opening closing : Char} {part : List Char}
    {parts : List (List Char)} {n : Nat} (mem : part ∈ parts)
    (fits : (bracketed opening closing parts).length ≤ n + 1) : part.length ≤ n := by
  have := length_le_intercalate mem
  simp only [bracketed, List.length_cons, List.length_append, List.length_nil] at fits
  omega

/-- Whether a character opens a group or a string. -/
def isOpening (c : Char) : Bool := c = '[' || c = '{' || c = '"'

/-- What opens neither a group nor a string is a word or a number. -/
theorem reads_bare {v : Json} (lacks : ∀ rest, Lacks isOpening (cs ++ rest)) (n : Nat)
    (reads : Reads F (readWord <|> do return number (← readNumber)) cs v) :
    Reads F (readValue (n + 1)) cs v := by
  refine reads_choose_left (fun rest _ => (lacks rest).mono (by simp [isOpening])) ?_
  refine reads_choose_left (fun rest _ => (lacks rest).mono (by simp [isOpening])) ?_
  exact reads_choose_left (fun rest _ => (lacks rest).mono (by simp [isOpening])) reads

/-- A value is read wherever it stands, and groups in it are nested less deep than it is long. -/
theorem Value.reads {v : Json} (h : Value cs v) :
    ∀ n, cs.length ≤ n → Reads (Lacks continues) (readValue (n + 1)) cs v := by
  -- The parts of a group are shorter than the group, so the bound on nesting does for them.
  induction h with
  | word known =>
    intro n _
    have bare := lacks_word (p := isOpening) known (by simp [isOpening])
    exact reads_bare bare n (readWord_reads known).orElse
  | number number =>
    intro n _
    refine reads_bare (number.lacks (by simp [isOpening, or_assoc]) (by decide)) n ?_
    refine (number.reads.map Json.number).orElse_of_none fun rest => ?_
    exact readWord_of_lacks (number.lacks (by simp [isInitial, or_assoc]) (by decide) rest)
  | string literal =>
    intro n _
    obtain ⟨letters⟩ := literal
    refine reads_choose_left (fun _ _ => lacks_cons.2 (by decide)) ?_
    refine reads_choose_left (fun _ _ => lacks_cons.2 (by decide)) ?_
    exact reads_choose (by simp) ((reads_text letters).map _)
  | emptyArray blank =>
    intro n _
    exact reads_choose (by simp) ((reads_group_nil (.inl rfl) blank).map _)
  | emptyObject blank =>
    intro n _
    refine reads_choose_left (fun _ _ => lacks_cons.2 (by decide)) ?_
    exact reads_choose (by simp) ((reads_group_nil (.inr rfl) blank).map _)
  | array some values ih =>
    intro n fits
    cases n with
    | zero => cases fits
    | succ n =>
      refine reads_choose (by simp) ((reads_group (.inl rfl) (fun e mem => ?_) some ?_).map _)
      · have inside := length_le_of_bracketed (List.mem_map_of_mem mem) fits
        exact readElement_reads e (values e mem)
          (ih e mem n (Nat.le_trans e.length_text_le inside))
      · exact fun e mem rest => e.opens (values e mem) (.inl rfl) rest
  | object some values ih =>
    intro n fits
    cases n with
    | zero => cases fits
    | succ n =>
      refine reads_choose_left (fun _ _ => lacks_cons.2 (by decide)) ?_
      refine reads_choose (by simp) ((reads_group (.inr rfl) (fun m mem => ?_) some ?_).map _)
      · have inside := length_le_of_bracketed (List.mem_map_of_mem mem) fits
        exact readMember_reads m (values m mem)
          (ih m mem n (Nat.le_trans m.length_text_le inside))
      · exact fun m _ rest => m.opens (.inr rfl) rest

/-- The value that a text denotes. -/
def read? (text : String) : Option Json :=
  match bounded (fun n => readElement (readValue n)) text.toList with
  | some (v, []) => some v
  | _ => none

/-- Every text is read as what it denotes. -/
theorem conforms_read? : Conforms read? := by
  rintro text v ⟨e, spelled, value, rfl⟩
  have reads : Reads Ends (bounded fun n => readElement (readValue n)) e.spelled e.value := by
    refine reads_bounded fun n fits => ?_
    exact readElement_reads e value (value.reads n (Nat.le_trans e.length_text_le fits))
  have found := reads [] lacks_nil
  rw [List.append_nil] at found
  unfold read?
  rw [spelled, found]

/-- A text denotes one value at most. -/
theorem Denotes.unique {text : String} {v w : Json} (first : Denotes text v)
    (second : Denotes text w) : v = w :=
  Option.some.inj ((conforms_read? text v first).symm.trans (conforms_read? text w second))

end Custody.Json
