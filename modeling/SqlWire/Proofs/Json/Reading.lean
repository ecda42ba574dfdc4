import SqlWire.Proofs.Decimal.Value
import SqlWire.Proofs.Text.Parsing
import SqlWire.Text.Quoted
import SqlWire.Toml.Scalar

/-!
# Reading JSON

`Json.read` takes a JSON text apart. A number is read as what it is worth, and a string without its
quotes and escapes. The members of an object stay as they are written : in their order, and each of
them even if two have the same name, so that none is lost in reading. Zeros in front of a number are
let through, and an escaped half of a character is refused.

What is written elsewhere is read back here : a quoted text (`takes_quoted`), a numeral with an `e`
before its power (`takes_worth`), and values between brackets with blanks in front of each
(`takes_listed`). A number goes on as long as it can, so for each text there is a condition on what
stands behind it (`Stops`).
-/

namespace SqlWire

open Text Text.Parser

/-- What a JSON text says. -/
inductive Json where
  | null
  | boolean (value : Bool)
  | number (value : Rat)
  | text (value : String)
  | array (items : List Json)
  | object (members : List (String × Json))

namespace Json

variable {α : Type}

/-! ## Tokens -/

/-- Blanks between tokens. -/
def isBlank (c : Char) : Bool := c == ' ' || c == '\n' || c == '\r' || c == '\t'

/-- What comes next after blanks. -/
def token (p : Parser α) : Parser α := do
  let _ ← takeWhile isBlank
  p

/-- A character that stands for itself between quotes. -/
def isPlain (c : Char) : Bool := 0x20 ≤ c.toNat && c != '"' && c != '\\'

/-- What follows a backslash. -/
def escape : Parser Char := do
  match ← satisfy fun _ => true with
  | '"' => return '"'
  | '\\' => return '\\'
  | '/' => return '/'
  | 'b' => return '\x08'
  | 'f' => return '\x0c'
  | 'n' => return '\n'
  | 'r' => return '\r'
  | 't' => return '\t'
  | 'u' => ofOption (Toml.charOfCode? (Toml.numberOf 16 (← exactly 4 Toml.isHexDigit)))
  | _ => fail

/-- A character between quotes. -/
def character : Parser Char := orElse (satisfy isPlain) (do let _ ← char '\\'; escape)

/-- A text between quotes. -/
def quoted : Parser String := do
  let _ ← char '"'
  let cs ← many character
  let _ ← char '"'
  return String.ofList cs

/-- One digit or more. -/
def digitRun : Parser (List Nat) := do
  let first ← satisfy Char.isDigit
  let others ← takeWhile Char.isDigit
  return (first :: others).map fun c => c.toNat - '0'.toNat

/-- Whether there is a minus sign. -/
def minus : Parser Bool := orElse (do let _ ← char '-'; return true) (return false)

/-- A power of ten. -/
def power : Parser Int := do
  let _ ← satisfy fun c => c == 'e' || c == 'E'
  let negative ← orElse (do let _ ← char '+'; return false) minus
  let n := ofDigits (← digitRun)
  return if negative then -n else n

/-- What a number is worth. -/
def worth : Parser Rat := do
  let negative ← minus
  let whole ← digitRun
  let fraction ← orElse (do let _ ← char '.'; digitRun) (return [])
  let power ← optional power
  return (Numeral.mk negative whole fraction power).value

/-! ## Values -/

/-- Items between brackets. -/
def listed (left right : Char) (item : Parser α) : Parser (List α) := do
  let _ ← token (char left)
  orElse (do let _ ← token (char right); return []) do
    let items ← separated item (token (char ','))
    let _ ← token (char right)
    return items

/-- A member of an object. -/
def member (value : Parser Json) : Parser (String × Json) := do
  let name ← token quoted
  let _ ← token (char ':')
  return (name, ← value)

/-- A value without others in it. -/
def scalar : Parser Json := firstOf [
  (do literal "null"; return null),
  (do literal "true"; return boolean true),
  (do literal "false"; return boolean false),
  (do return text (← quoted)),
  (do return number (← worth))]

/-- A value within which others are nested less deep than a bound. -/
def value : Nat → Parser Json
  | 0 => fail
  | depth + 1 => token <| firstOf [
    scalar,
    (do return array (← listed '[' ']' (value depth))),
    (do return object (← listed '\x7b' '\x7d' (member (value depth))))]

/-- What a text says in JSON. Nothing in it is nested deeper than it is long. -/
def read (shown : String) : Option Json :=
  let all : Parser Json := do
    let json ← value (shown.length + 1)
    let _ ← token atEnd
    return json
  (all shown.toList).map Prod.fst

/-! ## Quoted texts -/

theorem isHexDigit_digitChar : ∀ d < 16, Toml.isHexDigit (digitChar d) = true := by decide

theorem digitValue_digitChar : ∀ d < 16, Toml.digitValue (digitChar d) = d := by decide

theorem length_hexDigits (width n : Nat) : (hexDigits width n).length = width := by
  induction width generalizing n with
  | zero => rfl
  | succ width ih => rw [hexDigits, List.length_append, ih, List.length_singleton]

theorem lt_of_mem_hexDigits {width n d : Nat} (h : d ∈ hexDigits width n) : d < 16 := by
  induction width generalizing n with
  | zero => cases h
  | succ width ih =>
    rw [hexDigits, List.mem_append, List.mem_singleton] at h
    obtain h | rfl := h
    · exact ih h
    · exact Nat.mod_lt n (by decide)

/-- The digits of base sixteen write the number that they are taken from. -/
theorem numberOf_hexDigits {width n : Nat} (h : n < 16 ^ width) :
    Toml.numberOf 16 ((hexDigits width n).map digitChar) = n := by
  induction width generalizing n with
  | zero => exact (Nat.lt_one_iff.1 h).symm
  | succ width ih =>
    have front : n / 16 < 16 ^ width := by
      rw [Nat.div_lt_iff_lt_mul (by decide)]
      exact h
    have last := digitValue_digitChar (n % 16) (Nat.mod_lt n (by decide))
    have before := ih front
    rw [Toml.numberOf] at before ⊢
    rw [hexDigits, List.map_append, List.foldl_append, before, List.map_singleton,
      List.foldl_cons, List.foldl_nil, last]
    exact Nat.div_add_mod n 16

theorem charOfCode?_toNat (c : Char) : Toml.charOfCode? c.toNat = some c :=
  dif_pos c.valid

/-- A character is read back from the way it is written between quotes. -/
theorem takes_character (c : Char) (rest : List Char) :
    Takes character (Quoted.jsonChar c).toList c rest := by
  fun_cases Quoted.jsonChar c with
  | case8 _ _ _ _ _ _ _ control =>
    have small : c.toNat < 16 ^ 4 := Nat.lt_trans ‹c.toNat < 0x20› (by decide)
    have code : Toml.charOfCode? (Toml.numberOf 16 ((hexDigits 4 c.toNat).map digitChar)) =
        some c := by
      rw [numberOf_hexDigits small, charOfCode?_toNat]
    have len : ((hexDigits 4 c.toNat).map digitChar).length = 4 := by
      rw [List.length_map, length_hexDigits]
    have hex : ∀ d ∈ (hexDigits 4 c.toNat).map digitChar, Toml.isHexDigit d = true := by
      rw [List.forall_mem_map]
      exact fun d hd => isHexDigit_digitChar d (lt_of_mem_hexDigits hd)
    have named : Takes escape ('u' :: (hexDigits 4 c.toNat).map digitChar) c rest :=
      (takes_satisfy rfl _).bind ((takes_exactly len hex rest).ofOption code)
    rw [String.toList_append, Text.hex, toList_ofDigitList]
    exact takes_orElse_of_eq_none rfl ((takes_char _ _).bind named)
  | case9 quote backslash _ _ _ _ _ shown =>
    have plain : isPlain c = true := by
      simp only [isPlain, Bool.and_eq_true, decide_eq_true_eq, bne_iff_ne]
      exact ⟨⟨Nat.le_of_not_lt ‹_›, ‹_›⟩, ‹_›⟩
    rw [String.toList_singleton]
    exact takes_orElse (takes_satisfy plain _)
  | _ => rfl

/-- A text in quotation marks is read as what it was, whatever was escaped. -/
theorem takes_quoted (text : String) (rest : List Char) :
    Takes quoted (Quoted.json text).toList text rest := by
  obtain ⟨cs, rfl⟩ : ∃ cs, text = String.ofList cs := ⟨text.toList, String.ofList_toList.symm⟩
  have some (c : Char) : (Quoted.jsonChar c).toList ≠ [] := by
    intro none
    have taken := takes_character c []
    rw [none] at taken
    cases taken
  have inner : Takes (many character) (cs.flatMap fun c => (Quoted.jsonChar c).toList)
      (cs.map id) ('"' :: rest) :=
    takes_many (fun _ => True) (fun c _ rest _ => takes_character c rest) (fun c _ => some c)
      (fun _ _ _ => trivial) trivial rfl
  have shape : (Quoted.json (String.ofList cs)).toList =
      ['"'] ++ ((cs.flatMap fun c => (Quoted.jsonChar c).toList) ++ ['"']) := by
    simp [Quoted.json, List.flatMap_map]
  rw [List.map_id] at inner
  rw [shape]
  exact (takes_char _ _).bind (inner.bind ((takes_char _ _).map (g := fun _ => String.ofList cs)))

/-! ## Numerals -/

/-- What a number cannot go on with. -/
def isNumeric (c : Char) : Bool := c.isDigit || c == '.' || c == 'e' || c == 'E'

theorem takes_digitRun {ds : List Nat} (some : ds ≠ []) (h : ∀ d ∈ ds, d < 10) {rest : List Char}
    (stop : Stops Char.isDigit rest) : Takes digitRun (ds.map digitChar) ds rest := by
  obtain ⟨d, ds, rfl⟩ := List.exists_cons_of_ne_nil some
  have all := isDigit_of_mem_map_digitChar h
  have same := map_toNat_digitChar h
  rw [List.map_cons, List.forall_mem_cons] at all
  have others := (takes_takeWhile all.2 stop).map
    (g := fun cs => (digitChar d :: cs).map fun c => c.toNat - '0'.toNat)
  rw [← List.map_cons (f := digitChar), same] at others
  exact (takes_satisfy all.1 _).bind others

/-- Digits begin with a digit. -/
theorem stops_map_digitChar {good : Char → Bool} (none : ∀ c, c.isDigit = true → good c = false)
    {ds : List Nat} (some : ds ≠ []) (h : ∀ d ∈ ds, d < 10) (rest : List Char) :
    Stops good (ds.map digitChar ++ rest) := by
  obtain ⟨d, ds, rfl⟩ := List.exists_cons_of_ne_nil some
  rw [List.map_cons, List.cons_append, stops_cons]
  exact none _ (isDigit_digitChar d (h d List.mem_cons_self))

theorem takes_minus (negative : Bool) {rest : List Char} (stop : Stops (· == '-') rest) :
    Takes minus (if negative then "-" else "").toList negative rest := by
  cases negative with
  | true => rfl
  | false => exact takes_orElse_of_eq_none (bind_eq_none (satisfy_eq_none stop)) (takes_pure _ _)

theorem takes_power (p : Int) {rest : List Char} (stop : Stops Char.isDigit rest) :
    Takes power ("e" ++ signed p).toList p rest := by
  have small : ∀ d ∈ digits p.natAbs, d < 10 := fun d hd => lt_ten_of_mem_digits hd
  have after {c : Char} (hc : c.isDigit = false) :
      Stops (· == c) ((digits p.natAbs).map digitChar ++ rest) :=
    stops_map_digitChar (fun _ => beq_eq_false_of_isDigit hc) (digits_ne_nil _) small rest
  have unsigned : Stops (· == '+') ((if decide (p < 0) then "-" else "").toList ++
      ((digits p.natAbs).map digitChar ++ rest)) := by
    split
    · exact stops_cons.2 rfl
    · exact after rfl
  have run := (takes_digitRun (digits_ne_nil _) small stop).map
    (g := fun ds => if decide (p < 0) then -(ofDigits ds : Int) else ofDigits ds)
  have same : (if decide (p < 0) then -(ofDigits (digits p.natAbs) : Int) else
      ofDigits (digits p.natAbs)) = p := by
    rw [ofDigits_digits]
    split_ifs with negative
    · rw [decide_eq_true_eq] at negative
      omega
    · rw [decide_eq_true_eq] at negative
      omega
  rw [same] at run
  rw [signed_eq, decimal, String.toList_append, String.toList_append, toList_ofDigitList]
  exact (takes_satisfy rfl _).bind ((takes_orElse_of_eq_none
    (bind_eq_none (satisfy_eq_none unsigned)) (takes_minus _ (after rfl))).bind run)

/-- Digits behind a point, or nothing if there are none. -/
theorem takes_places {ds : List Nat} (h : ∀ d ∈ ds, d < 10) {rest : List Char}
    (digit : Stops Char.isDigit rest) (point : Stops (· == '.') rest) :
    Takes (Parser.orElse (do let _ ← char '.'; digitRun) (return []))
      (if ds.isEmpty then [] else '.' :: ds.map digitChar) ds rest := by
  cases hds : ds.isEmpty with
  | true =>
    obtain rfl := List.isEmpty_iff.1 hds
    exact takes_orElse_of_eq_none (bind_eq_none (satisfy_eq_none point)) (takes_pure _ _)
  | false =>
    have some : ds ≠ [] := List.isEmpty_eq_false_iff.1 hds
    exact takes_orElse ((takes_char '.' _).bind (takes_digitRun some h digit))

/-- The text of a power of ten in JSON, without a plus sign. -/
def powerText (power : Option Int) : String :=
  power.elim "" fun p => "e" ++ signed p

theorem stops_powerText {good : Char → Bool} (power : Option Int) {rest : List Char}
    (e : good 'e' = false) (stop : Stops good rest) :
    Stops good ((powerText power).toList ++ rest) := by
  cases power with
  | none => exact stop
  | some p =>
    have shape : (powerText (some p)).toList ++ rest = 'e' :: ((signed p).toList ++ rest) := by
      rw [powerText, Option.elim_some, String.toList_append, List.append_assoc]
      rfl
    rw [shape, stops_cons]
    exact e

theorem takes_powerText (p : Option Int) {rest : List Char} (stop : Stops isNumeric rest) :
    Takes (Parser.optional power) (powerText p).toList p rest := by
  cases p with
  | none =>
    have e : Stops (fun c => c == 'e' || c == 'E') rest :=
      stop.mono (by simp +contextual [isNumeric])
    exact takes_orElse_of_eq_none (bind_eq_none (bind_eq_none (satisfy_eq_none e))) (takes_pure _ _)
  | some p =>
    exact takes_orElse ((takes_power p (stop.mono (by simp +contextual [isNumeric]))).map)

/-- The text of a numeral in JSON. -/
def numeralText (n : Numeral) : String :=
  n.sign ++ n.mantissa ++ powerText n.power

/-- A numeral is read as what its parts are worth. -/
theorem takes_worth {n : Numeral} (h : n.WellFormed) {rest : List Char}
    (stop : Stops isNumeric rest) : Takes worth (numeralText n).toList n.value rest := by
  obtain ⟨negative, whole, fraction, p⟩ := n
  obtain ⟨some, whole_lt, fraction_lt⟩ := h
  have digit : Stops Char.isDigit ((powerText p).toList ++ rest) :=
    stops_powerText p rfl (stop.mono (by simp +contextual [isNumeric]))
  have point : Stops (· == '.') ((powerText p).toList ++ rest) :=
    stops_powerText p rfl (stop.mono (by simp +contextual [isNumeric]))
  have places := takes_places fraction_lt digit point
  have places_stop : Stops Char.isDigit ((if fraction.isEmpty then [] else
      '.' :: fraction.map digitChar) ++ ((powerText p).toList ++ rest)) := by
    split
    · exact digit
    · exact stops_cons.2 rfl
  have unsigned (rest : List Char) : Stops (· == '-') (whole.map digitChar ++ rest) :=
    stops_map_digitChar (fun _ => beq_eq_false_of_isDigit rfl) some whole_lt rest
  have shape : (numeralText ⟨negative, whole, fraction, p⟩).toList =
      (if negative then "-" else "").toList ++ (whole.map digitChar ++
        ((if fraction.isEmpty then [] else '.' :: fraction.map digitChar) ++
          (powerText p).toList)) := by
    rw [numeralText, String.toList_append, String.toList_append, Numeral.toList_mantissa]
    simp only [Numeral.sign, List.append_assoc]
  rw [shape]
  refine (takes_minus negative ?_).bind (Takes.bind ?_ (places.bind (takes_powerText p stop).map))
  · rw [List.append_assoc]
    exact unsigned _
  · rw [List.append_assoc]
    exact takes_digitRun some whole_lt places_stop

/-! ## Scalars -/

theorem takes_null (rest : List Char) : Takes scalar "null".toList null rest :=
  takes_orElse (takes_literal "null" rest).map

theorem takes_boolean (b : Bool) (rest : List Char) :
    Takes scalar (if b then "true" else "false").toList (boolean b) rest := by
  cases b with
  | true => exact takes_orElse_of_eq_none rfl (takes_orElse (takes_literal "true" rest).map)
  | false =>
    exact takes_orElse_of_eq_none rfl <| takes_orElse_of_eq_none rfl <|
      takes_orElse (takes_literal "false" rest).map

theorem takes_text (shown : String) (rest : List Char) :
    Takes scalar (Quoted.json shown).toList (text shown) rest := by
  have front : (Quoted.json shown).toList ++ rest =
      '"' :: ((String.join (shown.toList.map Quoted.jsonChar) ++ "\"").toList ++ rest) := by
    simp [Quoted.json]
  refine takes_orElse_of_eq_none ?_ <| takes_orElse_of_eq_none ?_ <| takes_orElse_of_eq_none ?_ <|
    takes_orElse (takes_quoted shown rest).map <;>
  · rw [front]
    rfl

/-- A numeral begins with a sign or a digit. -/
theorem exists_toList_numeralText {n : Numeral} (h : n.WellFormed) :
    ∃ c cs, (numeralText n).toList = c :: cs ∧ (c = '-' ∨ c.isDigit = true) := by
  obtain ⟨d, ds, hwhole⟩ := List.exists_cons_of_ne_nil h.whole_ne_nil
  have digit := isDigit_digitChar d (h.whole_lt d (hwhole ▸ List.mem_cons_self))
  have shape : (numeralText n).toList = (if n.negative then "-" else "").toList ++
      (n.mantissa.toList ++ (powerText n.power).toList) := by
    rw [numeralText, String.toList_append, String.toList_append, List.append_assoc, Numeral.sign]
  rw [shape, Numeral.toList_mantissa, hwhole]
  cases n.negative with
  | true => exact ⟨_, _, rfl, .inl rfl⟩
  | false => exact ⟨_, _, rfl, .inr digit⟩

/-- A number is read as what it is worth. -/
theorem takes_number {n : Numeral} (h : n.WellFormed) {rest : List Char}
    (stop : Stops isNumeric rest) : Takes scalar (numeralText n).toList (number n.value) rest := by
  obtain ⟨c, cs, front, begins⟩ := exists_toList_numeralText h
  have other {d : Char} (hd : d.isDigit = false) (minus : d ≠ '-') : c ≠ d := by
    rintro rfl
    obtain rfl | digit := begins
    · exact minus rfl
    · rw [hd] at digit
      cases digit
  have noWord {word : String} {d : Char} (head : word.toList.head? = some d)
      (hd : d.isDigit = false) (minus : d ≠ '-') : literal word (c :: (cs ++ rest)) = none := by
    refine literal_eq_none (fun same => other hd minus (Option.some.inj (same.symm.trans head))) ?_
    rintro rfl
    cases head
  have noQuote : Stops (· == '"') (c :: (cs ++ rest)) :=
    stops_cons.2 (beq_eq_false_iff_ne.2 (other rfl (by decide)))
  refine takes_orElse_of_eq_none ?_ <| takes_orElse_of_eq_none ?_ <| takes_orElse_of_eq_none ?_ <|
    takes_orElse_of_eq_none ?_ <| takes_orElse (takes_worth h stop).map
  all_goals rw [front, List.cons_append]
  · exact bind_eq_none (noWord (d := 'n') rfl rfl (by decide))
  · exact bind_eq_none (noWord (d := 't') rfl rfl (by decide))
  · exact bind_eq_none (noWord (d := 'f') rfl rfl (by decide))
  · exact bind_eq_none (bind_eq_none (satisfy_eq_none noQuote))

/-! ## Values between brackets -/

variable {p : Parser α} {text blanks rest : List Char} {a : α} {c : Char}

/-- A new line with blanks in front. -/
def indent (width : Nat) : List Char := '\n' :: List.replicate width ' '

theorem isBlank_of_mem_indent {width : Nat} (h : c ∈ indent width) : isBlank c = true := by
  rw [indent, List.mem_cons, List.mem_replicate] at h
  obtain rfl | ⟨-, rfl⟩ := h <;> rfl

/-- Blanks in front of a text that begins with none are skipped. -/
theorem takes_token (all : ∀ c ∈ blanks, isBlank c = true) (front : Stops isBlank (text ++ rest))
    (h : Takes p text a rest) : Takes (token p) (blanks ++ text) a rest :=
  (takes_takeWhile all front).bind h

/-- Blanks before a mark are skipped. -/
theorem takes_mark (all : ∀ c ∈ blanks, isBlank c = true) (hc : isBlank c = false)
    (rest : List Char) : Takes (token (char c)) (blanks ++ [c]) c rest :=
  takes_token all (stops_cons.2 hc) (takes_char c rest)

theorem mark_eq_none {d : Char} (all : ∀ c ∈ blanks, isBlank c = true) (hd : isBlank d = false)
    (other : d ≠ c) : token (char c) (blanks ++ d :: rest) = none := by
  have skipped := takes_takeWhile all (stops_cons.2 hd : Stops isBlank (d :: rest))
  rw [Takes] at skipped
  have none := satisfy_eq_none (stops_cons.2 (beq_eq_false_iff_ne.2 other) :
    Stops (· == c) (d :: rest))
  simp only [token, Bind.bind, Parser.bind, skipped]
  exact none

/-- What is read as a scalar begins with no blank. -/
theorem stops_of_scalar {result : Json × List Char} (h : scalar text = some result) :
    Stops isBlank text := by
  cases text with
  | nil => exact stops_nil
  | cons c text =>
    rw [stops_cons, Bool.eq_false_iff]
    intro blank
    simp only [isBlank, Bool.or_eq_true, beq_iff_eq] at blank
    obtain ((rfl | rfl) | rfl) | rfl := blank <;> cases h

/-- Blanks before a value are skipped. -/
theorem takes_value (depth : Nat) (all : ∀ c ∈ blanks, isBlank c = true) {json : Json}
    (h : Takes scalar text json rest) : Takes (value (depth + 1)) (blanks ++ text) json rest :=
  takes_token all (stops_of_scalar h) (takes_orElse h)

section Listed

variable {ι : Type} {shown : ι → List Char} {meant : ι → α} {first : ι} {items : List ι}
  {left right : Char}

/-- Blanks are not part of a number, so one ends before them. -/
theorem stops_blanks (all : ∀ c ∈ blanks, isBlank c = true) (hc : isNumeric c = false) :
    Stops isNumeric (blanks ++ c :: rest) := by
  cases blanks with
  | nil => exact stops_cons.2 hc
  | cons d blanks =>
    have blank := all d List.mem_cons_self
    simp only [isBlank, Bool.or_eq_true, beq_iff_eq] at blank
    obtain ((rfl | rfl) | rfl) | rfl := blank <;> exact stops_cons.2 rfl

/-- Items are read from between brackets if each of them is read from its text, whatever follows
that a number cannot go on with, and the first one does not look like the end. -/
theorem takes_listed (hleft : isBlank left = false)
    (hright : isBlank right = false ∧ isNumeric right = false ∧ right ≠ ',')
    (all : ∀ c ∈ blanks, isBlank c = true)
    (each : ∀ item ∈ first :: items, ∀ rest, Stops isNumeric rest →
      Takes p (shown item) (meant item) rest)
    (opens : ∀ rest, token (char right) (shown first ++ rest) = none) (rest : List Char) :
    Takes (listed left right p)
      ([left] ++ ((shown first ++ items.flatMap fun item => [','] ++ shown item) ++
        (blanks ++ [right]))) ((first :: items).map meant) rest := by
  obtain ⟨hright, ends, differs⟩ := hright
  have comma (rest : List Char) : Takes (token (char ',')) [','] ',' rest :=
    takes_mark (List.forall_mem_nil _) rfl rest
  have closing : (blanks ++ [right]) ++ rest = blanks ++ right :: rest := by
    rw [List.append_assoc, List.singleton_append]
  have stop : Stops isNumeric ((blanks ++ [right]) ++ rest) := closing ▸ stops_blanks all ends
  have last : token (char ',') ((blanks ++ [right]) ++ rest) = none :=
    closing ▸ mark_eq_none all hright differs
  have inside := takes_separated (Stops isNumeric) each comma (List.cons_ne_nil _ _)
    (fun _ => stops_cons.2 rfl) stop last
  refine (takes_mark (List.forall_mem_nil _) hleft _).bind (takes_orElse_of_eq_none
    (bind_eq_none ?_) (inside.bind (takes_mark all hright rest).map))
  rw [List.append_assoc, List.append_assoc]
  exact opens _

end Listed

theorem takes_array {depth : Nat} {items : List Json} (all : ∀ c ∈ blanks, isBlank c = true)
    (h : Takes (listed '[' ']' (value depth)) ('[' :: text) items rest) :
    Takes (value (depth + 1)) (blanks ++ '[' :: text) (array items) rest :=
  takes_token all (stops_cons.2 rfl) <| takes_orElse_of_eq_none rfl <| takes_orElse h.map

theorem takes_object {depth : Nat} {members : List (String × Json)}
    (all : ∀ c ∈ blanks, isBlank c = true)
    (h : Takes (listed '\x7b' '\x7d' (member (value depth))) ('\x7b' :: text) members rest) :
    Takes (value (depth + 1)) (blanks ++ '\x7b' :: text) (object members) rest :=
  takes_token all (stops_cons.2 rfl) <| takes_orElse_of_eq_none rfl <|
    takes_orElse_of_eq_none rfl <| takes_orElse h.map

/-- A text with nothing behind it is read as what it says. -/
theorem read_eq_some {shown : String} {json : Json}
    (h : Takes (value (shown.length + 1)) shown.toList json []) : read shown = some json := by
  rw [Takes, List.append_nil] at h
  simp only [read, Bind.bind, Parser.bind, h]
  rfl

end Json

end SqlWire
