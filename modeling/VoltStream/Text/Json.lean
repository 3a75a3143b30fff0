/-
Module: VoltStream.Text.Json
Purpose: JSON as Python writes it and as JavaScript reads it: what is written is read back,
  unless it has an infinity or NaN in it, which is no JSON.
Trusted boundary: human-reviewed spec of `json.dumps` with its defaults, and of `JSON.parse`
Main exports: Json, Json.dumps, Json.parse, Json.toScript, utf16, Json.parse_dumps,
  Json.allPrintable_dumps
-/
import VoltStream.Text.Numeral

namespace VoltStream.Text

open Numeric

/-- A JSON value, with numbers in `ν` and texts in `σ`. -/
inductive Json (ν σ : Type) where
  | null
  | bool (value : Bool)
  | number (value : ν)
  | string (text : σ)
  | array (items : List (Json ν σ))
  | object (members : List (σ × Json ν σ))

/-! ### Characters and code units -/

/-- The UTF-16 code units of a character. -/
def utf16 (character : Char) : List Nat :=
  if character.toNat < 0x10000 then [character.toNat]
  else
    [0xD800 + (character.toNat - 0x10000) / 0x400, 0xDC00 + (character.toNat - 0x10000) % 0x400]

/-- A hexadecimal digit. -/
def hexDigit (digit : Nat) : Char :=
  if digit < 10 then Char.ofNat (48 + digit) else Char.ofNat (87 + digit)

/-- The value of a hexadecimal digit. -/
def hexValue (character : Char) : Option Nat :=
  if '0' ≤ character ∧ character ≤ '9' then some (character.toNat - 48)
  else if 'a' ≤ character ∧ character ≤ 'f' then some (character.toNat - 87)
  else if 'A' ≤ character ∧ character ≤ 'F' then some (character.toNat - 55)
  else none

/-- `\u` and four digits for a code unit. -/
def escapeUnit (unit : Nat) : List Char :=
  ['\\', 'u', hexDigit (unit / 0x1000), hexDigit (unit / 0x100 % 0x10),
    hexDigit (unit / 0x10 % 0x10), hexDigit (unit % 0x10)]

/-- The code unit that four digits stand for. -/
def readUnit (first second third fourth : Char) : Option Nat := do
  let one ← hexValue first
  let two ← hexValue second
  let three ← hexValue third
  let four ← hexValue fourth
  return one * 0x1000 + two * 0x100 + three * 0x10 + four

/-- The character that is printed after a backslash for this one. -/
def shortEscape (character : Char) : Option Char :=
  if character = '"' then some '"'
  else if character = '\\' then some '\\'
  else if character = '\n' then some 'n'
  else if character = '\r' then some 'r'
  else if character = '\t' then some 't'
  else if character = '\x0c' then some 'f'
  else if character = '\x08' then some 'b'
  else none

/-- What a character after a backslash stands for. -/
def readShortEscape (character : Char) : Option Char :=
  if character = '"' then some '"'
  else if character = '\\' then some '\\'
  else if character = '/' then some '/'
  else if character = 'n' then some '\n'
  else if character = 'r' then some '\r'
  else if character = 't' then some '\t'
  else if character = 'f' then some '\x0c'
  else if character = 'b' then some '\x08'
  else none

/-- From a space to a tilde. -/
def IsPrintable (character : Char) : Prop := ' ' ≤ character ∧ character ≤ '~'

instance : DecidablePred IsPrintable := fun _ => inferInstanceAs (Decidable (_ ∧ _))

/-- A character in a string; with `ensure_ascii` only printable ones stand for themselves. -/
def escape (character : Char) : List Char :=
  match shortEscape character with
  | some short => ['\\', short]
  | none => if IsPrintable character then [character] else (utf16 character).flatMap escapeUnit

/-- The code units up to the closing quote, and what comes after it. -/
def readString : List Char → Option (List Nat × List Char)
  | [] => none
  | '"' :: rest => some ([], rest)
  | '\\' :: 'u' :: first :: second :: third :: fourth :: rest => do
      let unit ← readUnit first second third fourth
      let (units, left) ← readString rest
      return (unit :: units, left)
  | '\\' :: character :: rest => do
      let short ← readShortEscape character
      let (units, left) ← readString rest
      return (utf16 short ++ units, left)
  | character :: rest => do
      if character < ' ' then none
      let (units, left) ← readString rest
      return (utf16 character ++ units, left)

/-! ### Values -/

/-- A string between quotes. -/
def quoted (text : List Char) : List Char := '"' :: text.flatMap escape ++ ['"']

/-- White space between the parts of a value. -/
def skipSpace (text : List Char) : List Char :=
  text.dropWhile fun character => character ∈ [' ', '\n', '\r', '\t']

/-- The text goes on with these characters. -/
def expect (wanted text : List Char) : Option (List Char) :=
  if wanted <+: text then some (text.drop wanted.length) else none

namespace Json

variable (repr : ℚ → List Char)

mutual

/-- `json.dumps`, with what `repr` makes of a finite float. -/
def dumps : Json PythonNumber (List Char) → List Char
  | .null => ['n', 'u', 'l', 'l']
  | .bool true => ['t', 'r', 'u', 'e']
  | .bool false => ['f', 'a', 'l', 's', 'e']
  | .number value => value.print repr
  | .string text => quoted text
  | .array items => '[' :: List.intercalate [',', ' '] (dumpsItems items) ++ [']']
  | .object members => '{' :: List.intercalate [',', ' '] (dumpsMembers members) ++ ['}']

def dumpsItems : List (Json PythonNumber (List Char)) → List (List Char)
  | [] => []
  | item :: rest => dumps item :: dumpsItems rest

def dumpsMembers : List (List Char × Json PythonNumber (List Char)) → List (List Char)
  | [] => []
  | (name, value) :: rest => (quoted name ++ ':' :: ' ' :: dumps value) :: dumpsMembers rest

end

mutual

/-- The value as JavaScript has it, if all its numbers are numbers of JSON. -/
def toScript : Json PythonNumber (List Char) → Option (Json Double (List Nat))
  | .null => some .null
  | .bool value => some (.bool value)
  | .number value => value.toScript.map .number
  | .string text => some (.string (text.flatMap utf16))
  | .array items => (itemsToScript items).map .array
  | .object members => (membersToScript members).map .object

def itemsToScript : List (Json PythonNumber (List Char)) → Option (List (Json Double (List Nat)))
  | [] => some []
  | item :: rest => do
      let value ← toScript item
      let later ← itemsToScript rest
      return value :: later

def membersToScript : List (List Char × Json PythonNumber (List Char)) →
    Option (List (List Nat × Json Double (List Nat)))
  | [] => some []
  | (name, member) :: rest => do
      let value ← toScript member
      let later ← membersToScript rest
      return (name.flatMap utf16, value) :: later

end

mutual

/-- The value at the start of a text, and what comes after it. -/
def readValue : Nat → List Char → Option (Json Double (List Nat) × List Char)
  | 0, _ => none
  | _ + 1, [] => none
  | fuel + 1, character :: rest =>
      if character = 'n' then (expect ['u', 'l', 'l'] rest).map (Json.null, ·)
      else if character = 't' then (expect ['r', 'u', 'e'] rest).map (Json.bool true, ·)
      else if character = 'f' then (expect ['a', 'l', 's', 'e'] rest).map (Json.bool false, ·)
      else if character = '"' then
        (readString rest).map fun found => (.string found.1, found.2)
      else if character = '[' then
        match skipSpace rest with
        | ']' :: left => some (.array [], left)
        | more => (readItems fuel more).map fun found => (.array found.1, found.2)
      else if character = '{' then
        match skipSpace rest with
        | '}' :: left => some (.object [], left)
        | more => (readMembers fuel more).map fun found => (.object found.1, found.2)
      else
        (readNumber ((character :: rest).takeWhile IsNumeral)).map fun number =>
          (.number number, (character :: rest).dropWhile IsNumeral)

/-- The items of an array, of which there is one more. -/
def readItems : Nat → List Char → Option (List (Json Double (List Nat)) × List Char)
  | 0, _ => none
  | fuel + 1, text => do
      let (item, after) ← readValue fuel (skipSpace text)
      match skipSpace after with
      | ',' :: more => (readItems fuel more).map fun found => (item :: found.1, found.2)
      | ']' :: left => some ([item], left)
      | _ => none

/-- The members of an object, of which there is one more. -/
def readMembers : Nat → List Char → Option (List (List Nat × Json Double (List Nat)) × List Char)
  | 0, _ => none
  | fuel + 1, text => do
      let opened ← expect ['"'] (skipSpace text)
      let (name, afterName) ← readString opened
      let afterColon ← expect [':'] (skipSpace afterName)
      let (value, after) ← readValue fuel (skipSpace afterColon)
      match skipSpace after with
      | ',' :: more => (readMembers fuel more).map fun found => ((name, value) :: found.1, found.2)
      | '}' :: left => some ([(name, value)], left)
      | _ => none

end

/-- `JSON.parse`; without a value it throws. -/
def parse (text : List Char) : Option (Json Double (List Nat)) :=
  match readValue (text.length + 1) (skipSpace text) with
  | some (value, left) => if skipSpace left = [] then some value else none
  | none => none

end Json

/-! ### What is written in a string is read back -/

theorem hexValue_hexDigit : ∀ digit < 16, hexValue (hexDigit digit) = some digit := by
  decide +kernel

theorem readUnit_of_digits {first second third fourth : Nat} (hfirst : first < 16)
    (hsecond : second < 16) (hthird : third < 16) (hfourth : fourth < 16) :
    readUnit (hexDigit first) (hexDigit second) (hexDigit third) (hexDigit fourth) =
      some (first * 0x1000 + second * 0x100 + third * 0x10 + fourth) := by
  simp only [readUnit, hexValue_hexDigit _ hfirst, hexValue_hexDigit _ hsecond,
    hexValue_hexDigit _ hthird, hexValue_hexDigit _ hfourth, Option.bind_eq_bind,
    Option.bind_some, Option.pure_def]

/-- What is read in front of the rest of a string. -/
def inFront (units : List Nat) (later : Option (List Nat × List Char)) :
    Option (List Nat × List Char) :=
  later.map fun found => (units ++ found.1, found.2)

theorem inFront_append (first second : List Nat) (later : Option (List Nat × List Char)) :
    inFront (first ++ second) later = inFront first (inFront second later) := by
  cases later <;> simp [inFront]

theorem readString_escapeUnit {unit : Nat} (small : unit < 0x10000) (rest : List Char) :
    readString (escapeUnit unit ++ rest) = inFront [unit] (readString rest) := by
  have digits := readUnit_of_digits (show unit / 0x1000 < 16 by omega)
    (show unit / 0x100 % 0x10 < 16 by omega) (show unit / 0x10 % 0x10 < 16 by omega)
    (show unit % 0x10 < 16 by omega)
  have same : unit / 0x1000 * 0x1000 + unit / 0x100 % 0x10 * 0x100 + unit / 0x10 % 0x10 * 0x10 +
      unit % 0x10 = unit := by omega
  rw [same] at digits
  simp only [escapeUnit, List.cons_append, List.nil_append]
  rw [readString, digits]
  cases readString rest <;> rfl

theorem readString_escapeUnits {units : List Nat} (small : ∀ unit ∈ units, unit < 0x10000)
    (rest : List Char) :
    readString (units.flatMap escapeUnit ++ rest) = inFront units (readString rest) := by
  induction units with
  | nil =>
      rw [List.flatMap_nil, List.nil_append]
      cases readString rest <;> rfl
  | cons unit others ih =>
      obtain ⟨smallUnit, smallOthers⟩ := List.forall_mem_cons.mp small
      rw [List.flatMap_cons, List.append_assoc, readString_escapeUnit smallUnit, ih smallOthers,
        ← inFront_append]
      rfl

theorem utf16_lt (character : Char) : ∀ unit ∈ utf16 character, unit < 0x10000 := by
  have valid : character.toNat < 0x110000 := by
    rcases character.valid with low | high
    · exact lt_trans low (by norm_num)
    · exact high.2
  intro unit isUnit
  unfold utf16 at isUnit
  split at isUnit
  · obtain rfl := List.mem_singleton.mp isUnit
    assumption
  · simp only [List.mem_cons, List.not_mem_nil, or_false] at isUnit
    omega

theorem shortEscape_eq_some {character short : Char}
    (escaped : shortEscape character = some short) :
    readShortEscape short = some character ∧ short ≠ 'u' := by
  unfold shortEscape at escaped
  split_ifs at escaped with h1 h2 h3 h4 h5 h6 h7 <;>
    (obtain rfl := Option.some.inj escaped; subst_vars; decide)

theorem readString_escape (character : Char) (rest : List Char) :
    readString (escape character ++ rest) = inFront (utf16 character) (readString rest) := by
  unfold escape
  cases escaped : shortEscape character with
  | some short =>
      obtain ⟨isShort, notUnit⟩ := shortEscape_eq_some escaped
      simp only [List.cons_append, List.nil_append]
      rw [readString, isShort]
      · cases readString rest <;> rfl
      · exact fun _ _ _ _ _ isUnit => absurd isUnit notUnit
  | none =>
      by_cases printable : IsPrintable character
      · have notQuote : character ≠ '"' := by
          rintro rfl
          exact absurd escaped (by decide)
        have notBackslash : character ≠ '\\' := by
          rintro rfl
          exact absurd escaped (by decide)
        simp only [if_pos printable, List.cons_append, List.nil_append]
        rw [readString, if_neg (not_lt.mpr printable.1)]
        · cases readString rest <;> rfl
        · exact notQuote
        · exact fun _ _ _ _ _ isBackslash => absurd isBackslash notBackslash
        · exact fun _ _ isBackslash => absurd isBackslash notBackslash
      · simp only [if_neg printable]
        exact readString_escapeUnits (utf16_lt character) rest

/-- A string, with its closing quote. -/
theorem readString_string (text rest : List Char) :
    readString (text.flatMap escape ++ '"' :: rest) = some (text.flatMap utf16, rest) := by
  induction text with
  | nil => rw [List.flatMap_nil, List.nil_append, readString, List.flatMap_nil]
  | cons character others ih =>
      rw [List.flatMap_cons, List.append_assoc, readString_escape, ih, List.flatMap_cons]
      rfl

/-! ### What is written is read back -/

/-- The character starts a value. -/
def Opens (character : Char) : Prop := character ∉ [' ', '\n', '\r', '\t'] ∧ character ≠ ']'

instance : DecidablePred Opens := fun _ => inferInstanceAs (Decidable (_ ∧ _))

/-- No number goes on with this text. -/
def EndsNumber (text : List Char) : Prop := ∀ character ∈ text.head?, ¬ IsNumeral character

theorem skipSpace_cons {character : Char} (visible : character ∉ [' ', '\n', '\r', '\t'])
    (text : List Char) : skipSpace (character :: text) = character :: text :=
  List.dropWhile_cons_of_neg (by simpa using visible)

theorem expect_append (wanted text : List Char) : expect wanted (wanted ++ text) = some text := by
  rw [expect, if_pos (List.prefix_append ..), List.drop_left]

theorem opens_of_isNumeral {character : Char} (numeral : IsNumeral character) :
    Opens character ∧ character ∉ ['n', 't', 'f', '"', '[', '{'] := by
  constructor
  · constructor
    · intro isSpace
      simp only [List.mem_cons, List.not_mem_nil, or_false] at isSpace
      rcases isSpace with rfl | rfl | rfl | rfl <;> exact absurd numeral (by decide)
    · rintro rfl
      exact absurd numeral (by decide)
  · intro isOther
    simp only [List.mem_cons, List.not_mem_nil, or_false] at isOther
    rcases isOther with rfl | rfl | rfl | rfl | rfl | rfl <;> exact absurd numeral (by decide)

/-- A number takes all its characters. -/
theorem span_numeral {token rest : List Char} (all : ∀ character ∈ token, IsNumeral character)
    (ends : EndsNumber rest) :
    (token ++ rest).takeWhile IsNumeral = token ∧ (token ++ rest).dropWhile IsNumeral = rest := by
  have isNumeral : ∀ character ∈ token, decide (IsNumeral character) = true :=
    fun character inToken => decide_eq_true (all character inToken)
  rw [List.takeWhile_append_of_pos isNumeral, List.dropWhile_append_of_pos isNumeral]
  cases rest with
  | nil => exact ⟨List.append_nil _, rfl⟩
  | cons next later =>
      have notNumeral := ends next rfl
      simp [notNumeral]

namespace Json

variable {repr : ℚ → List Char}

/-- The start of a value that is no number of JSON is read as none either. -/
theorem readValue_of_toScript_none (repr : ℚ → List Char) {value : PythonNumber}
    (noNumber : value.toScript = none) (fuel : Nat) (rest : List Char) :
    readValue (fuel + 1) (value.print repr ++ rest) = none := by
  have names := print_of_toScript_none repr noNumber
  simp only [List.mem_cons, List.not_mem_nil, or_false] at names
  rcases names with isName | isName | isName <;>
    (rw [isName]
     simp only [List.cons_append]
     rw [readValue, if_neg (by decide), if_neg (by decide), if_neg (by decide),
      if_neg (by decide), if_neg (by decide), if_neg (by decide)]
     rfl)

theorem endsNumber_cons {character : Char} (notNumeral : ¬ IsNumeral character)
    (text : List Char) : EndsNumber (character :: text) := by
  rintro next isNext
  obtain rfl := Option.some.inj isNext
  exact notNumeral

theorem skipSpace_space (text : List Char) : skipSpace (' ' :: text) = skipSpace text :=
  List.dropWhile_cons_of_pos (by decide)

theorem readItems_space (fuel : Nat) (text : List Char) :
    readItems fuel (' ' :: text) = readItems fuel text := by
  cases fuel with
  | zero => rfl
  | succ fuel => rw [readItems, readItems, skipSpace_space]

theorem readMembers_space (fuel : Nat) (text : List Char) :
    readMembers fuel (' ' :: text) = readMembers fuel text := by
  cases fuel with
  | zero => rfl
  | succ fuel => rw [readMembers, readMembers, skipSpace_space]

/-- The items of an array start with the first of them. -/
theorem dumpsItems_eq_append (item : Json PythonNumber (List Char))
    (others : List (Json PythonNumber (List Char))) :
    ∃ later, List.intercalate [',', ' '] (dumpsItems repr (item :: others)) =
      dumps repr item ++ later := by
  cases others with
  | nil => exact ⟨[], by rw [dumpsItems, dumpsItems, List.intercalate_singleton, List.append_nil]⟩
  | cons next others =>
      rw [dumpsItems, dumpsItems, List.intercalate_cons_cons, List.append_assoc]
      exact ⟨_, rfl⟩

/-- The members of an object start with a quote. -/
theorem dumpsMembers_eq_cons (repr : ℚ → List Char)
    (member : List Char × Json PythonNumber (List Char))
    (others : List (List Char × Json PythonNumber (List Char))) :
    ∃ later, List.intercalate [',', ' '] (dumpsMembers repr (member :: others)) =
      '"' :: later := by
  obtain ⟨name, value⟩ := member
  cases others with
  | nil =>
      rw [dumpsMembers, dumpsMembers, List.intercalate_singleton]
      exact ⟨_, rfl⟩
  | cons next others =>
      obtain ⟨nextName, nextValue⟩ := next
      rw [dumpsMembers, dumpsMembers, List.intercalate_cons_cons]
      exact ⟨_, rfl⟩

theorem readValue_array (fuel : Nat) {character : Char} (notEnd : character ≠ ']')
    {text rest : List Char} (next : skipSpace rest = character :: text) :
    readValue (fuel + 1) ('[' :: rest) =
      (readItems fuel (character :: text)).map fun found =>
        (.array found.1, found.2) := by
  rw [readValue, if_neg (by decide), if_neg (by decide), if_neg (by decide), if_neg (by decide),
    if_pos rfl, next]
  split
  · rename_i isEnd
    exact absurd (List.cons.inj isEnd).1 notEnd
  · rfl

theorem readValue_object (fuel : Nat) {character : Char} (notEnd : character ≠ '}')
    {text rest : List Char} (next : skipSpace rest = character :: text) :
    readValue (fuel + 1) ('{' :: rest) =
      (readMembers fuel (character :: text)).map fun found =>
        (.object found.1, found.2) := by
  rw [readValue, if_neg (by decide), if_neg (by decide), if_neg (by decide), if_neg (by decide),
    if_neg (by decide), if_pos rfl, next]
  split
  · rename_i isEnd
    exact absurd (List.cons.inj isEnd).1 notEnd
  · rfl

variable (readsBack : ReadsBack repr)

include readsBack

/-- A value starts visibly. -/
theorem dumps_eq_cons (value : Json PythonNumber (List Char)) :
    ∃ character text, dumps repr value = character :: text ∧ Opens character := by
  cases value with
  | null => exact ⟨_, _, by rw [dumps], by decide⟩
  | bool value =>
      cases value
      · exact ⟨_, _, by rw [dumps], by decide⟩
      · exact ⟨_, _, by rw [dumps], by decide⟩
  | number value =>
      rw [dumps]
      cases isNumber : value.toScript with
      | none =>
          have names := print_of_toScript_none repr isNumber
          simp only [List.mem_cons, List.not_mem_nil, or_false] at names
          rcases names with isName | isName | isName <;> exact ⟨_, _, isName, by decide⟩
      | some number =>
          obtain ⟨notEmpty, all⟩ := isNumeral_print readsBack isNumber
          obtain ⟨character, text, printed⟩ := List.exists_cons_of_ne_nil notEmpty
          exact ⟨character, text, printed,
            (opens_of_isNumeral (all character (printed ▸ List.mem_cons_self))).1⟩
  | string text => exact ⟨_, _, by rw [dumps]; rfl, by decide⟩
  | array items => exact ⟨_, _, by rw [dumps]; rfl, by decide⟩
  | object members => exact ⟨_, _, by rw [dumps]; rfl, by decide⟩

theorem length_dumps_pos (value : Json PythonNumber (List Char)) :
    0 < (dumps repr value).length := by
  obtain ⟨character, text, isCons, -⟩ := dumps_eq_cons readsBack value
  rw [isCons]
  exact Nat.succ_pos _

theorem skipSpace_dumps (value : Json PythonNumber (List Char)) (rest : List Char) :
    skipSpace (dumps repr value ++ rest) = dumps repr value ++ rest := by
  obtain ⟨character, text, isCons, opens⟩ := dumps_eq_cons readsBack value
  rw [isCons, List.cons_append, skipSpace_cons opens.1]

theorem readValue_number (value : PythonNumber) (fuel : Nat) {rest : List Char}
    (ends : EndsNumber rest) :
    readValue (fuel + 1) (value.print repr ++ rest) =
      value.toScript.map fun number => (.number number, rest) := by
  cases isNumber : value.toScript with
  | none => exact readValue_of_toScript_none repr isNumber fuel rest
  | some number =>
      obtain ⟨notEmpty, all⟩ := isNumeral_print readsBack isNumber
      obtain ⟨character, text, printed⟩ := List.exists_cons_of_ne_nil notEmpty
      have other := (opens_of_isNumeral (all character (printed ▸ List.mem_cons_self))).2
      simp only [List.mem_cons, List.not_mem_nil, or_false, not_or] at other
      obtain ⟨notN, notT, notF, notQuote, notArray, notObject⟩ := other
      have token := span_numeral all ends
      have found : readValue (fuel + 1) (character :: (text ++ rest)) =
          (readNumber ((character :: (text ++ rest)).takeWhile IsNumeral)).map fun number =>
            (.number number, (character :: (text ++ rest)).dropWhile IsNumeral) := by
        rw [readValue, if_neg notN, if_neg notT, if_neg notF, if_neg notQuote, if_neg notArray,
          if_neg notObject]
      rw [printed, List.cons_append, found, ← List.cons_append, ← printed, token.1, token.2,
        readNumber_print readsBack isNumber]

/-- A member, up to what comes after it. -/
theorem readMember (name : List Char) (value : Json PythonNumber (List Char)) (rest : List Char) :
    ∃ opened afterName afterColon,
      expect ['"'] (skipSpace (quoted name ++ ':' :: ' ' :: dumps repr value ++ rest)) =
          some opened ∧
        readString opened = some (name.flatMap utf16, afterName) ∧
        expect [':'] (skipSpace afterName) = some afterColon ∧
        skipSpace afterColon = dumps repr value ++ rest := by
  refine ⟨name.flatMap escape ++ '"' :: (':' :: ' ' :: dumps repr value ++ rest),
    ':' :: ' ' :: dumps repr value ++ rest, ' ' :: dumps repr value ++ rest,
    ?_, ?_, ?_, ?_⟩
  · have isQuoted : quoted name ++ ':' :: ' ' :: dumps repr value ++ rest =
        '"' :: (name.flatMap escape ++ '"' :: (':' :: ' ' :: dumps repr value ++ rest)) := by
      simp only [quoted, List.cons_append, List.append_assoc, List.nil_append]
    rw [isQuoted, skipSpace_cons (by decide)]
    exact expect_append ['"'] _
  · exact readString_string name _
  · rw [List.cons_append, skipSpace_cons (by decide)]
    exact expect_append [':'] _
  · rw [List.cons_append, skipSpace_space, skipSpace_dumps readsBack]

mutual

/-- With fuel for its text, a value is read back, whatever comes after it, or none is where
there is none. -/
theorem readValue_dumps : ∀ (value : Json PythonNumber (List Char)) (fuel : Nat)
    (rest : List Char), (dumps repr value).length ≤ fuel → EndsNumber rest →
      readValue fuel (dumps repr value ++ rest) = (toScript value).map fun read => (read, rest)
  | value, 0, _, enough, _ => absurd (length_dumps_pos readsBack value) (Nat.not_lt.mpr enough)
  | .null, fuel + 1, rest, _, _ => by
      simp only [dumps, List.cons_append, List.nil_append, readValue, if_true]
      rw [show expect ['u', 'l', 'l'] ('u' :: 'l' :: 'l' :: rest) = some rest from
        expect_append ['u', 'l', 'l'] rest]
      rfl
  | .bool true, fuel + 1, rest, _, _ => by
      simp only [dumps, List.cons_append, List.nil_append, readValue]
      rw [show expect ['r', 'u', 'e'] ('r' :: 'u' :: 'e' :: rest) = some rest from
        expect_append ['r', 'u', 'e'] rest]
      rfl
  | .bool false, fuel + 1, rest, _, _ => by
      simp only [dumps, List.cons_append, List.nil_append, readValue]
      rw [show expect ['a', 'l', 's', 'e'] ('a' :: 'l' :: 's' :: 'e' :: rest) = some rest from
        expect_append ['a', 'l', 's', 'e'] rest]
      rfl
  | .number value, fuel + 1, rest, _, ends => by
      rw [dumps, readValue_number readsBack value fuel ends, toScript, Option.map_map]
      rfl
  | .string text, fuel + 1, rest, _, _ => by
      simp only [dumps, quoted, List.cons_append, List.append_assoc, List.nil_append, readValue]
      rw [readString_string]
      rfl
  | .array [], fuel + 1, rest, _, _ => by
      simp only [dumps, dumpsItems, List.intercalate_nil, List.cons_append, List.nil_append,
        readValue]
      rw [skipSpace_cons (by decide)]
      rfl
  | .array (item :: others), fuel + 1, rest, enough, _ => by
      have items := readItems_dumpsItems item others fuel rest (by
        rw [dumps, List.length_append, List.length_cons, List.length_singleton] at enough
        omega)
      obtain ⟨later, isAppend⟩ := dumpsItems_eq_append item others
      obtain ⟨character, text, isCons, opens⟩ := dumps_eq_cons readsBack item
      have next : skipSpace (List.intercalate [',', ' '] (dumpsItems repr (item :: others)) ++
          ']' :: rest) = character :: (text ++ later ++ ']' :: rest) := by
        rw [isAppend, isCons, List.cons_append, List.cons_append, skipSpace_cons opens.1]
      have isFirst : List.intercalate [',', ' '] (dumpsItems repr (item :: others)) ++
          ']' :: rest = character :: (text ++ later ++ ']' :: rest) := by
        rw [isAppend, isCons, List.cons_append, List.cons_append]
      rw [dumps, List.cons_append, List.cons_append, List.append_assoc, List.singleton_append,
        readValue_array fuel opens.2 next, ← isFirst, items, toScript, Option.map_map,
        Option.map_map]
      rfl
  | .object [], fuel + 1, rest, _, _ => by
      simp only [dumps, dumpsMembers, List.intercalate_nil, List.cons_append, List.nil_append,
        readValue]
      rw [skipSpace_cons (by decide)]
      rfl
  | .object (member :: others), fuel + 1, rest, enough, _ => by
      have members := readMembers_dumpsMembers member others fuel rest (by
        rw [dumps, List.length_append, List.length_cons, List.length_singleton] at enough
        omega)
      obtain ⟨later, isCons⟩ := dumpsMembers_eq_cons repr member others
      have next : skipSpace (List.intercalate [',', ' '] (dumpsMembers repr
          (member :: others)) ++ '}' :: rest) = '"' :: (later ++ '}' :: rest) := by
        rw [isCons, List.cons_append, skipSpace_cons (by decide)]
      rw [dumps, List.cons_append, List.cons_append, List.append_assoc, List.singleton_append,
        readValue_object fuel (by decide) next, ← List.cons_append, ← isCons, members, toScript,
        Option.map_map, Option.map_map]
      rfl

/-- The items of an array, with its closing bracket. -/
theorem readItems_dumpsItems : ∀ (item : Json PythonNumber (List Char))
    (others : List (Json PythonNumber (List Char))) (fuel : Nat) (rest : List Char),
    (List.intercalate [',', ' '] (dumpsItems repr (item :: others))).length + 1 ≤ fuel →
      readItems fuel
          (List.intercalate [',', ' '] (dumpsItems repr (item :: others)) ++ ']' :: rest) =
        (itemsToScript (item :: others)).map fun read => (read, rest)
  | item, [], fuel + 1, rest, enough => by
      simp only [dumpsItems, List.intercalate_singleton] at enough ⊢
      have one := readValue_dumps item fuel (']' :: rest) (by omega)
        (endsNumber_cons (by decide) rest)
      simp only [readItems, skipSpace_dumps readsBack, one, itemsToScript]
      cases toScript item with
      | none => rfl
      | some value =>
          simp only [Option.map_some, Option.bind_eq_bind, Option.bind_some]
          rw [skipSpace_cons (by decide)]
          rfl
  | item, next :: others, fuel + 1, rest, enough => by
      have isMore : List.intercalate [',', ' '] (dumpsItems repr (item :: next :: others)) =
          dumps repr item ++ ',' :: ' ' ::
            List.intercalate [',', ' '] (dumpsItems repr (next :: others)) := by
        rw [dumpsItems, dumpsItems, List.intercalate_cons_cons, List.append_assoc]
        rfl
      rw [isMore, List.length_append, List.length_cons, List.length_cons] at enough
      have one := readValue_dumps item fuel (',' :: ' ' ::
        (List.intercalate [',', ' '] (dumpsItems repr (next :: others)) ++ ']' :: rest))
        (by omega) (endsNumber_cons (by decide) _)
      have more := readItems_dumpsItems next others fuel rest (by omega)
      rw [isMore, List.append_assoc, List.cons_append, List.cons_append]
      simp only [readItems, skipSpace_dumps readsBack, one]
      rw [itemsToScript]
      cases toScript item with
      | none => rfl
      | some value =>
          simp only [Option.map_some, Option.bind_eq_bind, Option.bind_some]
          rw [skipSpace_cons (by decide)]
          change (readItems fuel (' ' ::
            (List.intercalate [',', ' '] (dumpsItems repr (next :: others)) ++ ']' :: rest))).map
              (fun found => (value :: found.1, found.2)) = _
          rw [readItems_space, more]
          cases itemsToScript (next :: others) <;> rfl

/-- The members of an object, with its closing brace. -/
theorem readMembers_dumpsMembers : ∀ (member : List Char × Json PythonNumber (List Char))
    (others : List (List Char × Json PythonNumber (List Char))) (fuel : Nat) (rest : List Char),
    (List.intercalate [',', ' '] (dumpsMembers repr (member :: others))).length + 1 ≤ fuel →
      readMembers fuel
          (List.intercalate [',', ' '] (dumpsMembers repr (member :: others)) ++ '}' :: rest) =
        (membersToScript (member :: others)).map fun read => (read, rest)
  | (name, value), [], fuel + 1, rest, enough => by
      simp only [dumpsMembers, List.intercalate_singleton, List.length_append,
        List.length_cons] at enough ⊢
      have one := readValue_dumps value fuel ('}' :: rest) (by omega)
        (endsNumber_cons (by decide) rest)
      obtain ⟨opened, afterName, afterColon, isOpened, isName, isColon, isValue⟩ :=
        readMember readsBack name value ('}' :: rest)
      simp only [readMembers, isOpened, isName, isColon, isValue, one, membersToScript,
        Option.bind_eq_bind, Option.bind_some]
      cases toScript value with
      | none => rfl
      | some read =>
          simp only [Option.map_some, Option.bind_some]
          rw [skipSpace_cons (by decide)]
          rfl
  | (name, value), next :: others, fuel + 1, rest, enough => by
      have isMore : List.intercalate [',', ' ']
            (dumpsMembers repr ((name, value) :: next :: others)) =
          quoted name ++ ':' :: ' ' :: dumps repr value ++ ',' :: ' ' ::
            List.intercalate [',', ' '] (dumpsMembers repr (next :: others)) := by
        rw [dumpsMembers, dumpsMembers, List.intercalate_cons_cons, List.append_assoc]
        rfl
      rw [isMore] at enough ⊢
      simp only [List.length_append, List.length_cons] at enough
      have one := readValue_dumps value fuel (',' :: ' ' ::
        (List.intercalate [',', ' '] (dumpsMembers repr (next :: others)) ++ '}' :: rest))
        (by omega) (endsNumber_cons (by decide) _)
      have more := readMembers_dumpsMembers next others fuel rest (by omega)
      obtain ⟨opened, afterName, afterColon, isOpened, isName, isColon, isValue⟩ :=
        readMember readsBack name value (',' :: ' ' ::
          (List.intercalate [',', ' '] (dumpsMembers repr (next :: others)) ++ '}' :: rest))
      rw [List.append_assoc, List.cons_append, List.cons_append]
      simp only [readMembers, isOpened, isName, isColon, isValue, one, Option.bind_eq_bind,
        Option.bind_some]
      rw [membersToScript]
      cases toScript value with
      | none => rfl
      | some read =>
          simp only [Option.map_some, Option.bind_eq_bind, Option.bind_some]
          rw [skipSpace_cons (by decide)]
          change (readMembers fuel (' ' :: (List.intercalate [',', ' ']
            (dumpsMembers repr (next :: others)) ++ '}' :: rest))).map
              (fun found => ((name.flatMap utf16, read) :: found.1, found.2)) = _
          rw [readMembers_space, more]
          cases membersToScript (next :: others) <;> rfl

end

/-- What `json.dumps` writes, `JSON.parse` reads, and throws where there is an infinity or
NaN in it. -/
theorem parse_dumps (value : Json PythonNumber (List Char)) :
    parse (dumps repr value) = toScript value := by
  have start : skipSpace (dumps repr value) = dumps repr value := by
    simpa using skipSpace_dumps readsBack value []
  have read : readValue ((dumps repr value).length + 1) (dumps repr value) =
      (toScript value).map fun read => (read, []) := by
    simpa using readValue_dumps readsBack value _ [] (Nat.le_succ _) nofun
  rw [parse, start, read]
  cases toScript value <;> rfl

end Json

/-! ### What is written is printable -/

/-- The text has printable characters only. -/
def AllPrintable (text : List Char) : Prop := ∀ character ∈ text, IsPrintable character

theorem AllPrintable.of_all {text : List Char} (all : text.all (IsPrintable ·) = true) :
    AllPrintable text := by
  intro character inText
  exact of_decide_eq_true (List.all_eq_true.mp all character inText)

theorem AllPrintable.append {first second : List Char} (one : AllPrintable first)
    (two : AllPrintable second) : AllPrintable (first ++ second) :=
  List.forall_mem_append.mpr ⟨one, two⟩

theorem AllPrintable.cons {character : Char} {text : List Char} (one : IsPrintable character)
    (others : AllPrintable text) : AllPrintable (character :: text) :=
  List.forall_mem_cons.mpr ⟨one, others⟩

theorem AllPrintable.flatMap {β : Type} {items : List β} {write : β → List Char}
    (each : ∀ item ∈ items, AllPrintable (write item)) : AllPrintable (items.flatMap write) := by
  intro character isWritten
  obtain ⟨item, isItem, inItem⟩ := List.mem_flatMap.mp isWritten
  exact each item isItem character inItem

/-- The parts of an array or of an object, with what separates them. -/
theorem AllPrintable.intercalate {texts : List (List Char)}
    (each : ∀ text ∈ texts, AllPrintable text) :
    AllPrintable (List.intercalate [',', ' '] texts) := by
  induction texts with
  | nil => exact nofun
  | cons text rest ih =>
      obtain ⟨first, others⟩ := List.forall_mem_cons.mp each
      cases rest with
      | nil => rwa [List.intercalate_singleton]
      | cons next later =>
          rw [List.intercalate_cons_cons]
          exact (first.append (.of_all rfl)).append (ih others)

theorem isPrintable_hexDigit : ∀ digit < 16, IsPrintable (hexDigit digit) := by
  decide +kernel

theorem allPrintable_escapeUnit {unit : Nat} (small : unit < 0x10000) :
    AllPrintable (escapeUnit unit) := by
  have digit : ∀ value, IsPrintable (hexDigit (value % 0x10)) :=
    fun value => isPrintable_hexDigit _ (Nat.mod_lt _ (by norm_num))
  have first : IsPrintable (hexDigit (unit / 0x1000)) := isPrintable_hexDigit _ (by omega)
  exact .cons (by decide) (.cons (by decide) (.cons first (.cons (digit _) (.cons (digit _)
    (.cons (digit _) nofun)))))

theorem allPrintable_escape (character : Char) : AllPrintable (escape character) := by
  unfold escape
  cases escaped : shortEscape character with
  | some short =>
      have isShort : IsPrintable short := by
        unfold shortEscape at escaped
        split_ifs at escaped <;> (obtain rfl := Option.some.inj escaped; decide)
      exact .cons (by decide) (.cons isShort nofun)
  | none =>
      by_cases printable : IsPrintable character
      · rw [if_pos printable]
        exact .cons printable nofun
      · simp only [if_neg printable]
        exact .flatMap fun unit isUnit => allPrintable_escapeUnit (utf16_lt character unit isUnit)

theorem allPrintable_quoted (text : List Char) : AllPrintable (quoted text) :=
  .append (.cons (by decide) (.flatMap fun character _ => allPrintable_escape character))
    (.cons (by decide) nofun)

theorem isPrintable_of_isNumeral {character : Char} (numeral : IsNumeral character) :
    IsPrintable character := by
  rcases numeral with isDigit | isOther
  · rw [Char.isDigit, Bool.and_eq_true, decide_eq_true_iff, decide_eq_true_iff] at isDigit
    exact ⟨le_trans (by decide) isDigit.1, le_trans isDigit.2 (by decide)⟩
  · simp only [List.mem_cons, List.not_mem_nil, or_false] at isOther
    rcases isOther with rfl | rfl | rfl | rfl | rfl <;> decide

theorem allPrintable_print {repr : ℚ → List Char} (readsBack : ReadsBack repr)
    (value : PythonNumber) : AllPrintable (value.print repr) := by
  cases isNumber : value.toScript with
  | none =>
      have names := print_of_toScript_none repr isNumber
      simp only [List.mem_cons, List.not_mem_nil, or_false] at names
      rcases names with isName | isName | isName <;>
        (rw [isName]
         exact .of_all rfl)
  | some number =>
      exact fun character inNumber => isPrintable_of_isNumeral
        ((isNumeral_print readsBack isNumber).2 character inNumber)

namespace Json

variable {repr : ℚ → List Char}

mutual

/-- Nothing that `json.dumps` writes ends a line. -/
theorem allPrintable_dumps (readsBack : ReadsBack repr) :
    ∀ value : Json PythonNumber (List Char), AllPrintable (dumps repr value)
  | .null => by
      rw [dumps]
      exact .of_all rfl
  | .bool true => by
      rw [dumps]
      exact .of_all rfl
  | .bool false => by
      rw [dumps]
      exact .of_all rfl
  | .number value => by
      rw [dumps]
      exact allPrintable_print readsBack value
  | .string text => by
      rw [dumps]
      exact allPrintable_quoted text
  | .array items => by
      rw [dumps]
      exact .append (.cons (by decide) (.intercalate (allPrintable_dumpsItems readsBack items)))
        (.cons (by decide) nofun)
  | .object members => by
      rw [dumps]
      exact .append (.cons (by decide) (.intercalate (allPrintable_dumpsMembers readsBack members)))
        (.cons (by decide) nofun)

theorem allPrintable_dumpsItems (readsBack : ReadsBack repr) :
    ∀ items : List (Json PythonNumber (List Char)), ∀ text ∈ dumpsItems repr items,
      AllPrintable text
  | [] => by
      rw [dumpsItems]
      exact nofun
  | item :: rest => by
      rw [dumpsItems]
      exact List.forall_mem_cons.mpr
        ⟨allPrintable_dumps readsBack item, allPrintable_dumpsItems readsBack rest⟩

theorem allPrintable_dumpsMembers (readsBack : ReadsBack repr) :
    ∀ members : List (List Char × Json PythonNumber (List Char)),
      ∀ text ∈ dumpsMembers repr members, AllPrintable text
  | [] => by
      rw [dumpsMembers]
      exact nofun
  | (name, value) :: rest => by
      rw [dumpsMembers]
      exact List.forall_mem_cons.mpr
        ⟨.append (allPrintable_quoted name)
          (.cons (by decide) (.cons (by decide) (allPrintable_dumps readsBack value))),
          allPrintable_dumpsMembers readsBack rest⟩

end

end Json

end VoltStream.Text
