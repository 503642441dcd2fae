/-
  Reading JSON.

  A reader answers what it reads at the front of a text, and the text that follows;
  `parse?` reads a text as one value, with blanks around it.  Numbers are integers and
  there is no `null`.  A text between quotes may have every escape: a pair of escaped
  surrogates is one character, a single one is none.

  * `char?_escapedChar`: a character as written between quotes is read back.
  * `many?_joined`: so are things between commas, whatever they are, if each of them
    is.
  * `value?_renderAt`: so is a value, at every level and before any text that does
    not go on with a digit.
  * `parse?_render`: so is a whole document.
-/
import Mathlib.Data.List.Basic
import Mathlib.Tactic.IntervalCases
import SiteAudit.Report.Json

namespace SiteAudit.Report.Json

/-! ## Blanks -/

/-- A character that may stand between the parts of a document. -/
def isBlank (c : Char) : Bool :=
  c == ' ' || c == '\t' || c == '\n' || c == '\r'

/-- The text from its first character that is not blank. -/
def skipBlanks (s : Text) : Text :=
  s.dropWhile isBlank

/-! ## Texts -/

/-- The value of a hexadecimal digit. -/
def hexValue? (c : Char) : Option Nat :=
  if '0' ≤ c ∧ c ≤ '9' then some (c.toNat - 48)
  else if 'a' ≤ c ∧ c ≤ 'f' then some (c.toNat - 87)
  else if 'A' ≤ c ∧ c ≤ 'F' then some (c.toNat - 55)
  else none

/-- A code unit by four hexadecimal digits. -/
def unit? : Text → Option (Nat × Text)
  | a :: b :: c :: d :: rest => do
    let a ← hexValue? a
    let b ← hexValue? b
    let c ← hexValue? c
    let d ← hexValue? d
    some (((a * 16 + b) * 16 + c) * 16 + d, rest)
  | _ => none

/-- The unit is the first of a pair. -/
def isHigh (unit : Nat) : Bool :=
  0xd800 ≤ unit && unit < 0xdc00

/-- The unit is the second of a pair. -/
def isLow (unit : Nat) : Bool :=
  0xdc00 ≤ unit && unit < 0xe000

/-- A character by its code unit, or by a pair of them, after the first `\u`. -/
def codedChar? (s : Text) : Option (Char × Text) := do
  let (unit, rest) ← unit? s
  if isHigh unit then
    let second ← Text.dropExact? ['\\', 'u'] rest
    let (low, rest) ← unit? second
    if isLow low then some (Char.ofNat (0x10000 + (unit - 0xd800) * 0x400 + (low - 0xdc00)), rest)
    else none
  else if isLow unit then none
  else some (Char.ofNat unit, rest)

/-- The character that a letter after a backslash stands for. -/
def shortEscape? (c : Char) : Option Char :=
  if c = '"' ∨ c = '\\' ∨ c = '/' then some c
  else if c = 'b' then some '\x08'
  else if c = 'f' then some '\x0c'
  else if c = 'n' then some '\n'
  else if c = 'r' then some '\r'
  else if c = 't' then some '\t'
  else none

/-- A character between quotes. -/
def char? : Text → Option (Char × Text)
  | [] => none
  | c :: rest =>
    if c = '\\' then
      match rest with
      | [] => none
      | e :: rest => if e = 'u' then codedChar? rest else (shortEscape? e).map (·, rest)
    else if c.toNat < 32 then none
    else some (c, rest)

/-- The characters up to the closing quote, fewer than the limit. -/
def inside? : (limit : Nat) → Text → Option (Text × Text)
  | 0, _ => none
  | limit + 1, s =>
    if s.head? = some '"' then some ([], s.tail)
    else do
      let (c, rest) ← char? s
      let (cs, rest) ← inside? limit rest
      some (c :: cs, rest)

/-- A text between quotes. -/
def text? : Text → Option (Text × Text)
  | [] => none
  | c :: rest => if c = '"' then inside? rest.length rest else none

/-! ## Numbers -/

/-- A natural number; only zero begins with a zero. -/
def natural? (s : Text) : Option (Nat × Text) :=
  let digits := s.takeWhile Char.isDigit
  if digits = [] ∨ digits.head? = some '0' ∧ digits ≠ ['0'] then none
  else some (Nat.ofDigitChars 10 digits 0, s.dropWhile Char.isDigit)

/-- An integer. -/
def number? (s : Text) : Option (Int × Text) :=
  if s.head? = some '-' then (natural? s.tail).map fun (n, rest) => (-(n : Int), rest)
  else (natural? s).map fun (n, rest) => ((n : Int), rest)

/-! ## Values -/

section Many

variable {α : Type}

/-- One thing or more, fewer than the limit, with commas between them and a closing
    character behind. -/
def many? (thing? : Text → Option (α × Text)) (close : Char) :
    (limit : Nat) → Text → Option (List α × Text)
  | 0, _ => none
  | limit + 1, s => do
    let (first, rest) ← thing? s
    match skipBlanks rest with
    | [] => none
    | c :: rest =>
      if c = close then some ([first], rest)
      else if c = ',' then (many? thing? close limit rest).map fun (others, rest) => (first :: others, rest)
      else none

/-- Any number of things, with commas between them and a closing character behind. -/
def things? (thing? : Text → Option (α × Text)) (close : Char) (s : Text) : Option (List α × Text) :=
  if (skipBlanks s).head? = some close then some ([], (skipBlanks s).tail)
  else many? thing? close s.length s

end Many

/-- A name, a colon and a value. -/
def field? (value? : Text → Option (Json × Text)) (s : Text) : Option ((Text × Json) × Text) := do
  let (name, rest) ← text? (skipBlanks s)
  let rest ← Text.dropExact? [':'] (skipBlanks rest)
  let (value, rest) ← value? rest
  some ((name, value), rest)

/-- A value that begins with the first character; `value?` reads the values in it. -/
def bareValue? (value? : Text → Option (Json × Text)) (s : Text) : Option (Json × Text) :=
  match s with
  | [] => none
  | c :: rest =>
    if c = '"' then (text? s).map fun (s, rest) => (text s, rest)
    else if c = '[' then (things? value? ']' rest).map fun (items, rest) => (list items, rest)
    else if c = '{' then (things? (field? value?) '}' rest).map fun (fields, rest) => (object fields, rest)
    else if c = 't' then (Text.dropExact? ['t', 'r', 'u', 'e'] s).map (flag true, ·)
    else if c = 'f' then (Text.dropExact? ['f', 'a', 'l', 's', 'e'] s).map (flag false, ·)
    else (number? s).map fun (n, rest) => (number n, rest)

/-- A value, with less than so many values around the innermost one. -/
def value? : (depth : Nat) → Text → Option (Json × Text)
  | 0, _ => none
  | depth + 1, s => bareValue? (value? depth) (skipBlanks s)

/-- The value of a document. -/
def parse? (s : Text) : Option Json := do
  let (value, rest) ← value? s.length s
  if skipBlanks rest = [] then some value else none

example : parse? "\x7b\"a\": [1, \"\\ud83d\\ude00\"]\x7d".toList =
    some (object [(['a'], list [number 1, text ['😀']])]) := by rfl

/-! ## Texts are read back -/

variable {c : Char} {s rest : Text} {n level : Nat}

theorem hexValue?_digitChar : ∀ n < 16, hexValue? (Nat.digitChar n) = some n := by
  decide

theorem unit?_hexDigits (h : n < 0x10000) (rest : Text) :
    unit? (Text.hexDigits n 4 ++ rest) = some (n, rest) := by
  have hdigits : Text.hexDigits n 4 = [Nat.digitChar (n / 16 / 16 / 16 % 16), Nat.digitChar (n / 16 / 16 % 16),
      Nat.digitChar (n / 16 % 16), Nat.digitChar (n % 16)] := by
    simp [Text.hexDigits]
  have hvalue (k : Nat) : hexValue? (Nat.digitChar (k % 16)) = some (k % 16) :=
    hexValue?_digitChar _ (Nat.mod_lt _ (by decide))
  rw [hdigits]
  simp [unit?, hvalue]
  omega

theorem toNat_valid (c : Char) : c.toNat < 0xd800 ∨ 0xdfff < c.toNat ∧ c.toNat < 0x110000 :=
  c.valid

theorem eq_of_toNat {d : Char} (h : c.toNat = d.toNat) : c = d := by
  rw [← Char.ofNat_toNat c, h, Char.ofNat_toNat]

theorem codedChar?_unit (h : c.toNat < 0x10000) (rest : Text) :
    codedChar? (Text.hexDigits c.toNat 4 ++ rest) = some (c, rest) := by
  have hvalid := toNat_valid c
  have hhigh : isHigh c.toNat = false := by simp [isHigh]; omega
  have hlow : isLow c.toNat = false := by simp [isLow]; omega
  simp [codedChar?, unit?_hexDigits h, hhigh, hlow]

theorem codedChar?_pair (high low : Nat) (hhigh : isHigh high = true) (hlow : isLow low = true)
    (hc : 0x10000 + (high - 0xd800) * 0x400 + (low - 0xdc00) = c.toNat) (rest : Text) :
    codedChar? (Text.hexDigits high 4 ++ (escapedUnit low ++ rest)) = some (c, rest) := by
  have hfirst : high < 0x10000 := by
    simp [isHigh] at hhigh
    omega
  have hsecond : low < 0x10000 := by
    simp [isLow] at hlow
    omega
  rw [codedChar?, unit?_hexDigits hfirst]
  simp [hhigh, escapedUnit, Text.dropExact?, unit?_hexDigits hsecond, hlow, hc]

/-- **A character as written between quotes is read back.** -/
theorem char?_escapedChar (c : Char) (rest : Text) : char? (escapedChar c ++ rest) = some (c, rest) := by
  rw [escapedChar]
  split
  · next h => rcases h with rfl | rfl <;> rfl
  split
  · next h => subst h; rfl
  split
  · next h => subst h; rfl
  split
  · next h => subst h; rfl
  split
  · next h =>
    obtain rfl : c = '\x08' := eq_of_toNat h
    rfl
  split
  · next h =>
    obtain rfl : c = '\x0c' := eq_of_toNat h
    rfl
  split
  · next hspecial _ _ _ _ _ h =>
    have hc : c ≠ '\\' := fun hc => hspecial (Or.inr hc)
    have hprintable : ¬ c.toNat < 32 := by omega
    simp [char?, hc, hprintable]
  split
  · next h => simpa [escapedUnit, char?] using codedChar?_unit h rest
  · have hvalid := toNat_valid c
    have hpair := codedChar?_pair (0xd800 + (c.toNat - 0x10000) / 0x400)
      (0xdc00 + (c.toNat - 0x10000) % 0x400) (by simp [isHigh]; omega) (by simp [isLow]; omega)
      (c := c) (by omega) rest
    simpa [escapedUnit, char?] using hpair

theorem exists_escapedChar (c : Char) : ∃ d ds, escapedChar c = d :: ds ∧ d ≠ '"' := by
  rw [escapedChar]
  split
  · exact ⟨_, _, rfl, by decide⟩
  next hspecial =>
  iterate 5
    split
    · exact ⟨_, _, rfl, by decide⟩
  split
  · exact ⟨_, _, rfl, fun h => hspecial (Or.inl h)⟩
  split <;> exact ⟨_, _, rfl, by decide⟩

theorem inside?_escaped : ∀ (s : Text) {limit : Nat} (rest : Text), s.length < limit →
    inside? limit (s.flatMap escapedChar ++ '"' :: rest) = some (s, rest)
  | [], limit + 1, rest, _ => by simp [inside?]
  | c :: s, limit + 1, rest, h => by
    obtain ⟨d, ds, hc, hd⟩ := exists_escapedChar c
    have hhead : (escapedChar c ++ (s.flatMap escapedChar ++ '"' :: rest)).head? ≠ some '"' := by
      simp [hc, hd]
    rw [List.flatMap_cons, List.append_assoc, inside?, if_neg hhead, char?_escapedChar]
    simp [inside?_escaped s rest (Nat.lt_of_succ_lt_succ h)]

theorem length_le_escaped (s : Text) : s.length ≤ (s.flatMap escapedChar).length := by
  induction s with
  | nil => simp
  | cons c s ih =>
    obtain ⟨d, ds, hc, -⟩ := exists_escapedChar c
    rw [List.flatMap_cons, hc, List.length_append, List.length_cons, List.length_cons]
    omega

/-- **A text between quotes is read back.** -/
theorem text?_quote (s rest : Text) : text? (quote s ++ rest) = some (s, rest) := by
  have hlength := length_le_escaped s
  simp only [quote, List.cons_append, List.append_assoc, text?, if_true, List.nil_append]
  refine inside?_escaped s rest ?_
  rw [List.length_append, List.length_cons]
  omega

/-! ## Numbers are read back -/

/-- A number before this text ends where the text begins. -/
def EndsNumber (rest : Text) : Prop :=
  ∀ c ∈ rest.head?, c.isDigit = false

theorem head?_toDigits (n : Nat) (h : 0 < n) : (Nat.toDigits 10 n).head? ≠ some '0' := by
  induction n using Nat.strong_induction_on with
  | _ n ih =>
    rw [Nat.toDigits_eq_if (by decide)]
    split
    · next hlt =>
      interval_cases n <;> decide
    · next hge =>
      have hhead := ih (n / 10) (by omega) (by omega)
      obtain ⟨d, ds, hds⟩ := List.exists_cons_of_ne_nil (Nat.toDigits_ne_nil (b := 10) (n := n / 10))
      rw [hds] at hhead ⊢
      simpa using hhead

theorem natural?_ofNat (n : Nat) (h : EndsNumber rest) : natural? (Text.ofNat n ++ rest) = some (n, rest) := by
  have hrest : rest.takeWhile Char.isDigit = [] ∧ rest.dropWhile Char.isDigit = rest := by
    cases rest with
    | nil => simp
    | cons c cs =>
      have hc : c.isDigit = false := h c rfl
      simp [hc]
  have htake : (Text.ofNat n ++ rest).takeWhile Char.isDigit = Text.ofNat n := by
    rw [List.takeWhile_append_of_pos fun c hc => Text.isDigit_of_mem_ofNat hc, hrest.1, List.append_nil]
  have hdrop : (Text.ofNat n ++ rest).dropWhile Char.isDigit = rest := by
    rw [List.dropWhile_append_of_pos fun c hc => Text.isDigit_of_mem_ofNat hc, hrest.2]
  have hne : Text.ofNat n ≠ [] := Nat.toDigits_ne_nil
  have hzero : ¬ ((Text.ofNat n).head? = some '0' ∧ Text.ofNat n ≠ ['0']) := by
    rintro ⟨hhead, hlong⟩
    rcases Nat.eq_zero_or_pos n with rfl | hpos
    · exact hlong rfl
    · exact head?_toDigits n hpos hhead
  rw [natural?, htake, hdrop, if_neg (not_or.2 ⟨hne, hzero⟩), Text.ofNat,
    Nat.ofDigitChars_toDigits (by decide) (by decide)]

/-- **An integer is read back**, if no digit follows. -/
theorem number?_ofInt (n : Int) (h : EndsNumber rest) : number? (Text.ofInt n ++ rest) = some (n, rest) := by
  cases n with
  | ofNat n =>
    obtain ⟨d, ds, hds⟩ := List.exists_cons_of_ne_nil (Nat.toDigits_ne_nil (b := 10) (n := n))
    have hd : d.isDigit = true := Text.isDigit_of_mem_ofNat (n := n) (by simp [Text.ofNat, hds])
    have hsign : (Text.ofNat n ++ rest).head? ≠ some '-' := by
      rw [Text.ofNat, hds]
      rintro hminus
      obtain rfl : d = '-' := by simpa using hminus
      exact absurd hd (by decide)
    rw [Text.ofInt, number?, if_neg hsign, natural?_ofNat n h]
    rfl
  | negSucc n =>
    rw [Text.ofInt, number?]
    simp [natural?_ofNat (n + 1) h, Int.negSucc_eq]

/-! ## Things between commas -/

section Many

variable {α : Type} {thing? : Text → Option (α × Text)} {bare : α → Text} {close : Char}

theorem skipBlanks_newLine (level : Nat) (s : Text) : skipBlanks (newLine level ++ s) = skipBlanks s := by
  have hblanks : ∀ c ∈ newLine level, isBlank c = true := by
    intro c hc
    rcases List.mem_cons.1 hc with rfl | hc
    · rfl
    · obtain rfl := (List.mem_replicate.1 hc).2
      rfl
  exact List.dropWhile_append_of_pos hblanks

theorem skipBlanks_cons (hc : isBlank c = false) (s : Text) : skipBlanks (c :: s) = c :: s :=
  List.dropWhile_cons_of_neg (by simp [hc])

/-- A character that can stand behind things with commas between them. -/
structure IsClosing (close : Char) : Prop where
  not_blank : isBlank close = false
  ne_comma : close ≠ ','

/-- The things after the first as they are written at a level. -/
def furtherThings (bare : α → Text) (level : Nat) (things : List α) : Text :=
  things.flatMap fun thing => ',' :: (newLine level ++ bare thing)

theorem length_le_furtherThings (bare : α → Text) (level : Nat) (things : List α) :
    things.length ≤ (furtherThings bare level things).length := by
  induction things with
  | nil => simp
  | cons thing things ih =>
    rw [furtherThings] at ih ⊢
    rw [List.flatMap_cons, List.length_append, List.length_cons, List.length_cons]
    omega

theorem length_bare_le (bare : α → Text) (level : Nat) {things : List α} {thing : α} (h : thing ∈ things) :
    (bare thing).length ≤ (furtherThings bare level things).length := by
  obtain ⟨before, after, rfl⟩ := List.append_of_mem h
  simp only [furtherThings, List.flatMap_append, List.flatMap_cons, List.length_append, List.length_cons]
  omega

/-- **Things between commas are read back, if each of them is.** -/
theorem many?_joined (hclose : IsClosing close) (outer inner : Nat) (rest : Text) :
    ∀ {things : List α} {first : α} {limit : Nat}, things.length < limit →
      (∀ thing ∈ first :: things, ∀ {after}, EndsNumber after →
        thing? (newLine inner ++ (bare thing ++ after)) = some (thing, after)) →
      many? thing? close limit (newLine inner ++ (bare first ++
        (furtherThings bare inner things ++ (newLine outer ++ close :: rest)))) = some (first :: things, rest)
  | [], first, limit + 1, _, h => by
    have hends : EndsNumber (newLine outer ++ close :: rest) := by simp [EndsNumber, newLine]
    rw [furtherThings, List.flatMap_nil, List.nil_append, many?, h first (by simp) hends]
    simp [skipBlanks_newLine, skipBlanks_cons hclose.not_blank]
  | next :: things, first, limit + 1, hlimit, h => by
    have hends : EndsNumber (furtherThings bare inner (next :: things) ++ (newLine outer ++ close :: rest)) := by
      simp [EndsNumber, furtherThings]
    have hrest := many?_joined hclose outer inner rest (Nat.lt_of_succ_lt_succ hlimit)
      fun thing hthing => h thing (List.mem_cons_of_mem _ hthing)
    rw [many?, h first (by simp) hends]
    simp only [furtherThings, List.flatMap_cons, List.cons_append, List.append_assoc, Option.bind_eq_bind,
      Option.bind_some] at hrest ⊢
    rw [skipBlanks_cons (by decide)]
    simp [hclose.ne_comma.symm, hrest]

theorem things?_nil (thing? : Text → Option (α × Text)) (hclose : IsClosing close) (rest : Text) :
    things? thing? close (close :: rest) = some ([], rest) := by
  rw [things?, skipBlanks_cons hclose.not_blank]
  simp

theorem things?_cons (thing? : Text → Option (α × Text)) (bare : α → Text) (hclose : IsClosing close)
    (outer inner : Nat) (rest : Text) (first : α) (things : List α)
    (hfirst : ∃ d ds, bare first = d :: ds ∧ isBlank d = false ∧ d ≠ close)
    (h : ∀ thing ∈ first :: things, ∀ {after}, EndsNumber after →
      thing? (newLine inner ++ (bare thing ++ after)) = some (thing, after)) :
    things? thing? close (newLine inner ++ (bare first ++
      (furtherThings bare inner things ++ (newLine outer ++ close :: rest)))) = some (first :: things, rest) := by
  obtain ⟨d, ds, hd, hblank, hne⟩ := hfirst
  have hlength := length_le_furtherThings bare inner things
  rw [things?, if_neg, many?_joined hclose outer inner rest _ h]
  · simp; omega
  · rw [skipBlanks_newLine, hd, List.cons_append, skipBlanks_cons hblank]
    simpa using hne

end Many

/-! ## Values are read back -/

/-- What holds of a value if it holds of the values in it, holds of every value. -/
@[elab_as_elim]
theorem induction {P : Json → Prop} (text : ∀ s, P (.text s)) (number : ∀ n, P (.number n))
    (flag : ∀ b, P (.flag b)) (list : ∀ items, (∀ item ∈ items, P item) → P (.list items))
    (object : ∀ fields, (∀ field ∈ fields, P field.2) → P (.object fields)) : ∀ value, P value
  | .text s => text s
  | .number n => number n
  | .flag b => flag b
  | .list items => list items fun item _ => induction text number flag list object item
  | .object fields => object fields fun field _ => induction text number flag list object field.2
termination_by value => value
decreasing_by
  · next h =>
    have := List.sizeOf_lt_of_mem h
    simp only [Json.list.sizeOf_spec]
    omega
  · next h =>
    have := List.sizeOf_lt_of_mem h
    obtain ⟨name, value⟩ := field
    simp only [Json.object.sizeOf_spec, Prod.mk.sizeOf_spec] at this ⊢
    omega

/-- A field as it is written. -/
def fieldText (level : Nat) (field : Text × Json) : Text :=
  quote field.1 ++ [':', ' '] ++ renderAt level field.2

theorem renderItems_eq (level : Nat) (items : List Json) :
    renderItems level items = furtherThings (renderAt level) level items := by
  induction items with
  | nil => rfl
  | cons item items ih => simp [renderItems, furtherThings, ih]

theorem renderFields_eq (level : Nat) (fields : List (Text × Json)) :
    renderFields level fields = furtherThings (fieldText level) level fields := by
  induction fields with
  | nil => rfl
  | cons field fields ih => simp [renderFields, furtherThings, fieldText, ih]

theorem ne_of_beginsNumber (h : c = '-' ∨ c.isDigit = true) :
    isBlank c = false ∧ c ≠ ']' ∧ c ≠ '"' ∧ c ≠ '[' ∧ c ≠ '{' ∧ c ≠ 't' ∧ c ≠ 'f' := by
  rcases h with rfl | h
  · decide
  · have hne (d : Char) (hd : d.isDigit = false) : c ≠ d := by
      rintro rfl
      simp [h] at hd
    refine ⟨?_, hne _ rfl, hne _ rfl, hne _ rfl, hne _ rfl, hne _ rfl, hne _ rfl⟩
    simp [isBlank, hne ' ' rfl, hne '\t' rfl, hne '\n' rfl, hne '\r' rfl]

theorem exists_ofInt (n : Int) : ∃ c cs, Text.ofInt n = c :: cs ∧ (c = '-' ∨ c.isDigit = true) := by
  have hne : Text.ofInt n ≠ [] := by
    cases n with
    | ofNat n => exact Nat.toDigits_ne_nil
    | negSucc n => exact List.cons_ne_nil _ _
  obtain ⟨c, cs, hc⟩ := List.exists_cons_of_ne_nil hne
  exact ⟨c, cs, hc, Text.eq_or_isDigit_of_mem_ofInt (n := n) (by simp [hc])⟩

/-- A value does not begin with a blank or like the end of a list. -/
theorem exists_renderAt (level : Nat) (value : Json) :
    ∃ c cs, renderAt level value = c :: cs ∧ isBlank c = false ∧ c ≠ ']' := by
  cases value with
  | text s => exact ⟨_, _, by rw [renderAt, quote]; rfl, by decide, by decide⟩
  | number n =>
    obtain ⟨c, cs, hc, hstart⟩ := exists_ofInt n
    obtain ⟨hblank, hclose, -⟩ := ne_of_beginsNumber hstart
    exact ⟨c, cs, by rw [renderAt, hc], hblank, hclose⟩
  | flag b => cases b <;> exact ⟨_, _, by rw [renderAt]; rfl, by decide, by decide⟩
  | list items =>
    cases items with
    | nil => exact ⟨'[', _, by rw [renderAt], by decide, by decide⟩
    | cons item items => exact ⟨'[', _, by rw [renderAt]; rfl, by decide, by decide⟩
  | object fields =>
    cases fields with
    | nil => exact ⟨'{', _, by rw [renderAt], by decide, by decide⟩
    | cons field fields => exact ⟨'{', _, by rw [renderAt]; rfl, by decide, by decide⟩

theorem isClosing_bracket : IsClosing ']' := ⟨by decide, by decide⟩

theorem isClosing_brace : IsClosing '}' := ⟨by decide, by decide⟩

variable {items : List Json} {fields : List (Text × Json)} {read? : Text → Option (Json × Text)}

theorem field?_fieldText (inner : Nat) (field : Text × Json) (rest : Text)
    (h : read? (' ' :: (renderAt inner field.2 ++ rest)) = some (field.2, rest)) :
    field? read? (newLine inner ++ (fieldText inner field ++ rest)) = some (field, rest) := by
  obtain ⟨name, value⟩ := field
  have hname : skipBlanks (quote name ++ (':' :: ' ' :: (renderAt inner value ++ rest))) =
      quote name ++ (':' :: ' ' :: (renderAt inner value ++ rest)) := skipBlanks_cons (by decide) _
  rw [field?, skipBlanks_newLine]
  simp only [fieldText, List.append_assoc, List.cons_append, List.nil_append]
  rw [hname, text?_quote]
  simp only [Option.bind_eq_bind, Option.bind_some]
  rw [skipBlanks_cons (by decide)]
  simp [Text.dropExact?, h]

theorem renderAt_list_cons (level : Nat) (item : Json) (items : List Json) (rest : Text) :
    renderAt level (list (item :: items)) ++ rest = '[' :: (newLine (level + 1) ++ (renderAt (level + 1) item ++
      (furtherThings (renderAt (level + 1)) (level + 1) items ++ (newLine level ++ ']' :: rest)))) := by
  simp [renderAt, renderItems_eq]

theorem renderAt_object_cons (level : Nat) (field : Text × Json) (fields : List (Text × Json)) (rest : Text) :
    renderAt level (object (field :: fields)) ++ rest = '{' :: (newLine (level + 1) ++ (fieldText (level + 1) field ++
      (furtherThings (fieldText (level + 1)) (level + 1) fields ++ (newLine level ++ '}' :: rest)))) := by
  obtain ⟨name, value⟩ := field
  simp [renderAt, renderFields_eq, fieldText]

/-- A value in a list is shorter than the list, one in an object than the object. -/
theorem length_item_lt (level : Nat) {item : Json} (h : item ∈ items) :
    (renderAt (level + 1) item).length < (renderAt level (list items)).length := by
  cases items with
  | nil => simp at h
  | cons first items =>
    have hlength := congrArg List.length (renderAt_list_cons level first items [])
    simp only [List.append_nil, List.length_cons, List.length_append] at hlength
    rcases List.mem_cons.1 h with rfl | h
    · omega
    · have := length_bare_le (renderAt (level + 1)) (level + 1) h
      omega

theorem length_value_lt (level : Nat) {field : Text × Json} (h : field ∈ fields) :
    (renderAt (level + 1) field.2).length < (renderAt level (object fields)).length := by
  have hfield (field : Text × Json) :
      (renderAt (level + 1) field.2).length ≤ (fieldText (level + 1) field).length := by
    simp only [fieldText, List.length_append]
    omega
  cases fields with
  | nil => simp at h
  | cons first fields =>
    have hlength := congrArg List.length (renderAt_object_cons level first fields [])
    simp only [List.append_nil, List.length_cons, List.length_append] at hlength
    rcases List.mem_cons.1 h with rfl | h
    · have := hfield field
      omega
    · have := length_bare_le (fieldText (level + 1)) (level + 1) h
      have := hfield field
      omega

theorem value?_blanks {t : Text} (h : skipBlanks s = skipBlanks t) (depth : Nat) : value? depth s = value? depth t := by
  cases depth with
  | zero => rfl
  | succ depth => rw [value?, value?, h]

theorem value?_succ (level depth : Nat) (value : Json) (rest : Text) :
    value? (depth + 1) (renderAt level value ++ rest) = bareValue? (value? depth) (renderAt level value ++ rest) := by
  obtain ⟨c, cs, hc, hblank, -⟩ := exists_renderAt level value
  rw [value?, hc, List.cons_append, skipBlanks_cons hblank]

/-- **A value is read back**, if no digit follows. -/
theorem value?_renderAt (value : Json) : ∀ {level depth : Nat} {rest : Text},
    (renderAt level value).length ≤ depth → EndsNumber rest →
      value? depth (renderAt level value ++ rest) = some (value, rest) := by
  have hpos {level depth : Nat} {value : Json} (h : (renderAt level value).length ≤ depth) :
      ∃ less, depth = less + 1 := by
    obtain ⟨c, cs, hc, -⟩ := exists_renderAt level value
    exact Nat.exists_eq_succ_of_ne_zero fun hzero => by simp [hc, hzero] at h
  -- The limit is the length of the text, and the values in a value have shorter texts.
  induction value using Json.induction with
  | text s =>
    intro level depth rest hdepth _
    obtain ⟨depth, rfl⟩ := hpos hdepth
    have htext := text?_quote s rest
    have hquote : quote s ++ rest = '"' :: (s.flatMap escapedChar ++ '"' :: rest) := by simp [quote]
    rw [hquote] at htext
    rw [value?_succ, renderAt, hquote]
    simp [bareValue?, htext]
  | number n =>
    intro level depth rest hdepth hends
    obtain ⟨depth, rfl⟩ := hpos hdepth
    obtain ⟨c, cs, hc, hstart⟩ := exists_ofInt n
    obtain ⟨-, -, h₁, h₂, h₃, h₄, h₅⟩ := ne_of_beginsNumber hstart
    have hnumber := number?_ofInt n hends
    rw [value?_succ, renderAt]
    rw [hc, List.cons_append] at hnumber ⊢
    simp [bareValue?, h₁, h₂, h₃, h₄, h₅, hnumber]
  | flag b =>
    intro level depth rest hdepth _
    obtain ⟨depth, rfl⟩ := hpos hdepth
    rw [value?_succ, renderAt]
    cases b <;> simp [bareValue?, Text.dropExact?]
  | list items ih =>
    intro level depth rest hdepth hends
    obtain ⟨depth, rfl⟩ := hpos hdepth
    rw [value?_succ]
    cases items with
    | nil =>
      have hnil := things?_nil (value? depth) isClosing_bracket rest
      simp [renderAt, bareValue?, hnil]
    | cons item items =>
      have hthings := things?_cons (value? depth) (renderAt (level + 1)) isClosing_bracket level (level + 1) rest
        item items (exists_renderAt (level + 1) item) fun thing hthing after hafter => by
          have hlt := length_item_lt level hthing
          rw [value?_blanks (skipBlanks_newLine _ _)]
          exact ih thing hthing (by omega) hafter
      rw [renderAt_list_cons]
      simp [bareValue?, hthings]
  | object fields ih =>
    intro level depth rest hdepth hends
    obtain ⟨depth, rfl⟩ := hpos hdepth
    rw [value?_succ]
    cases fields with
    | nil =>
      have hnil := things?_nil (field? (value? depth)) isClosing_brace rest
      simp [renderAt, bareValue?, hnil]
    | cons field fields =>
      have hthings := things?_cons (field? (value? depth)) (fieldText (level + 1)) isClosing_brace level
        (level + 1) rest field fields ⟨'"', _, rfl, by decide, by decide⟩ fun thing hthing after hafter => by
          have hlt := length_value_lt level hthing
          refine field?_fieldText (level + 1) thing after ?_
          have hvalue : value? depth (renderAt (level + 1) thing.2 ++ after) = some (thing.2, after) :=
            ih thing hthing (by omega) hafter
          have hblank : skipBlanks (' ' :: (renderAt (level + 1) thing.2 ++ after)) =
              skipBlanks (renderAt (level + 1) thing.2 ++ after) := rfl
          rw [value?_blanks hblank]
          exact hvalue
      rw [renderAt_object_cons]
      simp [bareValue?, hthings]

/-- **A document is read back.** -/
theorem parse?_render (value : Json) : parse? (render value) = some value := by
  have hvalue : value? (render value).length (render value ++ []) = some (value, []) :=
    value?_renderAt value (Nat.le_refl _) (by simp [EndsNumber])
  rw [List.append_nil] at hvalue
  rw [parse?, hvalue]
  rfl

end SiteAudit.Report.Json
