/-
  Texts as lists of scalar values, and the cuts and joins used on them.

  * `Text` is a list of characters, so a length or an offset counts scalar
    values and every reader is a function on lists;
  * `splitWhere p` cuts a text at the characters that satisfy `p`, `joinWith`
    writes pieces with a separator between them, and `joinWith_splitOn` says
    that the second undoes the first for a single separator;
  * `dropExact?` takes a literal text off the front.
-/

namespace SiteAudit

/-- A text is the list of its characters. -/
abbrev Text := List Char

namespace Text

/-- Cut at every character that satisfies `p`; the characters cut at are dropped. -/
def splitWhere (p : Char → Bool) : Text → List Text
  | [] => [[]]
  | c :: cs =>
    if p c then [] :: splitWhere p cs
    else match splitWhere p cs with
      | [] => [[c]]
      | w :: ws => (c :: w) :: ws

/-- Cut at every occurrence of one character. -/
def splitOn (sep : Char) (s : Text) : List Text :=
  splitWhere (· == sep) s

/-- The pieces in order with `sep` between neighbours. -/
def joinWith (sep : Text) : List Text → Text
  | [] => []
  | [w] => w
  | w :: v :: ws => w ++ sep ++ joinWith sep (v :: ws)

/-- What follows the literal text `w`, if the text starts with it. -/
def dropExact? : (w s : Text) → Option Text
  | [], s => some s
  | _ :: _, [] => none
  | a :: w, c :: s => if a = c then dropExact? w s else none

/-- The text starts with the literal text `w`. -/
def startsWith (w s : Text) : Bool :=
  (dropExact? w s).isSome

/-- The text ends with the literal text `w`. -/
def endsWith (w s : Text) : Bool :=
  startsWith w.reverse s.reverse

/-- Every occurrence of `c` becomes the text `w`. -/
def replaceChar (c : Char) (w s : Text) : Text :=
  s.flatMap fun d => if d = c then w else [d]

/-- The decimal digits of a natural number. -/
def ofNat (n : Nat) : Text :=
  Nat.toDigits 10 n

/-- The decimal digits of an integer, after a minus sign if it is negative. -/
def ofInt : Int → Text
  | .ofNat n => ofNat n
  | .negSucc n => '-' :: ofNat (n + 1)

/-! ## Laws -/

/-- A cut yields at least one piece. -/
theorem splitWhere_ne_nil (p : Char → Bool) (s : Text) : splitWhere p s ≠ [] := by
  cases s with
  | nil => simp [splitWhere]
  | cons c cs =>
    simp only [splitWhere]
    split
    · simp
    · split <;> simp

/-- No piece of a cut holds a character cut at. -/
theorem not_of_mem_splitWhere {p : Char → Bool} {s w : Text} (hw : w ∈ splitWhere p s) :
    ∀ c ∈ w, p c = false := by
  induction s generalizing w with
  | nil => simp_all [splitWhere]
  | cons d ds ih =>
    simp only [splitWhere] at hw
    split at hw
    · rcases List.mem_cons.1 hw with rfl | hw
      · simp
      · exact ih hw
    · next hd =>
      split at hw
      · next h => exact absurd h (splitWhere_ne_nil p ds)
      · next v vs h =>
        rcases List.mem_cons.1 hw with rfl | hw
        · intro c hc
          rcases List.mem_cons.1 hc with rfl | hc
          · simpa using hd
          · exact ih (by simp [h]) c hc
        · exact ih (by simp [h, hw])

/-- Joining the pieces of a cut at one character gives the text back. -/
theorem joinWith_splitOn (sep : Char) (s : Text) : joinWith [sep] (splitOn sep s) = s := by
  unfold splitOn
  induction s with
  | nil => rfl
  | cons c cs ih =>
    simp only [splitWhere]
    split
    · next h =>
      have hc : c = sep := by simpa using h
      cases hs : splitWhere (· == sep) cs with
      | nil => exact absurd hs (splitWhere_ne_nil _ _)
      | cons v vs => rw [hs] at ih; simp [joinWith, ih, hc]
    · cases hs : splitWhere (· == sep) cs with
      | nil => exact absurd hs (splitWhere_ne_nil _ _)
      | cons v vs =>
        rw [hs] at ih
        cases vs with
        | nil => simpa [joinWith] using ih
        | cons u us => simp only [joinWith, List.cons_append] at ih ⊢; rw [ih]

/-- Taking a literal text off succeeds exactly when it stands in front. -/
theorem dropExact?_eq_some_iff {w s r : Text} : dropExact? w s = some r ↔ s = w ++ r := by
  induction w generalizing s with
  | nil => simp [dropExact?, eq_comm]
  | cons a w ih =>
    cases s with
    | nil => simp [dropExact?]
    | cons c s =>
      by_cases h : a = c
      · simp [dropExact?, h, ih]
      · simp [dropExact?, h, Ne.symm h]

theorem isDigit_of_mem_ofNat {c : Char} {n : Nat} (h : c ∈ ofNat n) : c.isDigit = true :=
  Nat.isDigit_of_mem_toDigits (by decide) (by decide) h

/-- An integer has digits and perhaps a minus sign. -/
theorem eq_or_isDigit_of_mem_ofInt {c : Char} {n : Int} (h : c ∈ ofInt n) : c = '-' ∨ c.isDigit = true := by
  cases n with
  | ofNat n => exact Or.inr (isDigit_of_mem_ofNat h)
  | negSucc n => exact (List.mem_cons.1 h).imp id isDigit_of_mem_ofNat

end Text

end SiteAudit
