/-
  Comparing letters without regard to case, one character against one.

  Two characters are the same letter when their small letters are equal or are
  two spellings of one letter (a long and a round s, a dotless and a dotted i,
  the two small sigmas, and so on); `letterClass` picks one character of each
  class, so being the same letter is an equivalence by construction.  A letter
  is never the same as several: the sharp s is not a pair of s.
-/
import SiteAudit.Text.Lower

namespace SiteAudit.Text

/-- Small letters that are a second spelling of the small letter beside them. -/
def secondSpellings : List (Nat × Nat) := [
  (0xb5, 0x3bc), (0x131, 0x69), (0x17f, 0x73), (0x345, 0x3b9), (0x3c2, 0x3c3),
  (0x3d0, 0x3b2), (0x3d1, 0x3b8), (0x3d5, 0x3c6), (0x3d6, 0x3c0), (0x3f0, 0x3ba),
  (0x3f1, 0x3c1), (0x3f5, 0x3b5), (0x1c80, 0x432), (0x1c81, 0x434), (0x1c82, 0x43e),
  (0x1c83, 0x441), (0x1c84, 0x442), (0x1c85, 0x442), (0x1c86, 0x44a), (0x1c87, 0x463),
  (0x1c88, 0xa64b), (0x1e9b, 0x1e61), (0x1fbe, 0x3b9), (0x1fd3, 0x390), (0x1fe3, 0x3b0),
  (0xfb06, 0xfb05)]

/-- The character that stands for all spellings and both cases of a letter. -/
def letterClass (c : Char) : Char :=
  let small := lowerLetter c
  if small.toNat < 128 then small
  else match secondSpellings.lookup small.toNat with
    | some n => Char.ofNat n
    | none => small

/-- The two characters are the same letter. -/
def sameLetter (c d : Char) : Bool :=
  letterClass c == letterClass d

/-- What follows the word `w`, if the text starts with it in any case. -/
def dropWord? : (w s : Text) → Option Text
  | [], s => some s
  | _ :: _, [] => none
  | a :: w, c :: s => if sameLetter a c then dropWord? w s else none

end SiteAudit.Text
