/-
  Route templates and the paths they match.

  A template is rooted and read as a sequence of tokens: a segment between
  braces, which stands for a part of the path, or a literal character.

  * `tokens` reads a template; `{}` and a brace without a partner are literal;
  * `Token.rests` are the ways in which a token can take the front of a path;
  * `matchesPath template path` says that the tokens can take the whole path, or
    all of it but a final slash.
-/
import SiteAudit.Text.Enclosed
import SiteAudit.Text.SameLetter
import SiteAudit.Text.Taking

namespace SiteAudit.Route.Template

/-- A literal character, or a segment given by what stands between its braces. -/
inductive Token where
  | literal (c : Char)
  | segment (inside : Text)
  deriving DecidableEq

namespace Token

/-- The token as written. -/
def text : Token → Text
  | literal c => [c]
  | segment inside => '{' :: inside ++ ['}']

/-- A segment whose inside starts with two stars and has more matches over
    slashes. -/
def isCatchAll : Text → Bool
  | '*' :: '*' :: _ :: _ => true
  | _ => false

end Token

/-- The template with a slash in front if it has none. -/
def rooted : Text → Text
  | '/' :: rest => '/' :: rest
  | s => '/' :: s

/-- The inside of a segment that begins here. -/
def segment? : Text → Option Text
  | '{' :: rest =>
    match Text.upTo? '}' rest with
    | some (inside, _) => if inside = [] then none else some inside
    | none => none
  | _ => none

theorem segment?_cons_eq_some_iff {c : Char} {s inside : Text} : segment? (c :: s) = some inside ↔
    c = '{' ∧ inside ≠ [] ∧ ∃ rest, Text.upTo? '}' s = some (inside, rest) := by
  by_cases hc : c = '{'
  · subst hc
    rcases hcut : Text.upTo? '}' s with _ | ⟨front, rest⟩
    · simp [segment?, hcut]
    · by_cases hfront : front = []
      · simp [segment?, hcut, hfront, eq_comm]
      · simp only [segment?, hcut, if_neg hfront, Option.some.injEq, Prod.mk.injEq, true_and]
        constructor
        · rintro rfl
          exact ⟨hfront, rest, rfl, rfl⟩
        · rintro ⟨-, -, rfl, -⟩
          rfl
  · simp [segment?, hc]

/-- The tokens from a place on; the next `skip` characters belong to the
    previous segment. -/
def tokensFrom : (skip : Nat) → Text → List Token
  | _, [] => []
  | skip + 1, _ :: cs => tokensFrom skip cs
  | 0, c :: cs =>
    match segment? (c :: cs) with
    | some inside => .segment inside :: tokensFrom (inside.length + 1) cs
    | none => .literal c :: tokensFrom 0 cs

/-- The tokens of a template, rooted. -/
def tokens (template : Text) : List Token :=
  tokensFrom 0 (rooted template)

/-- What may remain of a path after a token: a literal takes the same letter, a
    segment a part without slashes, a catch-all a part without line ends. -/
def Token.rests : Token → Text → List Text
  | literal _, [] => []
  | literal a, c :: cs => if Text.sameLetter a c then [cs] else []
  | segment inside, s =>
    if isCatchAll inside then Text.restsOfSome (· != '\n') s
    else Text.restsOfSome (· != '/') s

/-- The tokens can take the path, but for a slash that may be left at the end. -/
def accepts : List Token → Text → Bool
  | [], s => s == [] || s == ['/']
  | token :: more, s => (token.rests s).any (accepts more)

/-- The template matches the path. -/
def matchesPath (template path : Text) : Bool :=
  accepts (tokens template) path

end SiteAudit.Route.Template
