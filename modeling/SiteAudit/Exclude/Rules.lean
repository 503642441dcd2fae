/-
  Rule lists and their verdicts.

  The rules of a list are asked from the last to the first.  The first one that
  applies to the path itself decides; if none does, the first one that applies
  because of a directory.  A path is excluded if a rule decides that is not
  negated.
-/
import SiteAudit.Exclude.Rule

namespace SiteAudit.Exclude

/-- The rules of lines in order; the first line with a fault counts. -/
def rulesOfLines (lines : List Text) : Except RuleFault (List Rule) :=
  match lines with
  | [] => .ok []
  | line :: lines => do
    let rule ← Rule.ofLine line
    let rules ← rulesOfLines lines
    .ok (rule.toList ++ rules)

/-- The rule that decides about a path, given the rules from the last to the
    first and the rule that has applied because of a directory so far. -/
def decidingFrom (path : Text) : List Rule → (soFar : Option Rule) → Option Rule
  | [], soFar => soFar
  | rule :: rules, soFar =>
    match rule.weight? path with
    | some .direct => some rule
    | some .viaDirectory => decidingFrom path rules (soFar.or (some rule))
    | none => decidingFrom path rules soFar

/-- The rule that decides about a path, if one applies. -/
def deciding? (rules : List Rule) (path : Text) : Option Rule :=
  decidingFrom path rules.reverse none

/-- The path without slashes at its ends. -/
def withoutOuterSlashes (path : Text) : Text :=
  ((path.dropWhile (· == '/')).reverse.dropWhile (· == '/')).reverse

/-- The path as rules see it: without slashes at its ends and without a leading
    dot for the directory itself. -/
def ruledPath (path : Text) : Text :=
  let inner := withoutOuterSlashes path
  (Text.dropExact? ['.', '/'] inner).getD inner

/-- The rules exclude the path, which is relative to the root. -/
def excludes (rules : List Rule) (path : Text) : Bool :=
  withoutOuterSlashes path != [] && (deciding? rules (ruledPath path)).any (!·.negated)

end SiteAudit.Exclude
