/-
  Links: the destinations found in a file, with what is known of them.

  * `Idiom` is the way a link is written, `Verdict` the outcome of looking its
    destination up; reports name both by labels;
  * a link keeps the labels, so that a report can be made of any records;
  * `inReportOrder` is the order of the link table: by file (capital form),
    then by line; links of equal rank keep their order.
-/
import SiteAudit.Link.Destination
import SiteAudit.Text.Order

namespace SiteAudit

namespace Link

/-- The ways a link is written: the attribute of an anchor, or a call. -/
inductive Idiom where
  | href
  | navigateTo
  deriving DecidableEq

/-- The name of an idiom in reports. -/
def Idiom.label : Idiom → Text
  | href => ['h', 'r', 'e', 'f']
  | navigateTo => ['N', 'a', 'v', 'i', 'g', 'a', 't', 'e', 'T', 'o']

/-- The idiom with a given name. -/
def Idiom.ofLabel? (label : Text) : Option Idiom :=
  [href, navigateTo].find? fun idiom => idiom.label == label

/-- The name of a verdict in reports. -/
def Verdict.label : Verdict → Text
  | external => ['e', 'x', 't', 'e', 'r', 'n', 'a', 'l']
  | matched => ['m', 'a', 't', 'c', 'h', 'e', 'd']
  | unknown => ['u', 'n', 'k', 'n', 'o', 'w', 'n']

/-- The verdict with a given name. -/
def Verdict.ofLabel? (label : Text) : Option Verdict :=
  [external, matched, unknown].find? fun verdict => verdict.label == label

end Link

/-- One link of a file. -/
structure Link where
  /-- The file, relative to the root. -/
  file : Text
  /-- The line, the first of a file being 1. -/
  line : Int
  /-- The destination as written, trimmed. -/
  destination : Text
  /-- The label of the idiom. -/
  method : Text
  /-- The scheme of the destination. -/
  scheme : Text
  /-- The label of the verdict. -/
  verdict : Text
  deriving DecidableEq

namespace Link

/-- The rank of two links in the link table. -/
def reportOrder (a b : Link) : Ordering :=
  (compare (Text.upper a.file) (Text.upper b.file)).then (compare a.line b.line)

/-- The links as the link table lists them. -/
def inReportOrder (links : List Link) : List Link :=
  links.mergeSort fun a b => (reportOrder a b).isLE

end Link

end SiteAudit
