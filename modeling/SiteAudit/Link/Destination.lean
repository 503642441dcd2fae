/-
  Where a link goes: its scheme and its verdict.

  * `scheme` is the text before a colon that no slash precedes, in small
    letters; `//` for a network path; `relative` otherwise;
  * `verdict catalogue` says whether the destination is external, matched by a
    live route, or unknown.  Query and fragment do not take part in matching.
-/
import SiteAudit.Route.Catalogue
import SiteAudit.Text.Blank
import SiteAudit.Text.Lower

namespace SiteAudit.Link

/-- The outcome of looking a destination up. -/
inductive Verdict where
  | external
  | matched
  | unknown
  deriving DecidableEq

namespace Destination

/-- The beginnings of destinations outside the site. -/
def externalStarts : List Text :=
  [['h', 't', 't', 'p', ':', '/', '/'], ['h', 't', 't', 'p', 's', ':', '/', '/'], ['/', '/'],
    ['m', 'a', 'i', 'l', 't', 'o', ':'], ['t', 'e', 'l', ':']]

/-- The destination lies outside the site. -/
def isExternal (url : Text) : Bool :=
  let small := Text.lower (Text.trim url)
  externalStarts.any fun start => Text.startsWith start small

/-- The destination before its fragment, and that before its query. -/
def withoutQuery (url : Text) : Text :=
  (url.takeWhile (· != '#')).takeWhile (· != '?')

/-- The path by which a destination inside the site is looked up. -/
def sitePath (url : Text) : Text :=
  Route.Template.rooted (withoutQuery (Text.trim url))

/-- The verdict on a destination. -/
def verdict (catalogue : Route.Catalogue) (url : Text) : Verdict :=
  if isExternal url then .external
  else if catalogue.covers (sitePath url) then .matched
  else .unknown

/-- The scheme of a destination that has none of its own. -/
def relativeScheme : Text :=
  ['r', 'e', 'l', 'a', 't', 'i', 'v', 'e']

/-- The scheme of a destination. -/
def scheme (url : Text) : Text :=
  let value := Text.trim url
  let head := value.takeWhile (· != ':')
  if Text.startsWith ['/', '/'] value then ['/', '/']
  else if value.contains ':' && head != [] && !head.contains '/' then Text.lower head
  else relativeScheme

end Destination

end SiteAudit.Link
