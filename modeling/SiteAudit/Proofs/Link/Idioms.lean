/-
  The links of a line, said without a scan.

  * `Reach line`: a way from an opening bracket over the letter `a` to a `href` with a
    value, with no closing bracket on it.  `IsAnchor line found`: of the ways from its
    opening bracket the find takes the one to the last `href`.
  * `IsCall line found`: a `NavigateTo` with its bracket and a quoted value.
  * `anchor_reads_iff`, `navigation_reads_iff`: these are what the two forms read.
  * `ofLines_exact`: the links of a line are those of its leftmost anchors and, behind
    them, of its leftmost calls, and there is none only where no place of the line
    begins one.
-/
import Mathlib.Data.Option.Basic
import SiteAudit.Proofs.Link.Numbering
import SiteAudit.Proofs.Text.Leftmost
import SiteAudit.Proofs.Text.Phrase
import SiteAudit.Proofs.Text.Recased

namespace SiteAudit.Link

open Text

variable {before other : Option Char} {line s t value rest stretch : Text} {found f g : Find Text}
  {catalogue : Route.Catalogue} {file : Text} {number : Int}

/-! ## Forms -/

/-- A call: the word `NavigateTo` at the edge of a word, an opening bracket and a value. -/
def IsCall (line : Text) (found : Find Text) : Prop :=
  ∃ front phrase rest, line = front ++ phrase ++ rest ∧ front.length = found.start ∧ phrase.length = found.width ∧
    isBoundary front.getLast? phrase.head? = true ∧ IsPhrase Idiom.navigateTo.label '(' found.value phrase

/-- A way through a line from an opening bracket to a `href` with a value. -/
structure Reach (line : Text) where
  /-- What stands before the opening bracket. -/
  front : Text
  /-- The blanks between the opening bracket and the name. -/
  blanks : Text
  /-- The name of the tag, a single letter. -/
  name : Char
  /-- What stands between the name and the word. -/
  stretch : Text
  /-- From the word to the closing quote. -/
  phrase : Text
  value : Text
  rest : Text
  line_eq : line = front ++ '<' :: (blanks ++ name :: (stretch ++ phrase ++ rest))
  isBlank_blanks : ∀ c ∈ blanks, isBlank c = true
  toLower_name : name.toLower = 'a'
  nameEnds : isBoundary (some name) (stretch ++ phrase).head? = true
  notClosed : '>' ∉ stretch
  wordBegins : isBoundary (name :: stretch).getLast? phrase.head? = true
  isPhrase : IsPhrase hrefWord '=' value phrase

/-- From the opening bracket to the closing quote. -/
def Reach.find (reach : Reach line) : Find Text :=
  ⟨reach.front.length, ('<' :: (reach.blanks ++ reach.name :: (reach.stretch ++ reach.phrase))).length, reach.value⟩

/-- No way from the same opening bracket reaches a later word. -/
def Reach.IsLatest (reach : Reach line) : Prop :=
  ∀ other : Reach line, other.front.length = reach.front.length → other.stretch.length ≤ reach.stretch.length

/-- An anchor up to the value of its last `href`. -/
def IsAnchor (line : Text) (found : Find Text) : Prop :=
  ∃ reach : Reach line, reach.find = found ∧ reach.IsLatest

/-! ## Reading a call -/

theorem navigation_advances : navigation.Advances :=
  phrase?_advances rfl

/-- **The readings of calls are the calls of a line.** -/
theorem navigation_reads_iff : navigation.Reads line found ↔ IsCall line found := by
  have hcalls : ∀ before s value rest, navigation before s = some (value, rest) ↔ ∃ call, s = call ++ rest ∧
      (isBoundary before call.head? = true ∧ IsPhrase Idiom.navigateTo.label '(' value call) := by
    intro before s value rest
    rw [navigation, phrase?_eq_some_iff rfl]
  rw [Form.reads_iff _ hcalls, IsCall]
  simp only [List.append_assoc]

/-! ## Reading an anchor -/

theorem hrefHere?_eq_some_iff : hrefHere? before s = some (value, rest) ↔
    ∃ phrase, s = phrase ++ rest ∧ isBoundary before phrase.head? = true ∧ IsPhrase hrefWord '=' value phrase := by
  rw [hrefHere?, phrase?_eq_some_iff rfl]

/-- Behind a stretch without closing brackets stands a `href` with a value. -/
def Follows (before : Option Char) (s stretch value rest : Text) : Prop :=
  '>' ∉ stretch ∧ ∃ behind, s = stretch ++ behind ∧
    hrefHere? (stretch.getLast?.or before) behind = some (value, rest)

theorem follows_nil_iff : Follows before s [] value rest ↔ hrefHere? before s = some (value, rest) := by
  simp [Follows]

theorem follows_cons_iff {c d : Char} : Follows before (c :: s) (d :: stretch) value rest ↔
    c = d ∧ c ≠ '>' ∧ Follows (some c) s stretch value rest := by
  rw [Follows, getLast?_cons_eq_or, Option.or_assoc, Option.some_or, Follows]
  constructor
  · rintro ⟨hclosed, behind, hsplit, hread⟩
    obtain ⟨rfl, rfl⟩ := List.cons.inj hsplit
    obtain ⟨hc, hclosed⟩ : c ≠ '>' ∧ '>' ∉ stretch := by simpa [eq_comm] using hclosed
    exact ⟨rfl, hc, hclosed, behind, rfl, hread⟩
  · rintro ⟨rfl, hc, hclosed, behind, rfl, hread⟩
    exact ⟨by simpa [eq_comm] using ⟨hc, hclosed⟩, behind, rfl, hread⟩

theorem not_follows_nil : ¬ Follows before [] stretch value rest := by
  rintro ⟨-, behind, hsplit, hread⟩
  obtain ⟨rfl, rfl⟩ := List.append_eq_nil_iff.1 hsplit.symm
  obtain ⟨phrase, hphrase, -, h⟩ := hrefHere?_eq_some_iff.1 hread
  exact h.ne_nil (List.append_eq_nil_iff.1 hphrase.symm).1

theorem lastHref?_eq_none_iff : lastHref? before s = none ↔
    ∀ stretch value rest, ¬ Follows before s stretch value rest := by
  induction s generalizing before with
  | nil => exact iff_of_true rfl fun _ _ _ => not_follows_nil
  | cons c s ih =>
    rw [lastHref?, Option.orElse_eq_none]
    constructor
    · rintro ⟨hlater, hhere⟩ stretch value rest h
      cases stretch with
      | nil => simp [follows_nil_iff, hhere] at h
      | cons d stretch =>
        obtain ⟨-, hc, h⟩ := follows_cons_iff.1 h
        rw [if_neg hc, ih] at hlater
        exact hlater stretch value rest h
    · intro h
      refine ⟨?_, Option.eq_none_iff_forall_ne_some.2 fun (value, rest) hhere => h [] value rest (follows_nil_iff.2 hhere)⟩
      split
      · rfl
      · next hc => exact ih.2 fun stretch value rest hs => h (c :: stretch) value rest (follows_cons_iff.2 ⟨rfl, hc, hs⟩)

/-- **Of the words behind stretches the last one is read.** -/
theorem lastHref?_eq_some_iff : lastHref? before s = some (value, rest) ↔
    ∃ stretch, Follows before s stretch value rest ∧
      ∀ other value rest, Follows before s other value rest → other.length ≤ stretch.length := by
  induction s generalizing before with
  | nil => exact iff_of_false (by simp [lastHref?]) fun ⟨_, h, _⟩ => not_follows_nil h
  | cons c s ih =>
    rw [lastHref?, Option.orElse_eq_some]
    constructor
    · rintro (hlater | ⟨hlater, hhere⟩)
      · obtain ⟨hc, hlater⟩ := Option.ite_none_left_eq_some.1 hlater
        obtain ⟨stretch, h, hlast⟩ := ih.1 hlater
        refine ⟨c :: stretch, follows_cons_iff.2 ⟨rfl, hc, h⟩, fun other value rest hother => ?_⟩
        cases other with
        | nil => simp
        | cons d other =>
          obtain ⟨-, -, hother⟩ := follows_cons_iff.1 hother
          exact Nat.succ_le_succ (hlast other value rest hother)
      · refine ⟨[], follows_nil_iff.2 hhere, fun other value rest hother => ?_⟩
        cases other with
        | nil => simp
        | cons d other =>
          obtain ⟨-, hc, hother⟩ := follows_cons_iff.1 hother
          rw [if_neg hc, lastHref?_eq_none_iff] at hlater
          exact absurd hother (hlater other value rest)
    · rintro ⟨stretch, h, hlast⟩
      cases stretch with
      | nil =>
        refine Or.inr ⟨?_, follows_nil_iff.1 h⟩
        split
        · rfl
        · next hc =>
          refine lastHref?_eq_none_iff.2 fun other value rest hother => ?_
          simpa using hlast (c :: other) value rest (follows_cons_iff.2 ⟨rfl, hc, hother⟩)
      | cons d stretch =>
        obtain ⟨-, hc, h⟩ := follows_cons_iff.1 h
        refine Or.inl (Option.ite_none_left_eq_some.2 ⟨hc, ih.2 ⟨stretch, h, fun other value rest hother => ?_⟩⟩)
        exact Nat.le_of_succ_le_succ (hlast (c :: other) value rest (follows_cons_iff.2 ⟨rfl, hc, hother⟩))

/-- Only whether it belongs to a word matters of the character before. -/
theorem lastHref?_congr (h : before.any isWord = other.any isWord) (s : Text) : lastHref? before s = lastHref? other s := by
  cases s with
  | nil => rfl
  | cons c s => rw [lastHref?, lastHref?, hrefHere?, phrase?, phrase?, isBoundary, isBoundary, h]

theorem isWord_of_toLower {name : Char} (h : name.toLower = 'a') : isWord name = true := by
  rw [← isWord_toLower, h]
  rfl

theorem isBlank_of_toLower {name : Char} (h : name.toLower = 'a') : isBlank name = false := by
  rw [← isBlank_toLower, h]
  rfl

theorem anchor_eq_some_iff : anchor before s = some (value, rest) ↔
    ∃ blanks name tail, s = '<' :: (blanks ++ name :: tail) ∧ (∀ c ∈ blanks, isBlank c = true) ∧ name.toLower = 'a' ∧
      isBoundary (some name) tail.head? = true ∧ lastHref? (some name) tail = some (value, rest) := by
  have hname {name : Char} {tail : Text} (h : name.toLower = 'a') :
      isBoundary (some name) tail.head? = true ↔ ¬ tail.head?.any isWord = true := by
    simp [isBoundary, isWord_of_toLower h]
  have hlast {name : Char} (h : name.toLower = 'a') (tail : Text) : lastHref? (some 'a') tail = lastHref? (some name) tail :=
    lastHref?_congr (by simp [isWord_of_toLower h, isWord_of_toLower (show 'a'.toLower = 'a' from rfl)]) tail
  have hplain : ∀ a ∈ ['a'], isPlainAscii a = true := List.all_eq_true.1 (by decide)
  constructor
  · intro h
    unfold anchor at h
    split at h
    · next behind =>
      obtain ⟨tail, hword, hread⟩ := Option.bind_eq_some_iff.1 h
      obtain ⟨opening, hopening, hsmall⟩ := (dropWord?_eq_some_iff hplain).1 hword
      obtain ⟨name, letters, rfl, hlower, hletters⟩ := List.map_eq_cons_iff.1 hsmall
      obtain rfl := List.map_eq_nil_iff.1 hletters
      obtain ⟨blanks, rfl, hblanks⟩ := (trimLeft_eq_cons_iff (isBlank_of_toLower hlower)).1 hopening
      obtain ⟨hends, hread⟩ := Option.ite_none_left_eq_some.1 hread
      exact ⟨blanks, name, tail, rfl, hblanks, hlower, (hname hlower).2 hends, hlast hlower tail ▸ hread⟩
    · simp at h
  · rintro ⟨blanks, name, tail, rfl, hblanks, hlower, hends, hread⟩
    have hword : dropWord? ['a'] (name :: tail) = some tail :=
      (dropWord?_eq_some_iff hplain).2 ⟨[name], rfl, by simp [smallAscii, hlower]⟩
    have htrim : trimLeft (blanks ++ name :: tail) = name :: tail :=
      (trimLeft_eq_cons_iff (isBlank_of_toLower hlower)).2 ⟨blanks, rfl, hblanks⟩
    simp only [anchor, htrim, hword, Option.bind_eq_bind, Option.bind_some, if_neg ((hname hlower).1 hends), hlast hlower,
      hread]

theorem anchor_advances : anchor.Advances := by
  intro before s value rest h
  obtain ⟨blanks, name, tail, rfl, -, -, -, hread⟩ := anchor_eq_some_iff.1 h
  obtain ⟨stretch, ⟨-, behind, rfl, hhere⟩, -⟩ := lastHref?_eq_some_iff.1 hread
  obtain ⟨phrase, rfl, -, -⟩ := hrefHere?_eq_some_iff.1 hhere
  exact ⟨'<' :: (blanks ++ name :: (stretch ++ phrase)), by simp, by simp⟩

/-! ## Ways to a word -/

/-- What stands behind the name of the tag. -/
def Reach.tail (reach : Reach line) : Text :=
  reach.stretch ++ reach.phrase ++ reach.rest

theorem Reach.follows (reach : Reach line) :
    Follows (some reach.name) reach.tail reach.stretch reach.value reach.rest := by
  refine ⟨reach.notClosed, reach.phrase ++ reach.rest, List.append_assoc .., ?_⟩
  rw [← getLast?_cons_eq_or]
  exact hrefHere?_eq_some_iff.2 ⟨reach.phrase, rfl, reach.wordBegins, reach.isPhrase⟩

theorem exists_reach {front blanks tail : Text} {name : Char} (hline : line = front ++ '<' :: (blanks ++ name :: tail))
    (hblanks : ∀ c ∈ blanks, isBlank c = true) (hlower : name.toLower = 'a')
    (hends : isBoundary (some name) tail.head? = true) (h : Follows (some name) tail stretch value rest) :
    ∃ reach : Reach line, reach.front = front ∧ reach.name = name ∧ reach.tail = tail ∧ reach.stretch = stretch ∧
      reach.value = value ∧ reach.rest = rest := by
  obtain ⟨hclosed, behind, rfl, hhere⟩ := h
  obtain ⟨phrase, rfl, hword, hphrase⟩ := hrefHere?_eq_some_iff.1 hhere
  rw [← getLast?_cons_eq_or] at hword
  have htail : stretch ++ (phrase ++ rest) = stretch ++ phrase ++ rest := (List.append_assoc ..).symm
  have hhead : (stretch ++ (phrase ++ rest)).head? = (stretch ++ phrase).head? := by
    rw [List.head?_append, hphrase.head?_append, List.head?_append]
  exact ⟨⟨front, blanks, name, stretch, phrase, value, rest, htail ▸ hline, hblanks, hlower, hhead ▸ hends, hclosed,
    hword, hphrase⟩, rfl, rfl, htail.symm, rfl, rfl, rfl⟩

/-- Two ways from one opening bracket have the name in common. -/
theorem Reach.eq_of_start {a b : Reach line} (h : a.front.length = b.front.length) :
    a.front = b.front ∧ a.name = b.name ∧ a.tail = b.tail := by
  obtain ⟨hfront, hbehind⟩ := List.append_inj (a.line_eq.symm.trans b.line_eq) h
  have htrim (reach : Reach line) : trimLeft (reach.blanks ++ reach.name :: reach.tail) = reach.name :: reach.tail :=
    (trimLeft_eq_cons_iff (isBlank_of_toLower reach.toLower_name)).2 ⟨reach.blanks, rfl, reach.isBlank_blanks⟩
  have htail : a.name :: a.tail = b.name :: b.tail := by
    rw [← htrim a, ← htrim b]
    exact congrArg trimLeft (List.cons.inj hbehind).2
  exact ⟨hfront, List.cons.inj htail⟩

theorem Reach.length_eq (reach : Reach line) : line.length = reach.find.stop + reach.rest.length := by
  rw [congrArg List.length reach.line_eq, Find.stop, Reach.find]
  simp only [List.length_append, List.length_cons]
  omega

theorem Reach.nameEnds_tail (reach : Reach line) : isBoundary (some reach.name) reach.tail.head? = true := by
  rw [Reach.tail, List.append_assoc, List.head?_append, reach.isPhrase.head?_append, ← List.head?_append]
  exact reach.nameEnds

theorem exists_isLatest {front blanks tail : Text} {name : Char} (hline : line = front ++ '<' :: (blanks ++ name :: tail))
    (hblanks : ∀ c ∈ blanks, isBlank c = true) (hlower : name.toLower = 'a')
    (hends : isBoundary (some name) tail.head? = true) (h : lastHref? (some name) tail = some (value, rest)) :
    ∃ reach : Reach line, reach.IsLatest ∧ reach.front = front ∧ reach.value = value ∧ reach.rest = rest := by
  obtain ⟨stretch, hfollows, hlatest⟩ := lastHref?_eq_some_iff.1 h
  obtain ⟨reach, hfront, hname, htail, hstretch, hvalue, hrest⟩ := exists_reach hline hblanks hlower hends hfollows
  refine ⟨reach, fun other hother => ?_, hfront, hvalue, hrest⟩
  obtain ⟨-, hname', htail'⟩ := Reach.eq_of_start hother
  have hfollows' := other.follows
  rw [hname', hname, htail', htail] at hfollows'
  exact hstretch ▸ hlatest _ _ _ hfollows'

theorem Reach.exists_isAnchor (reach : Reach line) : ∃ found, IsAnchor line found ∧ found.start = reach.front.length := by
  obtain ⟨⟨value, rest⟩, hlast⟩ : ∃ read, lastHref? (some reach.name) reach.tail = some read := by
    refine Option.ne_none_iff_exists'.1 fun hnone => ?_
    exact lastHref?_eq_none_iff.1 hnone _ _ _ reach.follows
  obtain ⟨latest, hlatest, hfront, -⟩ :=
    exists_isLatest reach.line_eq reach.isBlank_blanks reach.toLower_name reach.nameEnds_tail hlast
  exact ⟨latest.find, ⟨latest, rfl, hlatest⟩, congrArg List.length hfront⟩

/-- **The readings of anchors are the anchors of a line.** -/
theorem anchor_reads_iff : anchor.Reads line found ↔ IsAnchor line found := by
  constructor
  · rintro ⟨front, read, rest, hline, hstart, hwidth, hread⟩
    obtain ⟨blanks, name, tail, hsplit, hblanks, hlower, hends, hlast⟩ := anchor_eq_some_iff.1 hread
    obtain ⟨reach, hlatest, hfront, hvalue, hrest⟩ := exists_isLatest (hsplit ▸ hline) hblanks hlower hends hlast
    have hplace : reach.find.start = found.start := (congrArg List.length hfront).trans hstart
    have hlength : (front ++ (read ++ rest)).length = reach.find.start + reach.find.width + reach.rest.length :=
      (congrArg List.length hline.symm).trans reach.length_eq
    rw [hplace, hrest, List.length_append, List.length_append] at hlength
    exact ⟨reach, Find.ext hplace (by omega) hvalue, hlatest⟩
  · rintro ⟨reach, rfl, hlatest⟩
    have hlast : lastHref? (some reach.name) reach.tail = some (reach.value, reach.rest) := by
      refine lastHref?_eq_some_iff.2 ⟨reach.stretch, reach.follows, fun other value rest hother => ?_⟩
      obtain ⟨way, hfront, -, -, hstretch, -⟩ :=
        exists_reach reach.line_eq reach.isBlank_blanks reach.toLower_name reach.nameEnds_tail hother
      exact hstretch ▸ hlatest way (congrArg List.length hfront)
    exact ⟨reach.front, '<' :: (reach.blanks ++ reach.name :: (reach.stretch ++ reach.phrase)), reach.rest,
      by simpa using reach.line_eq, rfl, rfl, anchor_eq_some_iff.2 ⟨reach.blanks, reach.name, reach.tail,
        by simp [Reach.tail], reach.isBlank_blanks, reach.toLower_name, reach.nameEnds_tail, hlast⟩⟩

/-! ## The links of a line -/

/-- The link of a find, to the value of the find without the blanks around it. -/
def ofFind (catalogue : Route.Catalogue) (file : Text) (number : Int) (idiom : Idiom) (found : Find Text) : Link :=
  { file
    line := number
    destination := trim found.value
    method := idiom.label
    scheme := Destination.scheme (trim found.value)
    verdict := (Destination.verdict catalogue (trim found.value)).label }

/-- The links are those of the leftmost anchors of the line and, behind them, of its
    leftmost calls. -/
def IsScan (catalogue : Route.Catalogue) (file : Text) (number : Int) (line : Text) (links : List Link) : Prop :=
  ∃ anchors calls, Leftmost (IsAnchor line) 0 anchors ∧ Leftmost (IsCall line) 0 calls ∧
    links = anchors.map (ofFind catalogue file number .href) ++ calls.map (ofFind catalogue file number .navigateTo)

theorem leftmost_isAnchor_iff {found : List (Find Text)} :
    Leftmost (IsAnchor line) 0 found ↔ found = finds anchor line :=
  leftmost_iff_of_reads_iff anchor_advances anchor_reads_iff

theorem leftmost_isCall_iff {found : List (Find Text)} :
    Leftmost (IsCall line) 0 found ↔ found = finds navigation line :=
  leftmost_iff_of_reads_iff navigation_advances navigation_reads_iff

theorem ofLine_eq_finds (catalogue : Route.Catalogue) (file : Text) (number : Int) (line : Text) :
    ofLine catalogue file number line = (finds anchor line).map (ofFind catalogue file number .href) ++
      (finds navigation line).map (ofFind catalogue file number .navigateTo) := by
  rw [ofLine, readings, readings, List.map_map, List.map_map]
  rfl

theorem isScan_iff {links : List Link} :
    IsScan catalogue file number line links ↔ links = ofLine catalogue file number line := by
  rw [ofLine_eq_finds]
  constructor
  · rintro ⟨anchors, calls, hanchors, hcalls, rfl⟩
    rw [leftmost_isAnchor_iff.1 hanchors, leftmost_isCall_iff.1 hcalls]
  · rintro rfl
    exact ⟨_, _, leftmost_isAnchor_iff.2 rfl, leftmost_isCall_iff.2 rfl, rfl⟩

/-- **The links of lines are exact.**  They are the links of each line in turn, the
    first line being number one.  Those of a line are the links of its leftmost
    anchors and, behind them, of its leftmost calls, at most one of which begins at
    a place; a line without a link of one idiom has no place where one begins. -/
theorem ofLines_exact (catalogue : Route.Catalogue) (file : Text) :
    (∀ lines : List Text, ofLines catalogue file lines =
      (lines.zipIdx 1).flatMap fun (line, number) => ofLine catalogue file number line) ∧
    ∀ (number : Int) (line : Text),
      (∀ links, IsScan catalogue file number line links ↔ links = ofLine catalogue file number line) ∧
      (∀ f g, IsAnchor line f → IsAnchor line g → f.start = g.start → f = g) ∧
      (∀ f g, IsCall line f → IsCall line g → f.start = g.start → f = g) ∧
      ((∀ link ∈ ofLine catalogue file number line, link.method ≠ Idiom.href.label) → IsEmpty (Reach line)) ∧
      ((∀ link ∈ ofLine catalogue file number line, link.method ≠ Idiom.navigateTo.label) →
        ∀ found, ¬ IsCall line found) := by
  refine ⟨fun lines => ofLinesFrom_eq catalogue file lines 1, fun number line => ⟨fun links => isScan_iff, fun f g hf hg => ?_,
    fun f g hf hg => ?_, fun hnone => ⟨fun reach => ?_⟩, fun hnone found hcall => ?_⟩⟩
  · exact (anchor_reads_iff.2 hf).unique (anchor_reads_iff.2 hg)
  · exact (navigation_reads_iff.2 hf).unique (navigation_reads_iff.2 hg)
  · obtain ⟨found, hanchor, -⟩ := reach.exists_isAnchor
    obtain ⟨f, hf, -⟩ := exists_find_of_reads anchor_advances (anchor_reads_iff.2 hanchor)
    refine hnone (ofFind catalogue file number .href f) ?_ rfl
    rw [ofLine_eq_finds]
    exact List.mem_append_left _ (List.mem_map_of_mem hf)
  · obtain ⟨f, hf, -⟩ := exists_find_of_reads navigation_advances (navigation_reads_iff.2 hcall)
    refine hnone (ofFind catalogue file number .navigateTo f) ?_ rfl
    rw [ofLine_eq_finds]
    exact List.mem_append_right _ (List.mem_map_of_mem hf)

end SiteAudit.Link
