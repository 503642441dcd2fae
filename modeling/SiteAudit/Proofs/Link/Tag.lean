/-
  The destination of an anchor tag.

  * `Attribute`, `Tag`: opening tags of anchors whose attributes have quoted values
    and of whose attributes one is named `href`.
  * `HrefWithin before piece rest`: in a piece of a text begins a `href` with a value.
  * `Attribute.Misleads`: the name of an attribute ends in `-href`, or such a word
    begins in its value.
  * `link_of_tag`: a tag has one link, and it goes to the value of the attribute unless
    an attribute from there on misleads.
  * `data_attribute_taken`: a tag whose link goes elsewhere.
-/
import SiteAudit.Proofs.Link.Idioms

namespace SiteAudit.Link

open Text

variable {before : Option Char} {c : Char} {s t value rest name word line : Text}

/-! ## Tags -/

/-- A character of the name of an attribute. -/
def IsNameChar (c : Char) : Prop :=
  c.isAlpha = true ∨ c = '-'

instance : DecidablePred IsNameChar := fun c =>
  inferInstanceAs (Decidable (c.isAlpha = true ∨ c = '-'))

/-- An attribute with its value in double quotes. -/
structure Attribute where
  /-- The character before the name. -/
  blank : Char
  name : Text
  value : Text
  isBlank_blank : isBlank blank = true
  name_plain : ∀ c ∈ name, IsNameChar c
  value_plain : '"' ∉ value ∧ '<' ∉ value ∧ '>' ∉ value

def Attribute.text (a : Attribute) : Text :=
  a.blank :: (a.name ++ '=' :: '"' :: (a.value ++ ['"']))

/-- The opening tag of an anchor with one attribute that is named `href`. -/
structure Tag where
  before : List Attribute
  href : Attribute
  after : List Attribute
  href_named : smallAscii href.name = hrefWord
  others_named : ∀ a ∈ before ++ after, smallAscii a.name ≠ hrefWord

def Tag.text (tag : Tag) : Text :=
  '<' :: 'a' :: ((tag.before ++ tag.href :: tag.after).flatMap Attribute.text ++ ['>'])

/-! ## Words within a piece -/

/-- Here begins a `href` with a value. -/
def HrefAt (before : Option Char) (s : Text) : Prop :=
  ∃ phrase value rest, s = phrase ++ rest ∧ isBoundary before phrase.head? = true ∧ IsPhrase hrefWord '=' value phrase

/-- At some character of the piece, which is followed by the rest, begins a `href` with
    a value. -/
def HrefWithin (before : Option Char) (piece rest : Text) : Prop :=
  ∃ front behind, piece = front ++ behind ∧ behind ≠ [] ∧ HrefAt (front.getLast?.or before) (behind ++ rest)

theorem hrefAt_iff : HrefAt before s ↔ ∃ value rest, hrefHere? before s = some (value, rest) := by
  simp only [hrefHere?_eq_some_iff]
  constructor
  · rintro ⟨phrase, value, rest, h⟩
    exact ⟨value, rest, phrase, h⟩
  · rintro ⟨value, rest, phrase, h⟩
    exact ⟨phrase, value, rest, h⟩

theorem sameLetters_hrefWord : SameLetters hrefWord word ↔ smallAscii word = hrefWord :=
  sameLetters_iff_smallAscii (List.all_eq_true.1 (by decide))

theorem not_hrefAt_cons (hc : c.toLower ≠ 'h') : ¬ HrefAt before (c :: s) := by
  rintro ⟨phrase, value, rest, hsplit, -, spelled, blanks, gap, quote, rfl, hspelled, -⟩
  obtain ⟨d, letters, rfl, hd, -⟩ := List.map_eq_cons_iff.1 (sameLetters_hrefWord.1 hspelled)
  obtain ⟨rfl, -⟩ := List.cons.inj hsplit
  exact hc hd

theorem not_hrefWithin_nil : ¬ HrefWithin before [] rest := by
  rintro ⟨front, behind, hsplit, hne, -⟩
  exact hne (List.append_eq_nil_iff.1 hsplit.symm).2

theorem hrefWithin_cons : HrefWithin before (c :: s) rest ↔
    HrefAt before (c :: (s ++ rest)) ∨ HrefWithin (some c) s rest := by
  constructor
  · rintro ⟨front, behind, hsplit, hne, h⟩
    rcases List.cons_eq_append_iff.1 hsplit with ⟨rfl, rfl⟩ | ⟨front, rfl, rfl⟩
    · exact Or.inl h
    · rw [getLast?_cons_eq_or, Option.or_assoc] at h
      exact Or.inr ⟨front, behind, rfl, hne, h⟩
  · rintro (h | ⟨front, behind, rfl, hne, h⟩)
    · exact ⟨[], c :: s, rfl, by simp, h⟩
    · refine ⟨c :: front, behind, rfl, hne, ?_⟩
      rwa [getLast?_cons_eq_or, Option.or_assoc]

theorem hrefWithin_append : HrefWithin before (s ++ t) rest ↔
    HrefWithin before s (t ++ rest) ∨ HrefWithin (s.getLast?.or before) t rest := by
  induction s generalizing before with
  | nil => simp [not_hrefWithin_nil]
  | cons c s ih =>
    rw [List.cons_append, hrefWithin_cons, hrefWithin_cons, ih, getLast?_cons_eq_or, Option.or_assoc, List.append_assoc,
      or_assoc]
    rfl

theorem hrefWithin_iff_follows (h : '>' ∉ s) : HrefWithin before s ('>' :: rest) ↔
    ∃ stretch value tail, Follows before (s ++ '>' :: rest) stretch value tail := by
  induction s generalizing before with
  | nil =>
    refine iff_of_false not_hrefWithin_nil ?_
    rintro ⟨stretch, value, tail, hfollows⟩
    cases stretch with
    | nil =>
      have hhere : HrefAt before ('>' :: rest) := hrefAt_iff.2 ⟨value, tail, follows_nil_iff.1 hfollows⟩
      exact not_hrefAt_cons (by decide) hhere
    | cons d stretch => exact (follows_cons_iff.1 hfollows).2.1 rfl
  | cons c s ih =>
    obtain ⟨hc, hs⟩ : c ≠ '>' ∧ '>' ∉ s := by simpa [eq_comm] using h
    rw [hrefWithin_cons, hrefAt_iff, ih hs, List.cons_append]
    constructor
    · rintro (⟨value, tail, h⟩ | ⟨stretch, value, tail, h⟩)
      · exact ⟨[], value, tail, follows_nil_iff.2 h⟩
      · exact ⟨c :: stretch, value, tail, follows_cons_iff.2 ⟨rfl, hc, h⟩⟩
    · rintro ⟨stretch, value, tail, h⟩
      cases stretch with
      | nil => exact Or.inl ⟨value, tail, follows_nil_iff.1 h⟩
      | cons d stretch => exact Or.inr ⟨stretch, value, tail, (follows_cons_iff.1 h).2.2⟩

/-! ## Words within attributes -/

theorem isWord_of_isNameChar (h : IsNameChar c) (hc : c ≠ '-') : isWord c = true :=
  isWord_of_isAlpha (h.resolve_right hc)

theorem isBlank_of_isNameChar (h : IsNameChar c) : isBlank c = false := by
  by_cases hc : c = '-'
  · rw [hc]
    rfl
  · refine Bool.eq_false_iff.2 fun hblank => ?_
    simpa [isWord_of_isNameChar h hc] using isWord_of_isBlank hblank

theorem isBoundary_head?_iff (h : smallAscii word = hrefWord) :
    isBoundary before (word ++ s).head? = true ↔ before.any isWord = false := by
  obtain ⟨c, letters, rfl, hc, -⟩ := List.map_eq_cons_iff.1 h
  have hword : isWord c = true := by
    rw [← isWord_toLower, hc]
    rfl
  simp [isBoundary, hword]

/-- Before the value of an attribute stands a `href` if its name goes on with just this
    word. -/
theorem hrefAt_name_iff (hword : ∀ c ∈ word, IsNameChar c) (hvalue : '"' ∉ value) :
    HrefAt before (word ++ '=' :: '"' :: (value ++ '"' :: rest)) ↔
      before.any isWord = false ∧ smallAscii word = hrefWord := by
  constructor
  · rintro ⟨phrase, other, behind, hsplit, hboundary, spelled, blanks, gap, quote, rfl, hspelled, hblanks, -⟩
    rw [sameLetters_hrefWord] at hspelled
    have hname : '=' ∉ word := fun h => absurd (hword _ h) (by decide)
    have hopening : '=' ∉ spelled ++ blanks := by
      intro h
      rcases List.mem_append.1 h with h | h
      · have hsmall : '='.toLower ∈ smallAscii spelled := List.mem_map_of_mem h
        rw [hspelled] at hsmall
        exact absurd hsmall (by decide)
      · exact absurd (hblanks _ h) (by decide)
    have hcut : upTo? '=' (word ++ '=' :: '"' :: (value ++ '"' :: rest)) =
        some (spelled ++ blanks, gap ++ quote :: (other ++ quote :: behind)) :=
      upTo?_eq_some_iff.2 ⟨by simpa using hsplit, hopening⟩
    rw [upTo?_eq_some_iff.2 ⟨rfl, hname⟩] at hcut
    obtain ⟨rfl, -⟩ := Prod.mk.inj (Option.some.inj hcut)
    obtain rfl : blanks = [] := by
      refine List.eq_nil_iff_forall_not_mem.2 fun b hb => ?_
      simpa [hblanks b hb] using isBlank_of_isNameChar (hword b (by simp [hb]))
    simp only [List.append_assoc, List.append_nil, isBoundary_head?_iff hspelled] at hboundary ⊢
    exact ⟨hboundary, hspelled⟩
  · rintro ⟨hbefore, hspelled⟩
    have hphrase : IsPhrase hrefWord '=' value (word ++ [] ++ '=' :: [] ++ '"' :: value ++ ['"']) :=
      ⟨word, [], [], '"', rfl, sameLetters_hrefWord.2 hspelled, by simp, by simp, Or.inl rfl, hvalue⟩
    refine ⟨_, value, rest, by simp, ?_, hphrase⟩
    simpa only [List.append_assoc] using (isBoundary_head?_iff hspelled).2 hbefore

theorem hrefWithin_name_iff (hname : ∀ c ∈ name, IsNameChar c) (hvalue : '"' ∉ value) :
    HrefWithin before name ('=' :: '"' :: (value ++ '"' :: rest)) ↔
      ∃ front word, name = front ++ word ∧ (front.getLast?.or before).any isWord = false ∧ smallAscii word = hrefWord := by
  constructor
  · rintro ⟨front, word, rfl, -, h⟩
    exact ⟨front, word, rfl, (hrefAt_name_iff (fun c hc => hname c (by simp [hc])) hvalue).1 h⟩
  · rintro ⟨front, word, rfl, h⟩
    refine ⟨front, word, rfl, ?_, (hrefAt_name_iff (fun c hc => hname c (by simp [hc])) hvalue).2 h⟩
    rintro rfl
    exact absurd h.2 (by decide)

/-- A name that is shorter than the word has no room for it. -/
theorem not_hrefWithin_name (hname : ∀ c ∈ name, IsNameChar c) (hvalue : '"' ∉ value)
    (h : name.length < hrefWord.length) : ¬ HrefWithin before name ('=' :: '"' :: (value ++ '"' :: rest)) := by
  rw [hrefWithin_name_iff hname hvalue]
  rintro ⟨front, word, rfl, -, hword⟩
  rw [← hword, smallAscii, List.length_map, List.length_append] at h
  omega

/-- In a name that is not this word it begins behind a hyphen. -/
theorem hrefWithin_name_iff_suffix (hname : ∀ c ∈ name, IsNameChar c) (hvalue : '"' ∉ value)
    (h : smallAscii name ≠ hrefWord) : HrefWithin before name ('=' :: '"' :: (value ++ '"' :: rest)) ↔
      '-' :: hrefWord <:+ smallAscii name := by
  rw [hrefWithin_name_iff hname hvalue]
  constructor
  · rintro ⟨front, word, rfl, hbefore, hword⟩
    rcases List.eq_nil_or_concat front with rfl | ⟨front, d, rfl⟩
    · exact absurd hword h
    · obtain rfl : d = '-' := by
        by_contra hd
        simp [isWord_of_isNameChar (hname d (by simp)) hd] at hbefore
      exact ⟨smallAscii front, by simp [smallAscii, ← hword]⟩
  · rintro ⟨small, hsmall⟩
    obtain ⟨front, behind, rfl, -, hbehind⟩ := List.map_eq_append_iff.1 hsmall.symm
    obtain ⟨d, word, rfl, hd, hword⟩ := List.map_eq_cons_iff.1 hbehind
    obtain rfl : d = '-' := (toLower_eq_iff (by decide)).1 hd
    exact ⟨front ++ ['-'], word, by simp, by simp; decide, hword⟩

/-- An attribute that is not named `href` and stands where one is looked for: its name
    ends in this word behind a hyphen, or the word and a value begin in its value. -/
def Attribute.Misleads (a : Attribute) (rest : Text) : Prop :=
  '-' :: hrefWord <:+ smallAscii a.name ∨ HrefWithin (some '"') a.value ('"' :: rest)

/-- From a name on the word begins in the name, in the value or behind. -/
theorem hrefWithin_assignment_iff : HrefWithin before (name ++ '=' :: '"' :: (value ++ '"' :: s)) rest ↔
    HrefWithin before name ('=' :: '"' :: (value ++ '"' :: (s ++ rest))) ∨
      HrefWithin (some '"') value ('"' :: (s ++ rest)) ∨ HrefWithin (some '"') s rest := by
  have hquote (before : Option Char) (s : Text) : ¬ HrefAt before ('"' :: s) := not_hrefAt_cons (by decide)
  have hsign (before : Option Char) (s : Text) : ¬ HrefAt before ('=' :: s) := not_hrefAt_cons (by decide)
  rw [hrefWithin_append, hrefWithin_cons, hrefWithin_cons, hrefWithin_append, hrefWithin_cons]
  simp only [hquote, hsign, false_or, List.cons_append, List.append_assoc]

theorem hrefWithin_text_iff (a : Attribute) (h : smallAscii a.name ≠ hrefWord) :
    HrefWithin before a.text rest ↔ a.Misleads rest := by
  have hblank : a.blank.toLower ≠ 'h' := by
    intro hletter
    have hnone := isBlank_toLower a.blank
    rw [hletter, a.isBlank_blank] at hnone
    exact absurd hnone (by decide)
  rw [Attribute.text, hrefWithin_cons, hrefWithin_assignment_iff, hrefWithin_name_iff_suffix a.name_plain a.value_plain.1 h]
  simp only [not_hrefAt_cons hblank, not_hrefWithin_nil, false_or, or_false]
  rfl

/-- One of the attributes, which close the tag, misleads. -/
def Misled : List Attribute → Prop
  | [] => False
  | a :: later => a.Misleads (later.flatMap Attribute.text ++ ['>']) ∨ Misled later

theorem hrefWithin_flatMap_text_iff {attributes : List Attribute} (h : ∀ a ∈ attributes, smallAscii a.name ≠ hrefWord) :
    HrefWithin before (attributes.flatMap Attribute.text) ['>'] ↔ Misled attributes := by
  induction attributes generalizing before with
  | nil => exact iff_of_false not_hrefWithin_nil id
  | cons a later ih =>
    rw [List.flatMap_cons, hrefWithin_append, hrefWithin_text_iff a (h a (by simp)), ih fun b hb => h b (by simp [hb]), Misled]

theorem infix_of_hrefWithin (h : HrefWithin before value ('"' :: rest)) : hrefWord <:+: smallAscii value := by
  obtain ⟨front, behind, rfl, -, phrase, other, tail, hsplit, -, spelled, blanks, gap, quote, rfl, hspelled, -⟩ := h
  rw [sameLetters_hrefWord] at hspelled
  simp only [List.append_assoc] at hsplit
  rcases List.append_eq_append_iff.1 hsplit with ⟨more, rfl, hquote⟩ | ⟨more, rfl, -⟩
  · cases more with
    | nil => exact ⟨smallAscii front, [], by simp [smallAscii, ← hspelled]⟩
    | cons c more =>
      obtain ⟨rfl, -⟩ := List.cons.inj hquote
      have hsmall : '"'.toLower ∈ smallAscii (behind ++ '"' :: more) := List.mem_map_of_mem (by simp)
      rw [hspelled] at hsmall
      exact absurd hsmall (by decide)
  · exact ⟨smallAscii front, smallAscii more, by simp [smallAscii, ← hspelled]⟩

theorem exists_infix_of_misled : ∀ {attributes : List Attribute}, Misled attributes →
    ∃ a ∈ attributes, '-' :: hrefWord <:+ smallAscii a.name ∨ hrefWord <:+: smallAscii a.value
  | a :: later, .inl (.inl h) => ⟨a, by simp, .inl h⟩
  | a :: later, .inl (.inr h) => ⟨a, by simp, .inr (infix_of_hrefWithin h)⟩
  | a :: later, .inr h => by
    obtain ⟨b, hb, hinfix⟩ := exists_infix_of_misled h
    exact ⟨b, by simp [hb], hinfix⟩

/-! ## The way to the attribute -/

/-- Behind a stretch without closing brackets the further stretches go on. -/
theorem exists_follows_append_iff {u : Text} (hu : '>' ∉ u) :
    (∃ stretch value rest, Follows before (u ++ s) stretch value rest ∧ u.length ≤ stretch.length) ↔
      ∃ stretch value rest, Follows (u.getLast?.or before) s stretch value rest := by
  induction u generalizing before with
  | nil => simp
  | cons c u ih =>
    obtain ⟨hc, hu⟩ : c ≠ '>' ∧ '>' ∉ u := by simpa [eq_comm] using hu
    rw [getLast?_cons_eq_or, Option.or_assoc, Option.some_or, ← ih hu]
    constructor
    · rintro ⟨stretch, value, rest, h, hle⟩
      cases stretch with
      | nil => simp at hle
      | cons d stretch => exact ⟨stretch, value, rest, (follows_cons_iff.1 h).2.2, Nat.le_of_succ_le_succ hle⟩
    · rintro ⟨stretch, value, rest, h, hle⟩
      exact ⟨c :: stretch, value, rest, follows_cons_iff.2 ⟨rfl, hc, h⟩, Nat.succ_le_succ hle⟩

/-- A way is the latest if no word follows behind the first letter of its own. -/
theorem Reach.isLatest_iff (reach : Reach line) {letters : Text} (h : reach.phrase = c :: letters) (hc : c ≠ '>') :
    reach.IsLatest ↔ ¬ ∃ stretch value rest, Follows (some c) (letters ++ reach.rest) stretch value rest := by
  have hopened : '>' ∉ reach.stretch ++ [c] := by simpa [eq_comm, reach.notClosed] using hc
  have htail : reach.tail = reach.stretch ++ [c] ++ (letters ++ reach.rest) := by simp [Reach.tail, h]
  have hlast : some c = (reach.stretch ++ [c]).getLast?.or (some reach.name) := by simp
  rw [hlast, ← exists_follows_append_iff hopened, ← htail]
  constructor
  · rintro hlatest ⟨stretch, value, rest, hfollows, hle⟩
    obtain ⟨other, hfront, -, -, hstretch, -⟩ :=
      exists_reach reach.line_eq reach.isBlank_blanks reach.toLower_name reach.nameEnds_tail hfollows
    have hother := hlatest other (congrArg List.length hfront)
    rw [hstretch] at hother
    simp at hle
    omega
  · intro hnone other hfront
    by_contra hlonger
    obtain ⟨-, hname, htail'⟩ := Reach.eq_of_start hfront
    have hfollows := other.follows
    rw [hname, htail'] at hfollows
    exact hnone ⟨_, _, _, hfollows, by simp; omega⟩

theorem Attribute.bracket_notMem_text (a : Attribute) (hc : c = '<' ∨ c = '>') : c ∉ a.text := by
  have hblank : isBlank c = false := by
    rcases hc with rfl | rfl <;> rfl
  have hplain : ¬ IsNameChar c ∧ c ≠ '=' ∧ c ≠ '"' := by
    rcases hc with rfl | rfl <;> decide
  have hvalue : c ∉ a.value := by
    rcases hc with rfl | rfl
    · exact a.value_plain.2.1
    · exact a.value_plain.2.2
  have hfirst : c ≠ a.blank := by
    rintro rfl
    simp [a.isBlank_blank] at hblank
  simpa [Attribute.text, hfirst, hplain, hvalue] using mt (a.name_plain c) hplain.1

theorem bracket_notMem_flatMap_text (attributes : List Attribute) (hc : c = '<' ∨ c = '>') :
    c ∉ attributes.flatMap Attribute.text := by
  intro h
  obtain ⟨a, -, ha⟩ := List.mem_flatMap.1 h
  exact a.bracket_notMem_text hc ha

/-- The way through a tag to its attribute. -/
def Tag.way (tag : Tag) : Reach tag.text where
  front := []
  blanks := []
  name := 'a'
  stretch := tag.before.flatMap Attribute.text ++ [tag.href.blank]
  phrase := tag.href.name ++ '=' :: '"' :: (tag.href.value ++ ['"'])
  value := tag.href.value
  rest := tag.after.flatMap Attribute.text ++ ['>']
  line_eq := by simp [Tag.text, Attribute.text]
  isBlank_blanks := by simp
  toLower_name := rfl
  nameEnds := by
    have hname (blank : Char) (h : isBlank blank = true) : isBoundary (some 'a') (some blank) = true := by
      simp [isBoundary, isWord_of_isBlank h]
      rfl
    cases tag.before with
    | nil => exact hname _ tag.href.isBlank_blank
    | cons a _ => exact hname _ a.isBlank_blank
  notClosed := by
    have := tag.href.bracket_notMem_text (.inr rfl)
    simp only [Attribute.text, List.mem_cons, not_or] at this
    simpa [this.1] using bracket_notMem_flatMap_text tag.before (.inr rfl)
  wordBegins := by
    rw [isBoundary_head?_iff tag.href_named, ← List.cons_append, List.getLast?_concat]
    exact isWord_of_isBlank tag.href.isBlank_blank
  isPhrase := ⟨tag.href.name, [], [], '"', by simp, sameLetters_hrefWord.2 tag.href_named, by simp, by simp, Or.inl rfl,
    tag.href.value_plain.1⟩

theorem Tag.front_eq_nil (tag : Tag) (reach : Reach tag.text) : reach.front = [] := by
  rcases List.cons_eq_append_iff.1 reach.line_eq with ⟨h, -⟩ | ⟨front, -, hbehind⟩
  · exact h
  · have hbracket : '<' ∉ (tag.before ++ tag.href :: tag.after).flatMap Attribute.text :=
      bracket_notMem_flatMap_text _ (.inl rfl)
    have hin : '<' ∈ front ++ '<' :: (reach.blanks ++ reach.name :: (reach.stretch ++ reach.phrase ++ reach.rest)) := by
      simp
    rw [← hbehind] at hin
    simp only [List.mem_cons, List.mem_append, hbracket] at hin
    exact absurd hin (by decide)

/-- **The way to the attribute is the latest** unless an attribute from there on
    misleads. -/
theorem Tag.isLatest_way_iff (tag : Tag) : tag.way.IsLatest ↔ ¬ Misled (tag.href :: tag.after) := by
  obtain ⟨c, letters, hname, hc, hletters⟩ := List.map_eq_cons_iff.1 tag.href_named
  have hplain (d : Char) (hd : d ∈ letters) : IsNameChar d := tag.href.name_plain d (by simp [hname, hd])
  have hopen : c ≠ '>' := by
    rintro rfl
    exact absurd hc (by decide)
  have hphrase : tag.way.phrase = c :: (letters ++ '=' :: '"' :: (tag.href.value ++ ['"'])) :=
    congrArg (· ++ '=' :: '"' :: (tag.href.value ++ ['"'])) hname
  have hpiece : letters ++ '=' :: '"' :: (tag.href.value ++ ['"']) ++ tag.way.rest =
      letters ++ '=' :: '"' :: (tag.href.value ++ '"' :: tag.after.flatMap Attribute.text) ++ '>' :: [] := by
    simp [Tag.way]
  have hclosed : '>' ∉ letters ++ '=' :: '"' :: (tag.href.value ++ '"' :: tag.after.flatMap Attribute.text) := by
    have hhref := tag.href.bracket_notMem_text (.inr rfl)
    simp only [Attribute.text, hname, List.cons_append, List.mem_cons, List.mem_append, not_or] at hhref
    simpa [hhref] using bracket_notMem_flatMap_text tag.after (.inr rfl)
  have hroom : letters.length < hrefWord.length := by
    have hlength : letters.length = 3 := by simpa using congrArg List.length hletters
    rw [hlength]
    decide
  have hhyphen : ¬ '-' :: hrefWord <:+ smallAscii tag.href.name := by
    rw [tag.href_named]
    decide
  rw [Reach.isLatest_iff tag.way hphrase hopen, hpiece, ← hrefWithin_iff_follows hclosed, hrefWithin_assignment_iff,
    hrefWithin_flatMap_text_iff fun a ha => tag.others_named a (List.mem_append_right _ ha), Misled, Attribute.Misleads]
  simp only [not_hrefWithin_name hplain tag.href.value_plain.1 hroom, hhyphen, false_or]

/-! ## The link of a tag -/

/-- What a way reads is settled by where its word begins. -/
theorem Reach.value_eq_of_stretch_eq {a b : Reach line} (hfront : a.front.length = b.front.length)
    (hstretch : a.stretch = b.stretch) : a.value = b.value := by
  obtain ⟨-, hname, htail⟩ := Reach.eq_of_start hfront
  obtain ⟨-, behind, hsplit, hread⟩ := a.follows
  obtain ⟨-, behind', hsplit', hread'⟩ := b.follows
  rw [htail, hsplit', hstretch] at hsplit
  rw [hname, hstretch, ← List.append_cancel_left hsplit, hread'] at hread
  exact (Prod.mk.inj (Option.some.inj hread)).1.symm

theorem Tag.exists_finds_anchor (tag : Tag) :
    ∃ way : Reach tag.text, way.IsLatest ∧ finds anchor tag.text = [way.find] := by
  have hstart (g : Find Text) (hg : IsAnchor tag.text g) : g.start = 0 := by
    obtain ⟨reach, rfl, -⟩ := hg
    exact congrArg List.length (tag.front_eq_nil reach)
  obtain ⟨found, hanchor, -⟩ := tag.way.exists_isAnchor
  obtain ⟨way, rfl, hlatest⟩ := id hanchor
  refine ⟨way, hlatest, (leftmost_isAnchor_iff.1 ?_).symm⟩
  refine .first hanchor (Nat.zero_le _) (fun g _ _ => ?_) (.none fun g hg => ?_)
  · rw [hstart _ hanchor]
    exact Nat.zero_le _
  · rw [hstart g hg]
    exact Nat.lt_of_lt_of_le (Nat.succ_pos _) (Nat.le_add_left ..)

/-- **The link of an anchor tag.**  A tag has one link that is written as an anchor.  It
    is read on the latest way through the tag, which leads to the attribute named
    `href` exactly if neither its value nor a later attribute misleads; then the link
    goes to the value of the attribute, without the blanks around it.  So it does if
    this word is no piece of the value and of the values behind, and no name behind
    ends in it with a hyphen before. -/
theorem link_of_tag (catalogue : Route.Catalogue) (file : Text) (number : Int) (tag : Tag) :
    ∃ (link : Link) (way : Reach tag.text),
      (ofLine catalogue file number tag.text).filter (fun l => l.method = Idiom.href.label) = [link] ∧
      link = ofFind catalogue file number .href way.find ∧ way.IsLatest ∧
      (way.stretch = tag.way.stretch ↔ ¬ Misled (tag.href :: tag.after)) ∧
      (¬ Misled (tag.href :: tag.after) → link.destination = trim tag.href.value) ∧
      ((∀ a ∈ tag.href :: tag.after, ¬ '-' :: hrefWord <:+ smallAscii a.name ∧ ¬ hrefWord <:+: smallAscii a.value) →
        ¬ Misled (tag.href :: tag.after)) := by
  obtain ⟨way, hlatest, hfinds⟩ := tag.exists_finds_anchor
  have hfront (other : Reach tag.text) : way.front.length = other.front.length := by
    rw [tag.front_eq_nil way, tag.front_eq_nil other]
  have hstretch : way.stretch = tag.way.stretch ↔ ¬ Misled (tag.href :: tag.after) := by
    rw [← tag.isLatest_way_iff]
    constructor
    · exact fun h other _ => h ▸ hlatest other (hfront other).symm
    · intro h
      obtain ⟨-, -, htail⟩ := Reach.eq_of_start (hfront tag.way)
      simp only [Reach.tail, List.append_assoc] at htail
      exact (List.append_inj htail (Nat.le_antisymm (h way (hfront _)) (hlatest _ (hfront _).symm))).1
  refine ⟨ofFind catalogue file number .href way.find, way, ?_, rfl, hlatest, hstretch, fun h => ?_, fun h hmisled => ?_⟩
  · have hcalls : ((finds navigation tag.text).map (ofFind catalogue file number .navigateTo)).filter
        (fun l => l.method = Idiom.href.label) = [] := by
      refine List.filter_eq_nil_iff.2 fun link hlink => ?_
      obtain ⟨found, -, rfl⟩ := List.mem_map.1 hlink
      exact (by decide : ¬ decide (Idiom.navigateTo.label = Idiom.href.label) = true)
    rw [ofLine_eq_finds, hfinds, List.filter_append, hcalls]
    rfl
  · exact congrArg trim (Reach.value_eq_of_stretch_eq (hfront tag.way) (hstretch.2 h))
  · obtain ⟨a, ha, hinfix⟩ := exists_infix_of_misled hmisled
    exact hinfix.elim (h a ha).1 (h a ha).2

/-- A tag whose second attribute has a name that ends in the word. -/
def dataTag : Tag where
  before := []
  href := ⟨' ', hrefWord, ['/', 'x'], rfl, List.forall_iff_forall_mem.1 (by decide), by decide⟩
  after := [⟨' ', ['d', 'a', 't', 'a', '-', 'h', 'r', 'e', 'f'], ['/', 'y'], rfl, List.forall_iff_forall_mem.1 (by decide), by decide⟩]
  href_named := by decide
  others_named := by decide

/-- **The link of a tag may go to another attribute**: that of the tag
    `<a href="/x" data-href="/y">` goes to `/y`. -/
theorem data_attribute_taken :
    ¬ ∀ tag : Tag, ((ofLine [] [] 1 tag.text).filter (fun l => l.method = Idiom.href.label)).map (·.destination) =
      [trim tag.href.value] := by
  intro h
  exact absurd (h dataTag) (by decide)

end SiteAudit.Link
