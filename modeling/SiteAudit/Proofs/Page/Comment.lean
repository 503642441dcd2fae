/-
  Comments by their marks, and by a scan of single characters.

  * `IsComment s span`: the span goes from an opening mark to the end of the first
    closing mark behind it.
  * `AreComments s comments`: the comments follow one another, and what opens
    outside of them is not closed.
  * `areComments_iff`: the spans of a text are its comments, and nothing else is.
  * `flags s`: whether each character lies in a comment, by a single scan that
    toggles between code and comment (`exists_span_iff_flags`).
-/
import Mathlib.Data.Nat.Find
import SiteAudit.Page.Comment
import SiteAudit.Proofs.Text.Leftmost

namespace SiteAudit.Page.Comment

open Text

variable {s rest : Text} {found : Find Unit} {span : Span} {comments : List Span} {offset close : Nat}

/-! ## Marks -/

/-- An opening mark stands at the offset. -/
def Opens (s : Text) (offset : Nat) : Prop :=
  ['@', '*'] <+: s.drop offset

/-- A closing mark stands at the offset. -/
def Closes (s : Text) (offset : Nat) : Prop :=
  ['*', '@'] <+: s.drop offset

/-- A closing mark stands behind the two characters at the offset. -/
def ClosesBehind (s : Text) (offset close : Nat) : Prop :=
  offset + 2 ≤ close ∧ Closes s close

/-- From an opening mark to the end of the first closing mark behind it. -/
structure IsComment (s : Text) (span : Span) : Prop where
  opens : Opens s span.first
  closes : ∃ close, ClosesBehind s span.first close ∧
    (∀ later, ClosesBehind s span.first later → close ≤ later) ∧ span.last = close + 1

/-- The comments of a text: they follow one another, and an opening mark outside
    of them has no closing mark behind it. -/
structure AreComments (s : Text) (comments : List Span) : Prop where
  inOrder : comments.Pairwise fun a b => a.last < b.first
  delimited : ∀ span ∈ comments, IsComment s span
  unclosed : ∀ offset, Opens s offset → (∀ span ∈ comments, ¬ (span.first ≤ offset ∧ offset ≤ span.last)) →
    ∀ close, ¬ ClosesBehind s offset close

theorem exists_front {mark : Text} {a : Char} (h : a :: mark ++ rest = s.drop offset) :
    ∃ front, s = front ++ (a :: mark ++ rest) ∧ front.length = offset := by
  refine ⟨s.take offset, by rw [h, List.take_append_drop], ?_⟩
  have := congrArg List.length h
  simp only [List.length_append, List.length_cons, List.length_drop] at this
  rw [List.length_take]
  omega

theorem closes_append (front : Text) : Closes (front ++ s) (front.length + offset) ↔ Closes s offset := by
  rw [Closes, List.drop_length_add_append, Closes]

theorem afterClose?_eq_some_iff : afterClose? s = some rest ↔
    ∃ body, s = body ++ '*' :: '@' :: rest ∧ ∀ close, Closes s close → body.length ≤ close := by
  induction s with
  | nil => simp [afterClose?]
  | cons c s ih =>
    by_cases hmark : Closes (c :: s) 0
    · obtain ⟨more, hmore⟩ := hmark
      obtain ⟨rfl, rfl⟩ : '*' = c ∧ '@' :: more = s := by simpa using hmore
      rw [afterClose?, Option.some.injEq]
      constructor
      · rintro rfl
        exact ⟨[], rfl, by simp⟩
      · rintro ⟨body, hsplit, hfirst⟩
        obtain rfl := List.eq_nil_of_length_eq_zero (Nat.le_zero.1 (hfirst 0 ⟨more, rfl⟩))
        simpa using hsplit
    · have hskip : afterClose? (c :: s) = afterClose? s := by
        refine afterClose?.eq_2 c s fun more hc hs => hmark ⟨more, ?_⟩
        simp [hc, hs]
      rw [hskip, ih]
      constructor
      · rintro ⟨body, rfl, hfirst⟩
        refine ⟨c :: body, rfl, fun close hclose => ?_⟩
        cases close with
        | zero => exact absurd hclose hmark
        | succ close => exact Nat.succ_le_succ (hfirst close hclose)
      · rintro ⟨body, hsplit, hfirst⟩
        cases body with
        | nil => exact absurd ⟨rest, hsplit.symm⟩ hmark
        | cons d body =>
          obtain ⟨rfl, rfl⟩ := List.cons.inj hsplit
          exact ⟨body, rfl, fun close hclose => Nat.le_of_succ_le_succ (hfirst (close + 1) hclose)⟩

/-- What is read begins with an opening mark and ends with the first closing mark behind it. -/
theorem form_eq_some_iff {before : Option Char} : form before s = some ((), rest) ↔
    ∃ body, s = '@' :: '*' :: (body ++ '*' :: '@' :: rest) ∧
      ∀ close, Closes (body ++ '*' :: '@' :: rest) close → body.length ≤ close := by
  constructor
  · intro h
    unfold form at h
    split at h
    · next inside =>
      obtain ⟨after, hafter, heq⟩ := Option.map_eq_some_iff.1 h
      obtain rfl : after = rest := by simpa using heq
      obtain ⟨body, rfl, hfirst⟩ := afterClose?_eq_some_iff.1 hafter
      exact ⟨body, rfl, hfirst⟩
    · simp at h
  · rintro ⟨body, rfl, hfirst⟩
    rw [form, afterClose?_eq_some_iff.2 ⟨body, rfl, hfirst⟩]
    rfl

theorem form_advances : form.Advances := by
  intro before s value rest h
  obtain ⟨body, rfl, -⟩ := form_eq_some_iff.1 h
  exact ⟨'@' :: '*' :: (body ++ ['*', '@']), by simp, by simp⟩

theorem reads_iff : form.Reads s found ↔ IsComment s ⟨found.start, found.stop - 1⟩ := by
  constructor
  · rintro ⟨front, read, rest, rfl, hstart, hwidth, hread⟩
    obtain ⟨body, hbody, hfirst⟩ := form_eq_some_iff.1 hread
    have hlength := congrArg List.length hbody
    simp only [List.length_append, List.length_cons] at hlength
    rw [hbody]
    refine ⟨⟨body ++ '*' :: '@' :: rest, by simp [← hstart]⟩, front.length + (body.length + 2), ?_, ?_, ?_⟩
    · refine ⟨by simp only; omega, (closes_append front).2 ⟨rest, ?_⟩⟩
      simp
    · rintro later ⟨hbehind, hlater⟩
      obtain ⟨k, rfl⟩ := Nat.exists_eq_add_of_le hbehind
      simp only [← hstart, Nat.add_assoc, closes_append] at hlater ⊢
      rw [Nat.add_comm 2 k] at hlater
      have := hfirst k hlater
      omega
    · simp only [Find.stop]
      omega
  · obtain ⟨start, width, ⟨⟩⟩ := found
    rintro ⟨⟨tail, hopen⟩, close, ⟨hbehind, hclose⟩, hfirst, hlast⟩
    obtain ⟨front, rfl, rfl⟩ := exists_front hopen
    have hinside (k : Nat) : ClosesBehind (front ++ (['@', '*'] ++ tail)) front.length (front.length + (k + 2)) ↔
        Closes tail k := by
      rw [ClosesBehind, closes_append]
      exact and_iff_right (by omega)
    obtain ⟨k, rfl⟩ := Nat.exists_eq_add_of_le hbehind
    rw [Nat.add_assoc, Nat.add_comm 2 k] at hbehind hclose hfirst
    obtain ⟨rest, hrest⟩ := (hinside k).1 ⟨hbehind, hclose⟩
    obtain ⟨body, rfl, rfl⟩ := exists_front hrest
    refine ⟨front, '@' :: '*' :: (body ++ ['*', '@']), rest, by simp, rfl, ?_, ?_⟩
    · simp only [Find.stop] at hlast
      simp only [List.length_append, List.length_cons, List.length_nil]
      omega
    · refine form_eq_some_iff.2 ⟨body, by simp, fun later hlater => ?_⟩
      have : front.length + (body.length + 2) ≤ front.length + (later + 2) := hfirst _ ((hinside later).2 hlater)
      omega

/-! ## The comments of a text -/

theorem exists_isComment (hopen : Opens s offset) (hclose : ClosesBehind s offset close) :
    ∃ last, IsComment s ⟨offset, last⟩ := by
  classical
  have h : ∃ close, ClosesBehind s offset close := ⟨close, hclose⟩
  exact ⟨Nat.find h + 1, hopen, Nat.find h, Nat.find_spec h, fun _ hlater => Nat.find_min' h hlater, rfl⟩

/-- A span as a find. -/
def Span.find (span : Span) : Find Unit :=
  ⟨span.first, span.last + 1 - span.first, ()⟩

theorem IsComment.stop_find (h : IsComment s span) : span.find.stop = span.last + 1 := by
  obtain ⟨-, close, ⟨hbehind, -⟩, -, hlast⟩ := h
  simp only [Span.find, Find.stop]
  omega

theorem IsComment.reads (h : IsComment s span) : form.Reads s span.find := by
  rw [reads_iff, h.stop_find]
  exact h

theorem mem_spans_iff : span ∈ spans s ↔ ∃ f ∈ finds form s, f.start = span.first ∧ f.stop = span.last + 1 := by
  rw [spans, List.mem_map]
  constructor
  · rintro ⟨f, hf, rfl⟩
    obtain ⟨-, close, -, -, hlast⟩ := reads_iff.1 (reads_of_mem_finds form_advances hf)
    refine ⟨f, hf, rfl, ?_⟩
    simp only at hlast ⊢
    omega
  · rintro ⟨f, hf, hstart, hstop⟩
    exact ⟨f, hf, by simp [hstart, hstop]⟩

theorem areComments_spans (s : Text) : AreComments s (spans s) where
  inOrder := by
    rw [spans, List.pairwise_map]
    refine (finds_leftToRight form s).imp_of_mem fun {f g} hf _ hle => ?_
    obtain ⟨-, close, -, -, hlast⟩ := reads_iff.1 (reads_of_mem_finds form_advances hf)
    simp only at hlast ⊢
    omega
  delimited := by
    intro span hspan
    obtain ⟨f, hf, rfl⟩ := List.mem_map.1 hspan
    exact reads_iff.1 (reads_of_mem_finds form_advances hf)
  unclosed := by
    intro offset hopen houtside close hclose
    obtain ⟨last, hcomment⟩ := exists_isComment hopen hclose
    obtain ⟨f, hf, hfirst, hlast⟩ := exists_find_of_reads form_advances hcomment.reads
    exact houtside _ (List.mem_map_of_mem hf) ⟨hfirst, Nat.le_sub_one_of_lt hlast⟩

/-- **The spans of a text are its comments, and nothing else is.** -/
theorem areComments_iff : AreComments s comments ↔ comments = spans s := by
  constructor
  · intro h
    have hfinds : comments.map Span.find = finds form s := by
      refine (leftmost_iff_eq_finds form_advances).1 (leftmost_iff.2 ⟨?_, ?_, fun g hg _ => ?_⟩)
      · rw [List.pairwise_map]
        refine h.inOrder.imp_of_mem fun {a b} ha _ hlt => ?_
        rw [(h.delimited a ha).stop_find]
        exact hlt
      · intro f hf
        obtain ⟨span, hspan, rfl⟩ := List.mem_map.1 hf
        exact ⟨(h.delimited span hspan).reads, Nat.zero_le _⟩
      · obtain ⟨hopen, close, hclose, -⟩ := reads_iff.1 hg
        by_contra hnone
        refine h.unclosed g.start hopen (fun span hspan hwithin => hnone ?_) close hclose
        refine ⟨span.find, List.mem_map_of_mem hspan, hwithin.1, ?_⟩
        rw [(h.delimited span hspan).stop_find]
        exact Nat.lt_succ_of_le hwithin.2
    have hspans : comments.map id = spans s := by
      rw [spans, ← hfinds, List.map_map]
      refine List.map_congr_left fun span hspan => ?_
      rw [Function.comp_apply, (h.delimited span hspan).stop_find]
      rfl
    rwa [List.map_id] at hspans
  · rintro rfl
    exact areComments_spans s

/-! ## Character by character -/

/-- Whether each character lies in a comment, by a single scan that toggles between
    code and comment.  In a comment the characters since its opening mark are
    counted; they lie in the comment if a closing mark comes, and in code if the
    text ends before. -/
def flagsFrom : (inside : Option Nat) → Text → List Bool
  | none, '@' :: '*' :: s => flagsFrom (some 2) s
  | none, _ :: s => false :: flagsFrom none s
  | none, [] => []
  | some n, '*' :: '@' :: s => List.replicate (n + 2) true ++ flagsFrom none s
  | some n, _ :: s => flagsFrom (some (n + 1)) s
  | some n, [] => List.replicate n false

/-- Whether each character of the text lies in a comment. -/
def flags (s : Text) : List Bool :=
  flagsFrom none s

theorem flagsFrom_closed (n width : Nat) (h : afterClose? s = some rest) (hwidth : s.length = width + rest.length) :
    flagsFrom (some n) s = List.replicate (n + width) true ++ flagsFrom none rest := by
  fun_induction afterClose? s generalizing n width with
  | case1 s =>
    obtain rfl := Option.some.inj h
    obtain rfl : width = 2 := by
      simp only [List.length_cons] at hwidth
      omega
    rw [flagsFrom]
  | case2 c s hmark ih =>
    obtain ⟨body, hbody, -⟩ := afterClose?_eq_some_iff.1 h
    have hlength := congrArg List.length hbody
    simp only [List.length_append, List.length_cons] at hlength hwidth
    rw [flagsFrom, ih (n + 1) (width - 1) h (by omega), show n + 1 + (width - 1) = n + width by omega]
    exact hmark
  | case3 => simp at h

theorem flagsFrom_unclosed {n : Nat} (h : afterClose? s = none) :
    flagsFrom (some n) s = List.replicate (n + s.length) false := by
  fun_induction afterClose? s generalizing n with
  | case1 => simp at h
  | case2 c s hmark ih =>
    rw [flagsFrom, ih h, List.length_cons, Nat.add_assoc, Nat.add_comm 1]
    exact hmark
  | case3 => rw [flagsFrom]; rfl

theorem afterClose?_tail {c : Char} (h : afterClose? (c :: s) = none) : afterClose? s = none := by
  unfold afterClose? at h
  split at h
  · simp at h
  · next heq =>
    obtain ⟨-, rfl⟩ := List.cons.inj heq
    exact h
  · next heq => simp at heq

/-- An opening mark with no closing mark behind it is code. -/
theorem flagsFrom_opens (h : afterClose? s = none) :
    flagsFrom none ('@' :: '*' :: s) = List.replicate (s.length + 2) false := by
  rw [flagsFrom, flagsFrom_unclosed h, Nat.add_comm]

theorem flagsFrom_skips {c : Char} (h : ¬ ['@', '*'] <+: c :: s) :
    flagsFrom none (c :: s) = false :: flagsFrom none s :=
  flagsFrom.eq_2 c s fun more hc hs => h ⟨more, by simp [hc, hs]⟩

theorem flagsFrom_code (h : afterClose? s = none) : flagsFrom none s = List.replicate s.length false := by
  induction s with
  | nil => rfl
  | cons c s ih =>
    have htail := afterClose?_tail h
    by_cases hopen : ['@', '*'] <+: c :: s
    · obtain ⟨more, hmore⟩ := hopen
      obtain ⟨rfl, rfl⟩ : '@' = c ∧ '*' :: more = s := by simpa using hmore
      exact flagsFrom_opens (afterClose?_tail htail)
    · rw [flagsFrom_skips hopen, ih htail]
      rfl

theorem flagsFrom_of_form_eq_none {before : Option Char} {c : Char} (h : form before (c :: s) = none) :
    flagsFrom none (c :: s) = false :: flagsFrom none s := by
  by_cases hopen : ['@', '*'] <+: c :: s
  · obtain ⟨more, hmore⟩ := hopen
    obtain ⟨rfl, rfl⟩ : '@' = c ∧ '*' :: more = s := by simpa using hmore
    have hmore : afterClose? more = none := by simpa [form] using h
    rw [flagsFrom_opens hmore, flagsFrom_skips (by simp), flagsFrom_code hmore]
    rfl
  · exact flagsFrom_skips hopen

theorem flagsFrom_of_form_eq_some {before : Option Char} (width : Nat) (h : form before s = some ((), rest))
    (hwidth : s.length = width + rest.length) :
    flagsFrom none s = List.replicate width true ++ flagsFrom none rest := by
  obtain ⟨body, rfl, hfirst⟩ := form_eq_some_iff.1 h
  obtain rfl : width = 2 + (body.length + 2) := by
    simp only [List.length_append, List.length_cons] at hwidth
    omega
  rw [flagsFrom, flagsFrom_closed 2 (body.length + 2) (afterClose?_eq_some_iff.2 ⟨body, rfl, hfirst⟩)]
  simp only [List.length_append, List.length_cons]
  omega

/-- Flags in front that are set are set, whatever the ones behind. -/
theorem getElem?_set_iff {k n : Nat} {flags : List Bool} :
    n < k ∨ (List.replicate k false ++ flags)[n]? = some true ↔ (List.replicate k true ++ flags)[n]? = some true := by
  by_cases hn : n < k
  · simp [hn, List.getElem?_append_left]
  · have hk : k ≤ n := Nat.le_of_not_lt hn
    simp [hn, hk, List.getElem?_append_right]

/-- From every place on, the flags set are those of the characters of the finds. -/
theorem exists_findsFrom_iff : ∀ (s : Text) (offset skip n : Nat) (before : Option Char), skip ≤ s.length →
    ((∃ f ∈ findsFrom form offset before skip s, f.start ≤ offset + n ∧ offset + n < f.stop) ↔
      (List.replicate skip false ++ flagsFrom none (s.drop skip))[n]? = some true)
  | [], offset, skip, n, before, hskip => by
    obtain rfl := Nat.le_zero.1 hskip
    simp [findsFrom, flagsFrom]
  | c :: s, offset, skip, n, before, hskip => by
    have hlater (skip : Nat) (hskip : skip ≤ s.length) :
        (∃ f ∈ findsFrom form (offset + 1) (some c) skip s, f.start ≤ offset + n ∧ offset + n < f.stop) ↔
          (List.replicate (skip + 1) false ++ flagsFrom none (s.drop skip))[n]? = some true := by
      rw [List.replicate_succ, List.cons_append]
      cases n with
      | zero =>
        refine iff_of_false ?_ (by simp)
        rintro ⟨f, hf, hle, -⟩
        have := le_start_of_mem_findsFrom hf
        omega
      | succ n =>
        rw [List.getElem?_cons_succ, ← exists_findsFrom_iff s (offset + 1) skip n (some c) hskip,
          show offset + (n + 1) = offset + 1 + n by omega]
    cases skip with
    | succ skip => exact hlater skip (by simpa using hskip)
    | zero =>
      rw [findsFrom]
      split
      · next hnone =>
        rw [hlater 0 (Nat.zero_le _), List.drop_zero, List.drop_zero, flagsFrom_of_form_eq_none hnone]
        rfl
      · next rest hread =>
        obtain ⟨d, read, hsplit⟩ : ∃ d read, c :: s = d :: (read ++ rest) := by
          obtain ⟨read, hne, hsplit⟩ := form_advances hread
          obtain ⟨d, read, rfl⟩ := List.exists_cons_of_ne_nil hne
          exact ⟨d, read, hsplit⟩
        obtain ⟨rfl, rfl⟩ := List.cons.inj hsplit
        have hwidth : (c :: (read ++ rest)).length - rest.length = read.length + 1 := by simp; omega
        have hflags := flagsFrom_of_form_eq_some (read.length + 1) hread (by simp; omega)
        have hmore := hlater read.length (by simp)
        have hfirst (value : Unit) : offset ≤ offset + n ∧ offset + n < (Find.mk offset (read.length + 1) value).stop ↔
            n < read.length + 1 := by
          rw [Find.stop]
          simp
        rw [List.drop_left] at hmore
        simp only [hwidth, List.mem_cons, or_and_right, exists_or, exists_eq_left, Nat.add_sub_cancel, hmore, hfirst,
          List.drop_zero, hflags, List.replicate_zero, List.nil_append]
        exact getElem?_set_iff

theorem covers_iff {offset : Int} : covers comments offset = true ↔
    ∃ n : Nat, offset = n ∧ ∃ span ∈ comments, span.first ≤ n ∧ n ≤ span.last := by
  simp only [covers, List.any_eq_true, Span.contains, Bool.and_eq_true, decide_eq_true_eq]
  constructor
  · rintro ⟨span, hspan, hfirst, hlast⟩
    obtain ⟨n, rfl⟩ := Int.eq_ofNat_of_zero_le (Int.le_trans (Int.natCast_nonneg span.first) hfirst)
    exact ⟨n, rfl, span, hspan, Int.ofNat_le.1 hfirst, Int.ofNat_le.1 hlast⟩
  · rintro ⟨n, rfl, span, hspan, hfirst, hlast⟩
    exact ⟨span, hspan, Int.ofNat_le.2 hfirst, Int.ofNat_le.2 hlast⟩

theorem exists_span_iff_flags : (∃ span ∈ spans s, span.first ≤ offset ∧ offset ≤ span.last) ↔
    (flags s)[offset]? = some true := by
  have h := exists_findsFrom_iff s 0 0 offset none (Nat.zero_le _)
  rw [Nat.zero_add, List.replicate_zero, List.nil_append, List.drop_zero] at h
  rw [flags, ← h]
  constructor
  · rintro ⟨span, hspan, hfirst, hlast⟩
    obtain ⟨f, hf, hstart, hstop⟩ := mem_spans_iff.1 hspan
    exact ⟨f, hf, hstart ▸ hfirst, by omega⟩
  · rintro ⟨f, hf, hstart, hstop⟩
    exact ⟨_, List.mem_map_of_mem hf, hstart, Nat.le_sub_one_of_lt hstop⟩

/-- The offset lies in a comment of the text. -/
def Commented (s : Text) (offset : Nat) : Prop :=
  ∃ comments, AreComments s comments ∧ ∃ span ∈ comments, span.first ≤ offset ∧ offset ≤ span.last

theorem commented_iff : Commented s offset ↔ covers (spans s) offset = true := by
  simp only [Commented, areComments_iff, exists_eq_left, covers_iff, Int.ofNat_inj, exists_eq_left']

/-- **The spans of a text are its comments.**  No other list of spans follows one
    another, goes from opening marks to the first closing marks behind them, and
    leaves out only what is not closed; and an offset is covered exactly if the
    scan that toggles at the marks finds its character in a comment. -/
theorem spans_exact (s : Text) : (∀ comments, AreComments s comments ↔ comments = spans s) ∧
    ∀ offset : Int, covers (spans s) offset = true ↔ ∃ n : Nat, offset = n ∧ (flags s)[n]? = some true := by
  refine ⟨fun comments => areComments_iff, fun offset => ?_⟩
  rw [covers_iff]
  exact exists_congr fun n => and_congr_right fun _ => exists_span_iff_flags

/-- The star of an opening mark does not close. -/
example : spans ['@', '*', '@', '*', '@', '*'] = [⟨0, 4⟩] := by decide

end SiteAudit.Page.Comment
