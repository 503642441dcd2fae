/-
  What the links of a file are made of.

  * `Reach.value_subset`, `IsCall.value_subset`: a destination has characters of the
    line that it stands in.
  * `exists_of_mem_ofSources`: every link is that of a destination without line
    feeds.
  * `lineFeed_notMem_scheme`: such a destination has a scheme without line feeds.
-/
import SiteAudit.Audit.Basic
import SiteAudit.Proofs.Link.Idioms
import SiteAudit.Proofs.Text.Names
import SiteAudit.Proofs.Text.SmallForm

namespace SiteAudit

namespace Text

variable {s line : Text}

/-! ## Characters that stay -/

theorem trim_subset (s : Text) : trim s ⊆ s := by
  intro c hc
  have hleft : c ∈ trimLeft s := by
    rw [trim, trimRight, List.mem_reverse] at hc
    exact List.mem_reverse.1 ((List.dropWhile_suffix _).subset hc)
  exact (List.dropWhile_suffix _).subset hleft

theorem lineFeed_notMem_of_mem_lines (h : line ∈ lines s) : '\n' ∉ line := by
  have hcut : line ∈ splitOn '\n' s := by
    rw [lines, linesBy] at h
    split at h
    · exact List.dropLast_subset _ h
    · exact h
  exact notMem_of_mem_splitOn hcut

end Text

namespace Link

open Text

variable {line url file : Text} {number : Int} {found : Find Text} {catalogue : Route.Catalogue} {link : Link}

theorem Reach.value_subset (reach : Reach line) : reach.value ⊆ line := by
  intro c hc
  rw [reach.line_eq]
  simp [reach.isPhrase.subset hc]

theorem IsCall.value_subset (h : IsCall line found) : found.value ⊆ line := by
  obtain ⟨front, phrase, rest, rfl, -, -, -, hphrase⟩ := h
  intro c hc
  simp [hphrase.subset hc]

/-! ## Links of files -/

theorem exists_of_mem_ofLine (h : link ∈ ofLine catalogue file number line) :
    ∃ idiom raw, raw ⊆ line ∧ link = ofDestination catalogue file number idiom raw := by
  rw [ofLine_eq_finds] at h
  rcases List.mem_append.1 h with h | h
  · obtain ⟨found, hfound, rfl⟩ := List.mem_map.1 h
    obtain ⟨reach, rfl, -⟩ := anchor_reads_iff.1 (reads_of_mem_finds anchor_advances hfound)
    exact ⟨.href, reach.value, reach.value_subset, rfl⟩
  · obtain ⟨found, hfound, rfl⟩ := List.mem_map.1 h
    have hcall := navigation_reads_iff.1 (reads_of_mem_finds navigation_advances hfound)
    exact ⟨.navigateTo, found.value, hcall.value_subset, rfl⟩

theorem exists_of_mem_ofLinesFrom {lines : List Text} (h : link ∈ ofLinesFrom catalogue file number lines) :
    ∃ line ∈ lines, ∃ number, link ∈ ofLine catalogue file number line := by
  obtain ⟨i, line, hline, hlink⟩ := mem_ofLinesFrom_iff.1 h
  exact ⟨line, List.mem_of_getElem? hline, number + i, hlink⟩

/-- **Every link of sources is that of a destination without line feeds.** -/
theorem exists_of_mem_ofSources {sources : List Source} (h : link ∈ ofSources catalogue sources) :
    ∃ file number idiom raw, '\n' ∉ raw ∧ link = ofDestination catalogue file number idiom raw := by
  obtain ⟨source, -, hsource⟩ := List.mem_flatMap.1 h
  obtain ⟨line, hline, number, hlink⟩ := exists_of_mem_ofLinesFrom hsource
  obtain ⟨idiom, raw, hraw, rfl⟩ := exists_of_mem_ofLine hlink
  exact ⟨source.file, number, idiom, raw, fun hfeed => lineFeed_notMem_of_mem_lines hline (hraw hfeed), rfl⟩

theorem lineFeed_notMem_scheme (h : '\n' ∉ url) : '\n' ∉ Destination.scheme url := by
  have hhead : '\n' ∉ (trim url).takeWhile (· != ':') := fun hfeed =>
    h (trim_subset url ((List.takeWhile_prefix _).subset hfeed))
  rw [Destination.scheme]
  split
  · simp
  · split
    · exact mt (mem_lowerFrom_iff rfl).1 hhead
    · simp [Destination.relativeScheme]

end Link

end SiteAudit
