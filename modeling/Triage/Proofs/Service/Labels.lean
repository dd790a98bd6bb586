import Triage.Proofs.Listing
import Triage.Proofs.Text.Bytes
import Triage.Service.Handler

/-!
# Labels that are cut

Five texts of a finding become values of labels: spaces take the place of breaks, and what goes beyond two
hundred bytes is cut off and marked. The cut goes by bytes. If a character lies across it (`Straddled`), what
is left is no text, and the metrics break down; in all other cases they are written. Main statement:
`metrics_written_iff`.
-/
namespace Triage.Exposition

open Text (bytes)

/-- The characters of a text with spaces in the place of breaks. -/
def spaced (s : String) : List Char := s.toList.map fun c => if isBreak c then ' ' else c

/-- The mark of a cut. -/
def ellipsis : List Char := ['.', '.', '.']

/-- The bytes of a label value before the white space around it is taken off. -/
def rawLabel (s : String) : List UInt8 :=
  if s = "" then bytes "unknown".toList
  else if (bytes (spaced s)).length ≤ maxLabelBytes then bytes (spaced s)
  else (bytes (spaced s)).take maxLabelBytes ++ bytes ellipsis

/-- A character of the text lies across the place where labels are cut. -/
def Straddled (s : String) : Prop :=
  ∃ pre c post, s.toList = pre ++ c :: post ∧ (bytes pre).length < maxLabelBytes ∧
    maxLabelBytes < (bytes pre).length + c.utf8Size

/-! ## Spaces for breaks -/

theorem utf8Size_spaced (c : Char) : (if isBreak c then ' ' else c).utf8Size = c.utf8Size := by
  split
  · rename_i hbreak
    simp only [isBreak, Bool.or_eq_true, beq_iff_eq] at hbreak
    obtain (rfl | rfl) | rfl := hbreak <;> rfl
  · rfl

theorem length_bytes_spaced (cs : List Char) :
    (bytes (cs.map fun c => if isBreak c then ' ' else c)).length = (bytes cs).length := by
  induction cs with
  | nil => rfl
  | cons c cs ih => rw [List.map_cons, Text.length_bytes_cons, Text.length_bytes_cons, utf8Size_spaced, ih]

theorem isBreak_of_mem_spaced {s : String} {c : Char} (h : c ∈ spaced s) : isBreak c = false := by
  obtain ⟨d, -, rfl⟩ := List.mem_map.1 h
  split
  · rfl
  · rename_i hbreak
    exact Bool.not_eq_true _ ▸ hbreak

/-- A space in the place of a break takes up as much. -/
theorem straddled_iff (s : String) :
    Straddled s ↔ ∃ pre c post, spaced s = pre ++ c :: post ∧ (bytes pre).length < maxLabelBytes ∧
      maxLabelBytes < (bytes pre).length + c.utf8Size := by
  constructor
  · rintro ⟨pre, c, post, hsplit, hbelow, habove⟩
    refine ⟨_, _, _, by rw [spaced, hsplit, List.map_append, List.map_cons], ?_, ?_⟩
    · rwa [length_bytes_spaced]
    · rwa [length_bytes_spaced, utf8Size_spaced]
  · rintro ⟨pre, c, post, hsplit, hbelow, habove⟩
    obtain ⟨pre, rest, hs, rfl, hrest⟩ := List.map_eq_append_iff.1 hsplit
    obtain ⟨c, post, rfl, rfl, -⟩ := List.map_eq_cons_iff.1 hrest
    rw [length_bytes_spaced] at hbelow habove
    rw [utf8Size_spaced] at habove
    exact ⟨pre, c, post, hs, hbelow, habove⟩

/-! ## One label -/

theorem trimChars_sublist (cs : List Char) : (Text.trimChars cs).Sublist cs := by
  have hend (ds : List Char) : (Text.dropEnd Text.isBlank ds).Sublist ds := by
    have h := (List.dropWhile_sublist Text.isBlank (l := ds.reverse)).reverse
    rwa [List.reverse_reverse] at h
  exact (hend _).trans (List.dropWhile_sublist _)

theorem not_straddled_empty : ¬ Straddled "" := by
  rintro ⟨pre, c, post, hsplit, -⟩
  simp at hsplit

theorem label?_of_ne {s : String} (hs : s ≠ "") {kept : List Char} {cut : Nat}
    (h : Text.takeBytes maxLabelBytes (spaced s) = (kept, cut)) :
    label? s =
      if kept.length = (spaced s).length then some (Text.trim (String.ofList (spaced s)))
      else if cut = 0 then some (Text.trim (String.ofList (kept ++ ellipsis)))
      else none := by
  rw [label?, if_neg hs]
  unfold spaced at h
  simp only [h]
  rfl

/-- **What becomes of a text.** If a character lies across the cut, there is no label, and no text has the
bytes that are left; otherwise the label is the text that has them, without white space around it. -/
theorem label?_cases (s : String) :
    Straddled s ∧ label? s = none ∧ (∀ us, bytes us ≠ rawLabel s) ∨
      ¬ Straddled s ∧ ∃ us, bytes us = rawLabel s ∧ label? s = some (Text.trim (String.ofList us)) ∧
        (bytes us).length ≤ maxLabelBytes + 3 ∧ ∀ c ∈ us, isBreak c = false := by
  by_cases hs : s = ""
  · subst hs
    exact .inr ⟨not_straddled_empty, "unknown".toList, rfl, rfl, by decide, by simp [isBreak]⟩
  have hcut := Text.cut_takeBytes maxLabelBytes (spaced s)
  rcases htake : Text.takeBytes maxLabelBytes (spaced s) with ⟨kept, cut⟩
  rw [htake] at hcut
  dsimp only at hcut
  have hlabel := label?_of_ne hs htake
  have hstraddled : Straddled s ↔ 0 < cut := by rw [straddled_iff, hcut.pos_iff]
  rw [hstraddled, rawLabel, if_neg hs]
  by_cases hfits : (bytes (spaced s)).length ≤ maxLabelBytes
  · -- Nothing is cut off.
    rw [if_pos (hcut.length_eq_iff.2 hfits)] at hlabel
    rw [if_pos hfits]
    have hzero : ¬ 0 < cut := by
      rw [hcut.pos_iff]
      rintro ⟨pre, c, post, hsplit, -, habove⟩
      rw [hsplit, Text.bytes_append, List.length_append, Text.length_bytes_cons] at hfits
      omega
    exact .inr ⟨hzero, spaced s, rfl, hlabel, by omega, fun c => isBreak_of_mem_spaced⟩
  · rw [if_neg fun hall => hfits (hcut.length_eq_iff.1 hall)] at hlabel
    rw [if_neg hfits]
    generalize hcs : spaced s = cs at hcut hfits
    cases hcut with
    | whole hlen => exact absurd hlen hfits
    | @before kept post c cut hlen hin =>
      rw [Text.Cut.take_bytes hlen hin post]
      by_cases hzero : cut = 0
      · -- The cut falls between two characters.
        subst hzero
        rw [if_pos rfl] at hlabel
        refine .inr ⟨Nat.lt_irrefl 0, kept ++ ellipsis, ?_, hlabel, ?_, fun d hd => ?_⟩
        · rw [List.take_zero, List.append_nil, Text.bytes_append]
        · rw [Text.bytes_append, List.length_append]
          have hmark : (bytes ellipsis).length = 3 := by decide
          omega
        · rcases List.mem_append.1 hd with hd | hd
          · refine isBreak_of_mem_spaced (s := s) ?_
            rw [hcs]
            exact List.mem_append_left _ hd
          · have hall : ∀ d ∈ ellipsis, isBreak d = false := by simp [ellipsis, isBreak]
            exact hall d hd
      · rw [if_neg hzero] at hlabel
        have hpos : 0 < cut := Nat.pos_of_ne_zero hzero
        exact .inl ⟨hpos, hlabel, fun us => Text.bytes_ne_of_cut hpos hin kept us _ _⟩

theorem isSome_label?_iff (s : String) : (label? s).isSome ↔ ¬ Straddled s := by
  rcases label?_cases s with ⟨hcut, hnone, -⟩ | ⟨hcut, us, -, hsome, -⟩
  · simp [hcut, hnone]
  · simp [hcut, hsome]

/-! ## All labels -/

/-- The texts of a finding that become labels. -/
def labelled (f : Finding) : List String := [f.cve, f.package, f.version, f.source, f.priority]

theorem isSome_riskSeries?_iff (f : Finding) :
    (riskSeries? f).isSome ↔ ∀ s ∈ labelled f, (label? s).isSome := by
  simp only [labelled, List.forall_mem_cons]
  unfold riskSeries?
  cases label? f.cve with
  | none => simp
  | some cve =>
    cases label? f.package with
    | none => simp
    | some package =>
      cases label? f.version with
      | none => simp
      | some version =>
        cases label? f.source with
        | none => simp
        | some source => cases label? f.priority <;> simp

/-- The metrics can be written exactly if all labels can. -/
theorem isSome_text?_iff (p : Engine.Publication) :
    (text? p).isSome ↔ ∀ f ∈ p.findings, ∀ s ∈ labelled f, (label? s).isSome := by
  have hrisks := Listing.isSome_mapM_iff riskSeries? p.findings
  simp only [isSome_riskSeries?_iff] at hrisks
  rw [← hrisks]
  unfold text? families?
  cases p.findings.mapM riskSeries? <;> simp

end Triage.Exposition

namespace Triage.Service

open Engine (Publication)
open Exposition
open Text (bytes)

/-- **When metrics are written.** They break down exactly if a finding has a text for a label with a character
across the cut: what is left of such a text has bytes that no text has. All other texts become labels that are
texts again, without breaks and with 203 bytes at most. -/
theorem metrics_written_iff (p : Publication) (pairs : List Query.Pair) :
    ((Route.metrics.respond p pairs).isSome ↔ ∀ f ∈ p.findings, ∀ s ∈ labelled f, ¬ Straddled s) ∧
    ∀ s : String,
      (Straddled s → label? s = none ∧ ∀ us, bytes us ≠ rawLabel s) ∧
      (¬ Straddled s → ∃ us label, bytes us = rawLabel s ∧ label? s = some label ∧
        label = Text.trim (String.ofList us) ∧ (∀ c ∈ label.toList, c ≠ '\n' ∧ c ≠ '\r' ∧ c ≠ '\t') ∧
        label.utf8ByteSize ≤ 203) := by
  refine ⟨?_, fun s => ⟨fun hcut => ?_, fun hcut => ?_⟩⟩
  · simp only [← isSome_label?_iff, ← isSome_text?_iff, Route.respond, metrics?, Option.isSome_map]
  · rcases label?_cases s with ⟨-, h⟩ | ⟨hnot, -⟩
    · exact h
    · exact absurd hcut hnot
  · rcases label?_cases s with ⟨hyes, -⟩ | ⟨-, us, hraw, hlabel, hlen, hbreaks⟩
    · exact absurd hyes hcut
    have hsub : (Text.trim (String.ofList us)).toList.Sublist us := by
      rw [Text.toList_trim, String.toList_ofList]
      exact trimChars_sublist us
    refine ⟨us, _, hraw, hlabel, rfl, fun c hc => ?_, ?_⟩
    · simpa [isBreak, and_assoc] using hbreaks c (hsub.subset hc)
    · rw [Text.utf8ByteSize_eq]
      exact Nat.le_trans (Text.length_bytes_le hsub) hlen

/-- A name of 199 letters and one more, which takes two bytes. -/
def longName : String := String.ofList (List.replicate 199 'a' ++ ['é'])

/-- **One long name breaks the metrics down.** No text has the bytes that are left of it. -/
theorem metrics_break_down :
    respond { findings := [{ package := longName }] } "GET" "/metrics" = none ∧
      ∀ us, bytes us ≠ rawLabel longName := by
  refine ⟨by decide +kernel, ?_⟩
  rcases label?_cases longName with ⟨-, -, hbytes⟩ | ⟨-, us, -, hlabel, -⟩
  · exact hbytes
  · have hnone : label? longName = none := by decide +kernel
    rw [hnone] at hlabel
    cases hlabel

end Triage.Service

