import Triage.Command.Report
import Triage.Inventory.Document
import Triage.Proofs.Finding.RoundTrip
import Triage.Service.Handler

/-!
# Published findings are read back

Findings leave the program as a report or in an answer of the service, and both can be given to it again
as input. What is read is what was published, field by field (`published_findings_read_back`).

The risk score is rounded when it is written. A score so large that rounding overflows has no written
form, although it is a finite number (`report_of_huge_score`).
-/
namespace Triage

open Json (Codes Fills Written place member)

/-- What a printed document codes is read from its text. -/
theorem Json.Printed.decodeText {d : Nat} {j : Json} {text : String} {α : Type} {dec : Json.Decoder α}
    {zero x : α} (h : j.Printed text) (hj : Codes d dec zero j x) (hd : d ≤ Json.maxDepth) :
    Json.decodeText dec zero text = .ok x := by
  simp only [Json.decodeText, h.parse hj.written hd, hj.read]

/-! ## Reading findings -/

namespace Inventory

variable {d : Nat} {text : String}

theorem parseFindings_array {js : List Json} {fs : List Finding}
    (h : Codes d Finding.listDecoder none (.array js) (some fs)) (hd : d ≤ Json.maxDepth)
    (htext : (Json.array js).Printed text) : parseFindings (text ++ "\n") = .ok (some fs) := by
  have hread := htext.decodeText h hd
  obtain ⟨cs, rfl, hcs⟩ := htext.exists_spells h.written
  obtain ⟨body, rfl⟩ := hcs.bracketed
  have htrim := Json.trim_newline body (by decide : Text.isBlank '[' = false)
    (by decide : Text.isBlank ']' = false)
  simp only [parseFindings, htrim, String.toList_ofList, hread]
  rfl

theorem parseFindings_object {ms : List (String × Json)} {envelope : Envelope} {fs : List Finding}
    (h : Codes d Envelope.decoder {} (.object ms) envelope) (hfs : envelope.findings = some fs)
    (hd : d ≤ Json.maxDepth) (htext : (Json.object ms).Printed text) :
    parseFindings (text ++ "\n") = .ok (some fs) := by
  have hread := htext.decodeText h hd
  obtain ⟨cs, rfl, hcs⟩ := htext.exists_spells h.written
  obtain ⟨body, rfl⟩ := hcs.bracketed
  have htrim := Json.trim_newline body (by decide : Text.isBlank '{' = false)
    (by decide : Text.isBlank '}' = false)
  simp only [parseFindings, htrim, String.toList_ofList, hread, hfs]
  rfl

end Inventory

/-! ## Publishing findings -/

/-- A finding whose numbers can be written and read, and whose failures are a map by source. -/
structure Finding.Publishable (f : Finding) : Prop where
  numbers : ∀ x ∈ f.rounded.numbers, Number.Legible x
  errors : Keyed.Sorted f.enrichmentErrors

instance (f : Finding) : Decidable f.Publishable :=
  have : Decidable (Keyed.Sorted f.enrichmentErrors) := inferInstanceAs (Decidable (List.Pairwise _ _))
  decidable_of_iff ((∀ x ∈ f.rounded.numbers, Number.Legible x) ∧ Keyed.Sorted f.enrichmentErrors)
    ⟨fun h => ⟨h.1, h.2⟩, fun h => ⟨h.numbers, h.errors⟩⟩

theorem Finding.exists_mapM_toJson? (n : Nat) {fs : List Finding} (h : ∀ f ∈ fs, f.Publishable) :
    ∃ js, fs.mapM Finding.toJson? = some js ∧
      List.Forall₂ (Codes (n + 4) Finding.decoder {}) js (fs.map Finding.rounded) := by
  induction fs with
  | nil => exact ⟨[], rfl, .nil⟩
  | cons f fs ih =>
    obtain ⟨j, hj, hcodes⟩ :=
      f.exists_codes n (h f List.mem_cons_self).numbers (h f List.mem_cons_self).errors
    obtain ⟨js, hjs, hall⟩ := ih fun g hg => h g (List.mem_cons_of_mem _ hg)
    refine ⟨j :: js, ?_, .cons hcodes hall⟩
    simp only [List.mapM_cons, hj, hjs, bind, Option.bind_some, pure]

theorem Json.written_ofInt (n : Nat) (k : Int) : Written n (Json.ofInt k) :=
  .number (Number.isNumber_toString k)

theorem written_prioritySummaryJson (n : Nat) (counts : List (Priority × Nat)) :
    Written (n + 1) (prioritySummaryJson counts) := by
  refine .object (fun m hm => ?_) (fun m hm => ?_)
  · obtain ⟨⟨p, k⟩, -, rfl⟩ := List.mem_map.1 hm
    exact ⟨p.name, rfl⟩
  · obtain ⟨⟨p, k⟩, -, rfl⟩ := List.mem_map.1 hm
    exact Json.written_ofInt n k

/-- The answer to a query codes the findings that are asked for; what else it tells is passed over. -/
theorem Filter.exists_codes_answer? (q : Filter) (fs : List Finding) (lastUpdated : String)
    (h : ∀ f ∈ q.page fs, f.Publishable) :
    ∃ ms, q.answer? fs lastUpdated = some (.object ms) ∧
      Codes 6 Inventory.Envelope.decoder {} (.object ms)
        { findings := some ((q.page fs).map Finding.rounded) } := by
  obtain ⟨js, hjs, hall⟩ := Finding.exists_mapM_toJson? 0 h
  simp only [Filter.answer?, hjs, bind, Option.bind_some, pure, List.cons_append, List.nil_append]
  refine ⟨_, rfl, Fills.codes (by decide) ?_⟩
  refine .cons (.member (place 0 rfl) (Json.codes_list hall)) ?_
  refine .cons (.passed (by decide +kernel) (Json.written_ofInt _ _)) ?_
  refine .cons (.passed (by decide +kernel) (Json.written_ofInt _ _)) ?_
  refine .cons (.passed (by decide +kernel) (written_prioritySummaryJson 4 _)) ?_
  unfold Json.textUnlessEmpty
  split
  next => exact .nil _ _ _
  next => exact .passed (by decide +kernel) (.text lastUpdated)

/-- An answer of the service is a document on a line, which is read as it was put together, and as the findings
that are asked for. -/
theorem Service.exists_text_findings {p : Engine.Publication} {pairs : List Query.Pair} {q : Filter}
    (hq : Filter.parse pairs = .ok q) (h : ∀ f ∈ q.page p.findings, f.Publishable) :
    ∃ text ms, q.answer? p.findings (lastUpdated p) = some (.object ms) ∧ (findings p pairs).status = 200 ∧
      (findings p pairs).body = text ++ "\n" ∧ Json.parse text = some (.object ms) ∧
      Inventory.parseFindings (text ++ "\n") = .ok (some ((q.page p.findings).map Finding.rounded)) := by
  obtain ⟨ms, hms, hcodes⟩ := q.exists_codes_answer? p.findings (lastUpdated p) h
  have hprinted : (Json.object ms).Printed
      (if (Query.value pairs "pretty").isEmpty then (Json.object ms).compact else (Json.object ms).indented) := by
    split
    next => exact .inl rfl
    next => exact .inr rfl
  refine ⟨_, ms, hms, ?_, ?_, hprinted.parse hcodes.written (by decide),
    Inventory.parseFindings_object hcodes rfl (by decide) hprinted⟩
  · simp only [findings, hq, hms, document]
    rfl
  · simp only [findings, hq, hms, document]
    rfl

/-- **What is published is read back.** A report is always made, and reading it gives the same findings in
the same order, each with its risk score rounded and otherwise unchanged: records that are there but empty
stay there, and a score of zero is kept. The same goes for the page of findings in an answer of the
service, compact or indented, whatever else the answer tells. -/
theorem published_findings_read_back (fs : List Finding) (h : ∀ f ∈ fs, f.Publishable) :
    (∃ text, Report.json fs = .ok text ∧
      Inventory.parseFindings text = .ok (some (fs.map Finding.rounded))) ∧
    ∀ (p : Engine.Publication) (pairs : List Query.Pair) (filter : Filter),
      Filter.parse pairs = .ok filter → filter.page p.findings = fs →
      (Service.findings p pairs).status = 200 ∧
      Inventory.parseFindings (Service.findings p pairs).body =
        .ok (some (fs.map Finding.rounded)) := by
  constructor
  · obtain ⟨js, hjs, hall⟩ := Finding.exists_mapM_toJson? 0 h
    refine ⟨(Json.array js).indented ++ "\n", ?_, ?_⟩
    · simp only [Report.json, Finding.listToJson?, hjs, Option.map_some]
    · exact Inventory.parseFindings_array (Json.codes_list hall) (by decide) (.inr rfl)
  · rintro p pairs filter hfilter rfl
    obtain ⟨text, ms, -, hstatus, hbody, -, hread⟩ := Service.exists_text_findings hfilter h
    exact ⟨hstatus, hbody ▸ hread⟩

/-- A finding with markup in its texts, a nested identifier and records that are there but empty, a score
of zero and a risk score that is not rounded. -/
def awkwardFinding : Finding :=
  { cve := "CVE-2024-3094", vulnerabilityId := some "", cvssScore := some 0
    description := "<b>\"a\" & 'b'</b>\u2028\t", exploited := some {}
    forecast := some { cve := "CVE-2024-3094", probability := 0.85, percentile := 0.99 }
    advisory := some { affected := [{}], references := ["", "\u001f"] }, exploit := some {}
    remediation := some {}, riskScore := 93.51499
    enrichmentErrors := [("epss", "timeout"), ("kev", "<html>")] }

theorem awkwardFinding_read_back :
    (∃ text, Report.json [awkwardFinding] = .ok text ∧
      Inventory.parseFindings text = .ok (some [awkwardFinding.rounded])) ∧
    Inventory.parseFindings (Service.findings { findings := [awkwardFinding] } []).body =
      .ok (some [awkwardFinding.rounded]) := by
  have hall : ∀ f ∈ [awkwardFinding], f.Publishable := by decide +kernel
  have h := published_findings_read_back [awkwardFinding] hall
  exact ⟨h.1, (h.2 { findings := [awkwardFinding] } [] {} rfl rfl).2⟩

/-- **A huge risk score cannot be published.** It is finite and reads back, but rounding it overflows. -/
theorem report_of_huge_score :
    (∀ x ∈ ({ riskScore := 1e307 } : Finding).numbers, Number.isFinite x = true ∧
      Number.readFloat? (Number.Layout.json.write x) = some x) ∧
    Report.json [{ riskScore := 1e307 }] = .error .notEncodable := by
  constructor
  · decide +kernel
  · have hrisk : Json.ofFloat? (Number.roundCents 1e307) = none := if_neg (by decide +kernel)
    simp only [Report.json, Finding.listToJson?, List.mapM_cons, Finding.toJson?, Json.floatMember?,
      Json.forecastMember?, hrisk, bind, Option.bind_some, Option.bind_none, Option.map_none]

end Triage
