import Triage.Proofs.Json.Filling
import Triage.Proofs.Number.Literal

/-!
# Findings that are written and read again

Each record of a finding is coded by the document that it is written as: the members are walked in the
order of the fields, and what is left out is what an empty record holds already. Numbers need to be
finite, and their decimal text has to read back (`Number.Legible`).
-/
namespace Triage

open Json (Codes Fills place codes_text codes_bool member)

/-! ## Numbers -/

/-- A finite number whose decimal text reads back to the same number. -/
structure Number.Legible (x : Float) : Prop where
  finite : Number.isFinite x = true
  read : Number.readFloat? (Number.Layout.json.write x) = some x

instance (x : Float) : Decidable (Number.Legible x) :=
  decidable_of_iff (Number.isFinite x = true ∧ Number.readFloat? (Number.Layout.json.write x) = some x)
    ⟨fun h => ⟨h.1, h.2⟩, fun h => ⟨h.finite, h.read⟩⟩

section

variable {x : Float}

theorem Json.ofFloat?_of_legible (h : Number.Legible x) :
    Json.ofFloat? x = some (.number (Number.Layout.json.write x)) :=
  if_pos h.finite

theorem Json.codes_float (n : Nat) (old : Float) (h : Number.Legible x) :
    Codes n Json.Decoder.float old (.number (Number.Layout.json.write x)) x :=
  ⟨.number (Number.isNumber_write h.finite), h.read⟩

/-- A finite number is written, whether it reads back or not. -/
theorem Json.Written.ofFloat? {d : Nat} {j : Json} (h : Json.ofFloat? x = some j) : Json.Written d j := by
  unfold Json.ofFloat? at h
  split at h
  · rename_i hfinite
    cases h
    exact .number (Number.isNumber_write hfinite)
  · cases h

theorem Json.floatMember?_of_legible (name : String) {o : Option Float}
    (h : ∀ x ∈ o, Number.Legible x) :
    Json.floatMember? name o =
      some (o.map fun x => member name (.number (Number.Layout.json.write x))).toList := by
  cases o with
  | none => rfl
  | some x => simp only [Json.floatMember?, ofFloat?_of_legible (h x rfl), Option.map_some, Option.toList_some]

end

/-! ## The records of a finding -/

theorem CatalogEntry.codes (n : Nat) (e : CatalogEntry) :
    Codes (n + 1) CatalogEntry.decoder {} e.toJson e := by
  simp only [CatalogEntry.toJson, List.append_assoc, List.cons_append, List.nil_append]
  refine Fills.codes (by decide) ?_
  refine .cons (.member (place 0 rfl) (codes_text ..)) ?_
  refine .cons (.member (place 1 rfl) (codes_text ..)) ?_
  refine .cons (.member (place 2 rfl) (codes_text ..)) ?_
  refine .cons (.member (place 3 rfl) (codes_text ..)) ?_
  refine .cons (.member (place 4 rfl) (codes_text ..)) ?_
  refine .cons (.member (place 5 rfl) (codes_text ..)) ?_
  refine .cons (.member (place 6 rfl) (codes_text ..)) ?_
  refine .append (.text (place 7 rfl)) ?_
  refine .append (.text (place 8 rfl)) ?_
  exact .to (.text (place 9 rfl)) rfl

theorem ExploitedStatus.codes (n : Nat) (s : ExploitedStatus) :
    Codes (n + 2) ExploitedStatus.decoder {} s.toJson s := by
  simp only [ExploitedStatus.toJson, List.append_assoc, List.cons_append]
  refine Fills.codes (by decide) ?_
  refine .cons (.member (place 0 rfl) (codes_bool ..)) ?_
  refine .append (.flag (place 1 rfl)) ?_
  refine .append (.flag (place 2 rfl)) ?_
  exact .to (.option (place 3 rfl) fun e _ => e.codes n) rfl

theorem Forecast.exists_codes (n : Nat) {s : Forecast} (hprobability : Number.Legible s.probability)
    (hpercentile : Number.Legible s.percentile) :
    ∃ j, s.toJson? = some j ∧ Codes (n + 1) Forecast.decoder {} j s := by
  simp only [Forecast.toJson?, Json.ofFloat?_of_legible hprobability,
    Json.ofFloat?_of_legible hpercentile, bind, Option.bind_some, pure, List.append_assoc,
    List.cons_append, List.nil_append]
  refine ⟨_, rfl, Fills.codes (by decide) ?_⟩
  refine .cons (.member (place 0 rfl) (codes_text ..)) ?_
  refine .cons (.member (place 1 rfl) (Json.codes_float _ _ hprobability)) ?_
  refine .cons (.member (place 2 rfl) (Json.codes_float _ _ hpercentile)) ?_
  refine .append (.text (place 3 rfl)) ?_
  refine .append (.flag (place 4 rfl)) ?_
  exact .to (.text (place 5 rfl)) rfl

/-- Whatever a forecast is written as is a document of the program, also if it does not read back. -/
theorem Forecast.written_of_toJson? {s : Forecast} {j : Json} (h : s.toJson? = some j) : Json.Written 1 j := by
  simp only [Forecast.toJson?, Option.bind_eq_bind, Option.bind_eq_some_iff, Option.pure_def, Option.some.injEq] at h
  obtain ⟨p, hp, q, hq, rfl⟩ := h
  have htext (name text : String) : ∀ m ∈ Json.textUnlessEmpty name text,
      (∃ name, m.1 = Json.escape name) ∧ Json.Written 0 m.2 := by
    intro m hm
    unfold Json.textUnlessEmpty at hm
    split at hm
    · cases hm
    · rw [List.mem_singleton.1 hm]
      exact ⟨⟨name, rfl⟩, .text text⟩
  have hflag (name : String) (b : Bool) : ∀ m ∈ Json.flagIfSet name b,
      (∃ name, m.1 = Json.escape name) ∧ Json.Written 0 m.2 := by
    intro m hm
    cases b with
    | false => cases hm
    | true =>
      rw [List.mem_singleton.1 hm]
      exact ⟨⟨name, rfl⟩, .bool true⟩
  have hall : ∀ m ∈ [member "cve" (Json.ofText s.cve), member "epss_score" p, member "epss_percentile" q] ++
      Json.textUnlessEmpty "date" s.date ++ Json.flagIfSet "stale" s.stale ++ Json.textUnlessEmpty "error" s.error,
      (∃ name, m.1 = Json.escape name) ∧ Json.Written 0 m.2 := by
    simp only [List.forall_mem_append, List.forall_mem_cons]
    exact ⟨⟨⟨⟨⟨⟨_, rfl⟩, .text s.cve⟩, ⟨⟨_, rfl⟩, .ofFloat? hp⟩, ⟨⟨_, rfl⟩, .ofFloat? hq⟩, fun _ h => (nomatch h)⟩,
      htext _ _⟩, hflag _ _⟩, htext _ _⟩
  exact .object (fun m hm => (hall m hm).1) fun m hm => (hall m hm).2

/-- The text of a forecast is JSON. -/
theorem Forecast.isValid_compact {s : Forecast} {j : Json} (h : s.toJson? = some j) :
    Json.isValid j.compact = true := by
  have hparse := Json.Printed.parse (.inl rfl) (Forecast.written_of_toJson? h) (by decide)
  rw [Json.isValid, hparse]
  rfl
theorem AffectedRange.codes (n : Nat) (r : AffectedRange) :
    Codes (n + 1) AffectedRange.decoder {} r.toJson r := by
  simp only [AffectedRange.toJson, List.cons_append, List.nil_append]
  refine Fills.codes (by decide) ?_
  refine .cons (.member (place 0 rfl) (codes_text ..)) ?_
  refine .cons (.member (place 1 rfl) (codes_text ..)) ?_
  refine .cons (.member (place 2 rfl) (codes_text ..)) ?_
  exact .to (.text (place 3 rfl)) rfl

theorem Advisory.codes (n : Nat) (a : Advisory) : Codes (n + 3) Advisory.decoder {} a.toJson a := by
  simp only [Advisory.toJson, List.append_assoc, List.cons_append]
  refine Fills.codes (by decide) ?_
  refine .cons (.member (place 0 rfl) (codes_text ..)) ?_
  refine .append (.text (place 1 rfl)) ?_
  refine .append (.text (place 2 rfl)) ?_
  refine .append (.text (place 3 rfl)) ?_
  refine .append (.text (place 4 rfl)) ?_
  refine .append (.text (place 5 rfl)) ?_
  refine .append (.list (place 6 rfl) fun r _ => r.codes n) ?_
  exact .to (.list (place 7 rfl) fun s _ => codes_text _ "" s) rfl

theorem ExploitRecord.codes (n : Nat) (r : ExploitRecord) :
    Codes (n + 1) ExploitRecord.decoder {} r.toJson r := by
  simp only [ExploitRecord.toJson, List.append_assoc, List.cons_append, List.nil_append]
  refine Fills.codes (by decide) ?_
  refine .cons (.member (place 0 rfl) (codes_bool ..)) ?_
  refine .cons (.member (place 1 rfl) (codes_text ..)) ?_
  refine .append (.text (place 2 rfl)) ?_
  refine .cons (.member (place 3 rfl) (codes_bool ..)) ?_
  refine .cons (.member (place 4 rfl) (codes_bool ..)) ?_
  refine .append (.text (place 5 rfl)) ?_
  exact .to (.text (place 6 rfl)) rfl

theorem Remediation.codes (n : Nat) (r : Remediation) :
    Codes (n + 1) Remediation.decoder {} r.toJson r := by
  simp only [Remediation.toJson, List.append_assoc]
  refine Fills.codes (by decide) ?_
  refine .append (.text (place 0 rfl)) ?_
  refine .append (.text (place 1 rfl)) ?_
  exact .to (.text (place 2 rfl)) rfl

/-! ## Findings -/

namespace Finding

/-- The finding as it is published, with its risk score rounded to two decimals. -/
def rounded (f : Finding) : Finding := { f with riskScore := Number.roundCents f.riskScore }

def numbers (f : Finding) : List Float :=
  f.cvssScore.toList ++ f.forecast.toList.flatMap (fun s => [s.probability, s.percentile]) ++ [f.riskScore]

variable {f : Finding}

theorem legible_cvssScore (h : ∀ x ∈ f.rounded.numbers, Number.Legible x) :
    ∀ x ∈ f.cvssScore, Number.Legible x := fun x hx =>
  h x (by simp [numbers, rounded, Option.mem_def.1 hx])

theorem legible_forecast (h : ∀ x ∈ f.rounded.numbers, Number.Legible x) {s : Forecast}
    (hs : s ∈ f.forecast) : Number.Legible s.probability ∧ Number.Legible s.percentile :=
  ⟨h _ (by simp [numbers, rounded, Option.mem_def.1 hs]), h _ (by simp [numbers, rounded, Option.mem_def.1 hs])⟩

theorem legible_risk (h : ∀ x ∈ f.rounded.numbers, Number.Legible x) :
    Number.Legible (Number.roundCents f.riskScore) :=
  h _ (by simp [numbers, rounded])

theorem codes_vulnerabilityId (n : Nat) (id : String) :
    Codes (n + 1) (.object [Json.Decoder.field "id" (fun s => s) (fun _ v => v) .text]) ""
      (.object (Json.textUnlessEmpty "id" id)) id :=
  Fills.codes (by decide) (.to (.text (place 0 rfl)) rfl)

/-- **A finding is coded by its document**, but for the rounding of its risk score. -/
theorem exists_codes (n : Nat) (hnumbers : ∀ x ∈ f.rounded.numbers, Number.Legible x)
    (herrors : Keyed.Sorted f.enrichmentErrors) :
    ∃ j, f.toJson? = some j ∧ Codes (n + 4) Finding.decoder {} j f.rounded := by
  have hrisk := legible_risk hnumbers
  have hforecast : ∀ s ∈ f.forecast, ∃ j, s.toJson? = some j ∧ Codes (n + 3) Forecast.decoder {} j s :=
    fun s hs => Forecast.exists_codes _ (legible_forecast hnumbers hs).1 (legible_forecast hnumbers hs).2
  -- The default is never taken: it only makes the writer of a forecast total, as for the other records.
  have hmember : Json.forecastMember? f.forecast =
      some (f.forecast.map fun s => member "epss" (s.toJson?.getD .null)).toList := by
    cases hs : f.forecast with
    | none => rfl
    | some s =>
      obtain ⟨j, hj, -⟩ := hforecast s hs
      simp only [Json.forecastMember?, hj, Option.map_some, Option.getD_some, Option.toList_some]
  simp only [Finding.toJson?, Json.floatMember?_of_legible _ (legible_cvssScore hnumbers), hmember,
    Json.ofFloat?_of_legible hrisk, bind, Option.bind_some, pure, List.append_assoc, List.cons_append,
    List.nil_append]
  refine ⟨_, rfl, Fills.codes (by decide) ?_⟩
  -- Members and fields come in the same order, so each field is still empty when its member is read.
  refine .append (.text (place 0 rfl)) ?_
  refine .append (.text (place 1 rfl)) ?_
  refine .append (.option (place 2 rfl) fun id _ => codes_vulnerabilityId _ id) ?_
  refine .append (.text (place 3 rfl)) ?_
  refine .append (.text (place 4 rfl)) ?_
  refine .append (.text (place 5 rfl)) ?_
  refine .append (.text (place 6 rfl)) ?_
  refine .append (.option (place 7 rfl) fun x hx => Json.codes_float _ _ (legible_cvssScore hnumbers x hx)) ?_
  refine .append (.text (place 8 rfl)) ?_
  refine .append (.text (place 9 rfl)) ?_
  refine .append (.text (place 10 rfl)) ?_
  refine .append (.option (place 11 rfl) fun s _ => s.codes (n + 1)) ?_
  refine .append (.option (place 12 rfl) fun s hs => ?_) ?_
  · obtain ⟨j, hj, hcodes⟩ := hforecast s hs
    rwa [hj]
  refine .append (.text (place 13 rfl)) ?_
  refine .append (.text (place 14 rfl)) ?_
  refine .append (.option (place 15 rfl) fun a _ => a.codes n) ?_
  refine .append (.option (place 16 rfl) fun r _ => r.codes (n + 2)) ?_
  refine .append (.option (place 17 rfl) fun r _ => r.codes (n + 2)) ?_
  refine .cons (.member (place 18 rfl) (Json.codes_float _ _ hrisk)) ?_
  refine .append (.text (place 19 rfl)) ?_
  refine .append (.text (place 20 rfl)) ?_
  refine .append (.list (place 21 rfl) fun s _ => codes_text _ "" s) ?_
  exact .to (.map (place 22 rfl) herrors) rfl

end Finding

end Triage
