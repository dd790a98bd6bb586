import Triage.Proofs.Intel.Contributions
import Triage.Proofs.Intel.ExploitLookup

/-!
# Lookups that degrade

When the index of exploits cannot be had, a lookup answers with a placeholder that carries a note of what went wrong,
and the finding gets a warning with the note. What the note says follows from what came back for the request (`note`).
For a status that has no phrase the note is empty, and then the finding gets no warning at all.
Main statement: `lookups_degrade_with_note`.
-/
namespace Triage.Exploits

/-! ## How a fetch fails -/

/-- How a fetch fails: there is no address to ask, or no reply, or one with another status, or one that breaks off, or
one that cannot be read. -/
inductive FetchFails (c : Client) (h : Host) (cve : String) : Failure → Prop
  | unaddressed {part : String} {text : String} (hreply : c.reply? h cve = none) :
      FetchFails c h cve (.context "failed to build request" (Url.unreadable part (.plain text)))
  | failed {cause : Failure} {text method url : String} (hreply : c.reply? h cve = some (.failed cause)) :
      FetchFails c h cve (.context text (.transport method url cause))
  | status {code : Int} {body url : String} {broken : Option Failure}
      (hreply : c.reply? h cve = some (.answered code body broken)) (hcode : code ≠ 200) :
      FetchFails c h cve (.status code url)
  | broken {body text : String} {cause : Failure} (hreply : c.reply? h cve = some (.answered 200 body (some cause))) :
      FetchFails c h cve (.context text cause)
  | undecodable {body text : String} {cause : Failure} (hreply : c.reply? h cve = some (.answered 200 body none))
      (hdecode : Json.decodeText responseDecoder [] body = .error cause) : FetchFails c h cve (.context text cause)

variable {c : Client} {h : Host} {cve id : String} {cause : Failure}

theorem fetchFails_of_error (herror : (c.fetch cve h).1 = .error cause) : FetchFails c h cve cause := by
  have hreply? : c.reply? h cve = (c.request? cve).map h.reply := rfl
  unfold Client.fetch at herror
  unfold Client.request? at hreply?
  rw [bind_apply] at herror
  unfold Host.get at herror
  cases hparse : Url.parse (c.url ++ "?cve=" ++ cve) with
  | error e =>
    rw [hparse] at hreply? herror
    obtain ⟨part, text, rfl⟩ := Url.exists_of_parse_error hparse
    cases herror
    exact .unaddressed hreply?
  | ok u =>
    rw [hparse] at hreply? herror
    dsimp only at hreply? herror
    rw [if_neg (bearer_ne c.key), bind_apply] at herror
    simp only [Host.send] at herror
    rw [Option.map_some] at hreply?
    cases hreply : h.reply _ with
    | failed cause' =>
      rw [hreply] at hreply? herror
      cases herror
      exact .failed hreply?
    | answered code body broken =>
      rw [hreply] at hreply? herror
      dsimp only at herror
      by_cases hcode : code ≠ 200
      · rw [if_pos hcode] at herror
        cases herror
        exact .status hreply? hcode
      · rw [if_neg hcode] at herror
        obtain rfl := not_not.1 hcode
        cases broken with
        | some cause' =>
          cases herror
          exact .broken hreply?
        | none =>
          simp only [pure_apply] at herror
          cases hdecode : Json.decodeText responseDecoder [] body with
          | error e =>
            rw [hdecode] at herror
            cases herror
            exact .undecodable hreply? hdecode
          | ok records =>
            rw [hdecode] at herror
            cases herror

/-! ## Notes -/

/-- The note of a failure on the way to the server and back. -/
def interruption (cause : Failure) : String :=
  if (cause.find? asTimeout?).isSome then "timeout" else "network error"

/-- The note of what came back for a request when there is no use in it. -/
def note : Option Reply → String
  | none => "network error"
  | some (.failed cause) => interruption cause
  | some (.answered code _ broken) =>
    if code = 429 then "rate limited"
    else if code ≠ 200 then Status.reason code
    else broken.elim "network error" interruption

/-- The reply has a status without a phrase. -/
def Nameless (reply : Option Reply) : Prop :=
  ∃ code body broken, reply = some (.answered code body broken) ∧ Status.reason code = ""

theorem describe_context (text : String) (cause : Failure) : describe (.context text cause) = describe cause := rfl

theorem describe_of_find? (hcause : cause.find? asStatus? = none) : describe cause = interruption cause := by
  rw [describe, hcause]
  rfl

theorem describe_of_decodeText {α : Type} {d : Json.Decoder α} {zero : α} {body : String}
    (hd : Json.decodeText d zero body = .error cause) : describe cause = "network error" := by
  unfold Json.decodeText at hd
  split at hd
  · cases hd
    rfl
  · split at hd
    · cases hd
      rfl
    · cases hd

/-- **What a failed fetch is described as** follows from what came back. -/
theorem describe_eq_note (hnetwork : StatusesAreAnswers h) (hfails : FetchFails c h cve cause) :
    describe cause = note (c.reply? h cve) := by
  have hreplied {reply : Reply} (hreply : c.reply? h cve = some reply) : ∃ r, h.reply r = reply := by
    obtain ⟨r, -, hr⟩ := Option.map_eq_some_iff.1 hreply
    exact ⟨r, hr⟩
  cases hfails with
  | unaddressed hreply =>
    rw [hreply]
    rfl
  | @failed cause text method url hreply =>
    obtain ⟨r, hr⟩ := hreplied hreply
    rw [hreply, describe_context, describe_of_find?]
    · rfl
    · rw [find?_transport, find?_of_reply hnetwork hr]
  | @status code body url broken hreply hcode =>
    rw [hreply, note, if_pos hcode]
    change (if Status.isRateLimited code = true then _ else _) = _
    simp only [Status.isRateLimited, beq_iff_eq]
  | @broken body text cause hreply =>
    obtain ⟨r, hr⟩ := hreplied hreply
    rw [hreply, describe_context, describe_of_find? (find?_of_broken hnetwork hr)]
    rfl
  | undecodable hreply hdecode =>
    rw [hreply, describe_context, describe_of_decodeText hdecode]
    rfl

theorem interruption_ne (cause : Failure) : interruption cause ≠ "" := by
  unfold interruption
  split <;> decide

/-- **A note is empty** exactly for a status without a phrase. -/
theorem note_eq_empty_iff (reply : Option Reply) : note reply = "" ↔ Nameless reply := by
  have hno {reply : Option Reply} (hreply : ∀ code body broken, reply ≠ some (.answered code body broken)) :
      ¬ Nameless reply := fun ⟨code, body, broken, heq, _⟩ => hreply code body broken heq
  match reply with
  | none => exact iff_of_false (by decide) (hno nofun)
  | some (.failed cause) => exact iff_of_false (interruption_ne cause) (hno nofun)
  | some (.answered code body broken) =>
    have hnameless : Nameless (some (.answered code body broken)) ↔ Status.reason code = "" := by
      constructor
      · rintro ⟨code', body', broken', heq, hreason⟩
        cases heq
        exact hreason
      · exact fun hreason => ⟨code, body, broken, rfl, hreason⟩
    rw [hnameless, note]
    split
    · rename_i hcode
      subst hcode
      decide
    · split
      · rfl
      · rename_i hcode
        obtain rfl := not_not.1 hcode
        refine iff_of_false ?_ (by decide)
        cases broken with
        | none => decide
        | some cause => exact interruption_ne cause

/-! ## Placeholders -/

def placeholder (text : String) : ExploitRecord :=
  { maturity := Maturity.unknown.name, source := sourceName, error := text }

/-- The index is asked in vain: there is no record in the cache, no answer that can be read, and no rejection. -/
structure InVain (c : Client) (h : Host) (cve : String) : Prop where
  cached : ∀ e, cached h cve = some e → ∀ r, decode e.payload ≠ .ok r
  answers : ∀ records, ¬ Answers c h cve records
  rejects : ∀ code, ¬ Rejects c h cve code

/-- **A lookup in vain** answers with a placeholder that notes what came back. -/
theorem lookup_in_vain (hnetwork : StatusesAreAnswers h) (hid : Cve.validate id = .ok cve)
    (hkey : c.configured = true) (hvain : InVain c h cve) :
    (c.lookup id h).1 = .ok (placeholder (note (c.reply? h cve))) := by
  have hlookup : (c.lookup id h).1 =
      conclude ((Host.bucket sourceName).resolve cve (c.fetch cve) validate h).1 := by
    rw [Client.lookup, hid]
    dsimp only
    rw [hkey]
    rfl
  have hloaded : StatusesAreAnswers ((Host.bucket sourceName).load cve h).2 := by
    intro r
    rw [network_load]
    exact hnetwork r
  have hfetched : Fetches c h cve (c.fetch cve ((Host.bucket sourceName).load cve h).2).1 :=
    Fetches.of_load (fetches_fetch hloaded)
  have huseless : ∀ e, cached h cve = some e → validate e.payload ≠ .ok () := by
    intro e he hvalid
    obtain ⟨r, hr⟩ := validate_eq_ok_iff.1 hvalid
    exact hvain.cached e he r hr
  have hresolved := Cache.resolved_resolve (Host.bucket sourceName) cve (c.fetch cve) validate h
  rw [hlookup]
  generalize (Host.bucket sourceName).resolve cve (c.fetch cve) validate h = after at hresolved
  cases hresolved with
  | fresh hload hvalid hfresh => exact absurd hvalid (huseless _ hload)
  | fetched hready hfetch =>
    rw [hfetch] at hfetched
    obtain ⟨records, hanswers, -⟩ := hfetched.of_ok
    exact absurd hanswers (hvain.answers records)
  | stale hready hblame hload hvalid => exact absurd hvalid (huseless _ hload)
  | @unavailable cause hready hblame hload =>
    have hfails : FetchFails c ((Host.bucket sourceName).load cve h).2 cve cause := by
      obtain herror | ⟨payload, e, hok, hinvalid, -⟩ := hblame
      · exact fetchFails_of_error herror
      · rw [hok] at hfetched
        obtain ⟨records, hanswers, -⟩ := hfetched.of_ok
        exact absurd hanswers (hvain.answers records)
    have hdescribe := describe_eq_note hloaded hfails
    rw [reply?_load] at hdescribe
    obtain ⟨code, hrejects, -⟩ | ⟨hcause, -⟩ := hfetched.of_blame hblame
    · exact absurd hrejects (hvain.rejects code)
    · rw [conclude, rejection?_unavailable, hcause]
      change Except.ok (placeholder (describe cause)) = _
      rw [hdescribe]

/-! ## What the finding gets -/

theorem warning?_placeholder (text : String) :
    warning? (placeholder text) =
      if text = "" then none else some ("VulnCheck exploit status unavailable: " ++ text) := by
  simp only [warning?, placeholder]
  split_ifs <;> simp_all

/-- What a placeholder does to a finding: it is attached, and its note, if there is one, comes as a warning. -/
theorem apply_placeholder (text : String) (f : Finding) :
    (apply (placeholder text) f).exploit = some (placeholder text) ∧
      (text ≠ "" → "VulnCheck exploit status unavailable: " ++ text ∈ (apply (placeholder text) f).warnings) ∧
      (text = "" → (apply (placeholder text) f).warnings = f.warnings) := by
  obtain ⟨hshown, hwarning⟩ := shown_apply (placeholder text) f
  refine ⟨hshown, fun htext => hwarning _ ?_, fun htext => ?_⟩
  · rw [warning?_placeholder, if_neg htext]
  · rw [apply_eq, warning?_placeholder, if_pos htext]

theorem contribute_in_vain (hnetwork : StatusesAreAnswers h) {f : Finding} (hid : Cve.validate f.cve = .ok cve)
    (hkey : c.configured = true) (hvain : InVain c h cve) :
    (c.contribute f h).1 = .ok (apply (placeholder (note (c.reply? h cve)))) := by
  rw [Client.contribute, bind_apply, lookup_in_vain hnetwork hid hkey hvain]
  rfl

/-- **A lookup that degrades** answers with a placeholder. Its note follows from what came back, and is empty exactly
for a status without a phrase. The finding gets the placeholder, and a warning with the note unless that is empty, in
which case it gets none. -/
theorem lookups_degrade_with_note (c : Client) (id : String) (h : Host) (hnetwork : StatusesAreAnswers h)
    (hid : Cve.validate id = .ok cve) (hkey : c.configured = true) (hvain : InVain c h cve) :
    (c.lookup id h).1 = .ok (placeholder (note (c.reply? h cve))) ∧
      (note (c.reply? h cve) = "" ↔ Nameless (c.reply? h cve)) ∧
      ∀ f : Finding, f.cve = id → ∃ change, (c.contribute f h).1 = .ok change ∧ ∀ g,
        (change g).exploit = some (placeholder (note (c.reply? h cve))) ∧
          (¬ Nameless (c.reply? h cve) →
            "VulnCheck exploit status unavailable: " ++ note (c.reply? h cve) ∈ (change g).warnings) ∧
          (Nameless (c.reply? h cve) → (change g).warnings = g.warnings) := by
  refine ⟨lookup_in_vain hnetwork hid hkey hvain, note_eq_empty_iff _, ?_⟩
  rintro f rfl
  refine ⟨_, contribute_in_vain hnetwork hid hkey hvain, fun g => ?_⟩
  obtain ⟨hexploit, hwarned, hsilent⟩ := apply_placeholder (note (c.reply? h cve)) g
  rw [ne_eq, note_eq_empty_iff] at hwarned
  rw [note_eq_empty_iff] at hsilent
  exact ⟨hexploit, hwarned, hsilent⟩

/-- A host without a cache on which the index answers every request with a status. -/
def statusHost (code : Int) : Host where
  now := ⟨0⟩
  cache := none
  network _ := .answered code "" none

theorem statusesAreAnswers_statusHost (code : Int) : StatusesAreAnswers (statusHost code) := by
  refine fun r => ⟨?_, ?_⟩
  · rintro cause ⟨⟩
  · rintro code' body cause ⟨⟩

theorem inVain_statusHost {code : Int} (hcode : code ≠ 200 ∧ code ≠ 401 ∧ code ≠ 403) :
    InVain c (statusHost code) cve where
  cached := by rintro e ⟨⟩
  answers := by
    rintro records ⟨body, hreply, -⟩
    obtain ⟨r, -, hr⟩ := Option.map_eq_some_iff.1 hreply
    cases hr
    exact hcode.1 rfl
  rejects := by
    rintro code' ⟨body, broken, hreply, hrejected⟩
    obtain ⟨r, -, hr⟩ := Option.map_eq_some_iff.1 hreply
    cases hr
    exact hrejected.elim hcode.2.1 hcode.2.2

/-- A server that is out of service is noted as such. -/
theorem lookups_degrade_with_note_unavailable :
    StatusesAreAnswers (statusHost 503) ∧ InVain { key := "k" } (statusHost 503) "CVE-2024-0001" ∧
      (({ key := "k" } : Client).lookup " cve-2024-0001 " (statusHost 503)).1 =
        .ok (placeholder "Service Unavailable") ∧
      ∃ change, (({ key := "k" } : Client).contribute { cve := " cve-2024-0001 " } (statusHost 503)).1 = .ok change ∧
        "VulnCheck exploit status unavailable: Service Unavailable" ∈ (change {}).warnings := by
  have hnetwork := statusesAreAnswers_statusHost 503
  have hvain : InVain { key := "k" } (statusHost 503) "CVE-2024-0001" := inVain_statusHost (by decide)
  have hreply : ({ key := "k" } : Client).reply? (statusHost 503) "CVE-2024-0001" = some (.answered 503 "" none) := by
    decide +kernel
  obtain ⟨hlookup, hempty, hcontribute⟩ :=
    lookups_degrade_with_note { key := "k" } " cve-2024-0001 " (statusHost 503) hnetwork
      (show Cve.validate " cve-2024-0001 " = .ok "CVE-2024-0001" by decide +kernel) (by decide) hvain
  have hnote : note (some (.answered 503 "" none)) = "Service Unavailable" := by decide
  rw [hreply, hnote] at hlookup hempty
  refine ⟨hnetwork, hvain, hlookup, ?_⟩
  obtain ⟨change, hchange, hwarned⟩ := hcontribute { cve := " cve-2024-0001 " } rfl
  refine ⟨change, hchange, ?_⟩
  have hwarning := (hwarned {}).2.1
  rw [hreply, hnote] at hwarning
  exact hwarning fun hnameless => absurd (hempty.2 hnameless) (by decide)

/-- **A status without a phrase**, such as 520, leaves no note: the placeholder says nothing of what went wrong, and the
finding gets no warning. -/
theorem lookup_of_unknown_status :
    StatusesAreAnswers (statusHost 520) ∧ InVain { key := "k" } (statusHost 520) "CVE-2024-0001" ∧
      (({ key := "k" } : Client).lookup "CVE-2024-0001" (statusHost 520)).1 = .ok (placeholder "") ∧
      ∃ change, (({ key := "k" } : Client).contribute { cve := "CVE-2024-0001" } (statusHost 520)).1 = .ok change ∧
        (change { cve := "CVE-2024-0001" }).warnings = [] := by
  have hnetwork := statusesAreAnswers_statusHost 520
  have hvain : InVain { key := "k" } (statusHost 520) "CVE-2024-0001" := inVain_statusHost (by decide)
  have hid : Cve.validate "CVE-2024-0001" = .ok "CVE-2024-0001" := by decide +kernel
  have hreply : ({ key := "k" } : Client).reply? (statusHost 520) "CVE-2024-0001" = some (.answered 520 "" none) := by
    decide +kernel
  have hnote : note (some (.answered 520 "" none)) = "" := by decide
  refine ⟨hnetwork, hvain, ?_, apply (placeholder ""), ?_, (apply_placeholder "" _).2.2 rfl⟩
  · rw [lookup_in_vain hnetwork hid (by decide) hvain, hreply, hnote]
  · rw [contribute_in_vain (f := { cve := "CVE-2024-0001" }) hnetwork hid (by decide) hvain, hreply, hnote]

end Triage.Exploits
