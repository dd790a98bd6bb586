import Triage.Proofs.Engine.Tiers
import Triage.Proofs.Inventory.ReadBack
import Triage.Proofs.Number.Whole
import Triage.Proofs.Text.Pieces
import Triage.Service.Handler

/-!
# The findings that a query selects

A query asks for tiers, a vulnerability and a part of the source, and sets a limit. `Meets` says which
findings are what it asks for, and `Refused` which queries are not answered, both in terms of the values of the query.
What is published is ranked, so that the findings left out by a limit are no riskier than those returned. `Tells` says
what is read in the body of a response.
Main statement: `findings_by_query`.
-/
namespace Triage

/-! ## What a query asks for -/

namespace Query

variable (pairs : List Pair)

def tierNames : List String :=
  if Text.trim (text pairs "priority") = "" then [] else Text.split ',' (Text.trim (text pairs "priority"))

/-- The vulnerability in a query; empty if there is none. -/
def vulnerability : String := Text.upper (Text.trim (text pairs "cve"))

/-- The part of the source in a query; empty if there is none. -/
def sourcePart : List UInt8 := Filter.trimBytes (value pairs "source")

/-- The limit in a query; empty if there is none. -/
def limitText : String := Text.trim (text pairs "limit")

end Query

/-- The text is the full or the short name of the tier, in any case and with any blanks around it. -/
def Priority.CalledBy (p : Priority) (s : String) : Prop :=
  Text.upper (Text.trim s) = p.name ∨ Text.upper (Text.trim s) = p.shortName

instance (p : Priority) (s : String) : Decidable (p.CalledBy s) := inferInstanceAs (Decidable (_ ∨ _))

theorem Priority.parse?_eq_some_iff {s : String} {p : Priority} : Priority.parse? s = some p ↔ p.CalledBy s := by
  unfold Priority.parse? CalledBy
  constructor
  · intro h
    simpa using List.find?_some h
  · rintro (h | h)
    · rw [h]
      cases p <;> decide
    · rw [h]
      cases p <;> decide

/-- A list of names calls the tiers that any of them calls. -/
theorem Priority.mem_iff_of_called {names : List String} {ps : List Priority}
    (h : List.Forall₂ (fun s p => p.CalledBy s) names ps) {p : Priority} :
    p ∈ ps ↔ ∃ s ∈ names, p.CalledBy s := by
  refine mem_iff_of_forall₂ (fun s p q hp hq => ?_) h
  rw [← parse?_eq_some_iff] at hp hq
  exact Option.some.inj (hp.symm.trans hq)

open Query (tierNames vulnerability sourcePart limitText)

/-- The finding is what the query asks for: it is in one of the tiers, if any are named, has the
vulnerability, if there is one, and its source has the part. -/
@[mk_iff]
structure Meets (pairs : List Query.Pair) (f : Finding) : Prop where
  tier : tierNames pairs ≠ [] → ∃ s ∈ tierNames pairs, ∃ p : Priority, p.CalledBy s ∧ f.priority = p.name
  vulnerability : vulnerability pairs ≠ "" → f.cve = vulnerability pairs
  source : sourcePart pairs <:+: Text.bytes f.source.toList

instance (pairs : List Query.Pair) (f : Finding) : Decidable (Meets pairs f) :=
  decidable_of_iff _ (meets_iff pairs f).symm

/-- The limit that the query sets. None is as good as zero. -/
inductive Limits (pairs : List Query.Pair) : Nat → Prop
  | unset : limitText pairs = "" → Limits pairs 0
  | set {limit : Nat} : limitText pairs ≠ "" → Number.Denotes (limitText pairs).toList limit → limit ≤ 10000 →
      Limits pairs limit

/-- The query is not answered: it names something that is no tier, or its limit is no whole number from zero to
ten thousand, or its vulnerability or its part of the source has more than two hundred bytes. -/
def Refused (pairs : List Query.Pair) : Prop :=
  (∃ s ∈ tierNames pairs, ∀ p : Priority, ¬ p.CalledBy s) ∨
    (limitText pairs ≠ "" ∧ ¬ ∃ n, Number.Denotes (limitText pairs).toList n ∧ 0 ≤ n ∧ n ≤ 10000) ∨
    200 < (vulnerability pairs).utf8ByteSize ∨ 200 < (sourcePart pairs).length

/-! ## How a query is read -/

theorem Query.tierNames_eq_nil_iff {pairs : List Query.Pair} :
    tierNames pairs = [] ↔ Text.trim (text pairs "priority") = "" := by
  simp [tierNames, Text.split, Text.splitChars_ne_nil]

namespace Filter

variable {pairs : List Query.Pair} {q : Filter} {f : Finding}

/-- The tiers of a query are read exactly if all its names are those of tiers. -/
theorem parsePriorities_eq_ok_iff {ps : Option (List Priority)} :
    parsePriorities (Query.text pairs "priority") = .ok ps ↔
      if tierNames pairs = [] then ps = none
      else ∃ ts, ps = some ts ∧ List.Forall₂ (fun s (p : Priority) => p.CalledBy s) (tierNames pairs) ts := by
  by_cases hblank : Text.trim (Query.text pairs "priority") = ""
  · rw [if_pos (Query.tierNames_eq_nil_iff.2 hblank), parsePriorities, if_pos hblank, Except.ok.injEq]
    exact eq_comm
  · have hnames : tierNames pairs = Text.split ',' (Text.trim (Query.text pairs "priority")) := if_neg hblank
    rw [if_neg (mt Query.tierNames_eq_nil_iff.1 hblank), parsePriorities, if_neg hblank, ← hnames]
    simp only [← Priority.parse?_eq_some_iff, ← mapM_eq_some_iff]
    cases (tierNames pairs).mapM Priority.parse? with
    | none => simp
    | some ts => simp [eq_comm]

theorem limits_iff {limit : Nat} :
    Limits pairs limit ↔ if limitText pairs = "" then limit = 0
      else Number.Denotes (limitText pairs).toList limit ∧ limit ≤ 10000 := by
  constructor
  · rintro (hunset | ⟨hset, hlimit, hle⟩)
    · rw [if_pos hunset]
    · rw [if_neg hset]
      exact ⟨hlimit, hle⟩
  · split
    · rintro rfl
      exact .unset ‹_›
    · rintro ⟨hlimit, hle⟩
      exact .set ‹_› hlimit hle

/-- So is the limit, if it is a number from zero to ten thousand. -/
theorem parseLimit_eq_ok_iff {limit : Nat} :
    parseLimit (Query.text pairs "limit") = .ok limit ↔ Limits pairs limit := by
  rw [limits_iff]
  unfold parseLimit limitText maxLimit
  dsimp only
  split
  · rw [Except.ok.injEq]
    exact eq_comm
  · generalize Text.trim (Query.text pairs "limit") = s
    have hfits : limit ≤ 10000 → Number.fitsSigned limit = true := by
      intro hle
      have hlimit : Number.signedLimit = 9223372036854775808 := rfl
      simp only [Number.fitsSigned, Int.ofNat_eq_natCast, Bool.and_eq_true, decide_eq_true_eq]
      omega
    calc _ ↔ Number.readInt64 s = .ok (limit : Int) ∧ limit ≤ 10000 := by
          cases Number.readInt64 s with
          | error e => simp
          | ok n =>
            dsimp only
            rw [Except.ok.injEq]
            split
            · refine iff_of_false (fun h => by cases h) ?_
              omega
            · split
              · refine iff_of_false (fun h => by cases h) ?_
                omega
              · rw [Except.ok.injEq]
                omega
      _ ↔ _ := by
          rw [Number.readInt64_eq_ok_iff, and_assoc]
          exact and_congr_right fun _ => ⟨fun h => h.2, fun h => ⟨hfits h, h⟩⟩

theorem parse_eq_ok_iff :
    Filter.parse pairs = .ok q ↔
      parsePriorities (Query.text pairs "priority") = .ok q.priorities ∧ Limits pairs q.limit ∧
      q.cve = vulnerability pairs ∧ q.source = sourcePart pairs ∧
      (vulnerability pairs).utf8ByteSize ≤ 200 ∧ (sourcePart pairs).length ≤ 200 := by
  have hshort : (vulnerability pairs).utf8ByteSize ≤ 200 ∧ (sourcePart pairs).length ≤ 200 ↔
      ¬ (decide (maxFilterLength < (vulnerability pairs).utf8ByteSize) ||
        decide (maxFilterLength < (sourcePart pairs).length)) = true := by
    simp only [Bool.or_eq_true, decide_eq_true_eq, not_or, not_lt]
    rfl
  obtain ⟨priorities, cve, source, limit⟩ := q
  rw [hshort, ← parseLimit_eq_ok_iff]
  simp only [Filter.parse, bind_eq_ok_iff]
  constructor
  · rintro ⟨ps, hps, n, hn, hq⟩
    split at hq
    · cases hq
    · rename_i hfits
      cases hq
      exact ⟨hps, hn, rfl, rfl, hfits⟩
  · rintro ⟨hps, hlimit, rfl, rfl, hfits⟩
    exact ⟨_, hps, _, hlimit, if_neg hfits⟩

theorem accepts_iff :
    q.accepts f = true ↔ (∀ ps ∈ q.priorities, ∃ p ∈ ps, p.name = f.priority) ∧ (q.cve ≠ "" → f.cve = q.cve) ∧
      q.source <:+: Text.bytes f.source.toList := by
  unfold accepts allowsPriority
  rw [Bool.and_eq_true, Bool.and_eq_true, Text.hasPart_iff, and_assoc]
  refine and_congr ?_ (and_congr ?_ Iff.rfl)
  · cases q.priorities <;> simp
  · simp [imp_iff_not_or]

/-- **A query that is read accepts what it asks for.** -/
theorem accepts_iff_meets (h : Filter.parse pairs = .ok q) : q.accepts f = true ↔ Meets pairs f := by
  obtain ⟨hps, -, hcve, hsource, -⟩ := parse_eq_ok_iff.1 h
  rw [parsePriorities_eq_ok_iff] at hps
  have htiers : (∀ ps ∈ q.priorities, ∃ p ∈ ps, p.name = f.priority) ↔
      (tierNames pairs ≠ [] → ∃ s ∈ tierNames pairs, ∃ p : Priority, p.CalledBy s ∧ f.priority = p.name) := by
    split at hps
    · rename_i hnone
      simp [hps, hnone]
    · rename_i hsome
      obtain ⟨ts, hts, hcalled⟩ := hps
      simp only [hts, Option.mem_some_iff, forall_eq', Priority.mem_iff_of_called hcalled, ne_eq, hsome,
        not_false_eq_true, true_imp_iff]
      constructor
      · rintro ⟨p, ⟨s, hs, hp⟩, hf⟩
        exact ⟨s, hs, p, hp, hf.symm⟩
      · rintro ⟨s, hs, p, hp, hf⟩
        exact ⟨p, ⟨s, hs, hp⟩, hf.symm⟩
  rw [accepts_iff, htiers, hcve, hsource, meets_iff]

theorem exists_parsePriorities_iff :
    (∃ ps, parsePriorities (Query.text pairs "priority") = .ok ps) ↔
      ∀ s ∈ tierNames pairs, ∃ p : Priority, p.CalledBy s := by
  simp only [parsePriorities_eq_ok_iff]
  split
  · rename_i hnone
    simp [hnone]
  · simp only [← Priority.parse?_eq_some_iff, ← mapM_eq_some_iff, ← Option.isSome_iff_exists]
    rw [← Listing.isSome_mapM_iff, Option.isSome_iff_exists]
    exact ⟨fun ⟨_, ts, _, h⟩ => ⟨ts, h⟩, fun ⟨ts, h⟩ => ⟨_, ts, rfl, h⟩⟩

theorem exists_limits_iff :
    (∃ limit, Limits pairs limit) ↔
      ¬ (limitText pairs ≠ "" ∧ ¬ ∃ n, Number.Denotes (limitText pairs).toList n ∧ 0 ≤ n ∧ n ≤ 10000) := by
  rw [not_and, not_not]
  constructor
  · rintro ⟨limit, hunset | ⟨hset, hlimit, hle⟩⟩ hne
    · exact absurd hunset hne
    · exact ⟨limit, hlimit, by omega⟩
  · intro h
    by_cases hset : limitText pairs = ""
    · exact ⟨0, .unset hset⟩
    · obtain ⟨n, hn, hle⟩ := h hset
      obtain ⟨limit, rfl⟩ := Int.eq_ofNat_of_zero_le hle.1
      exact ⟨limit, .set hset hn (by omega)⟩

/-- **A query is read exactly if it is not refused.** -/
theorem exists_parse_iff : (∃ q, Filter.parse pairs = .ok q) ↔ ¬ Refused pairs := by
  have hparse : (∃ q, Filter.parse pairs = .ok q) ↔
      (∃ ps, parsePriorities (Query.text pairs "priority") = .ok ps) ∧ (∃ limit, Limits pairs limit) ∧
      (vulnerability pairs).utf8ByteSize ≤ 200 ∧ (sourcePart pairs).length ≤ 200 := by
    constructor
    · rintro ⟨q, hq⟩
      obtain ⟨hps, hlimit, -, -, hshort⟩ := parse_eq_ok_iff.1 hq
      exact ⟨⟨_, hps⟩, ⟨_, hlimit⟩, hshort⟩
    · rintro ⟨⟨ps, hps⟩, ⟨limit, hlimit⟩, hshort⟩
      exact ⟨⟨ps, vulnerability pairs, sourcePart pairs, limit⟩,
        parse_eq_ok_iff.2 ⟨hps, hlimit, rfl, rfl, hshort⟩⟩
  rw [hparse, exists_parsePriorities_iff, exists_limits_iff, Refused, not_or, not_or, not_or, not_lt, not_lt]
  simp

end Filter

/-! ## What a query returns -/

/-- The findings that a query asks for, in their order. -/
def matching (pairs : List Query.Pair) (fs : List Finding) : List Finding := fs.filter (Meets pairs ·)

/-- As many findings as the limit allows; zero is no limit. -/
def upTo (limit : Nat) (fs : List Finding) : List Finding := if limit = 0 then fs else fs.take limit

theorem Filter.select_eq_matching {pairs : List Query.Pair} {q : Filter} (h : Filter.parse pairs = .ok q)
    (fs : List Finding) : q.select fs = matching pairs fs :=
  List.filter_congr fun f _ => by
    rw [Bool.eq_iff_iff, Filter.accepts_iff_meets h, decide_eq_true_iff]

theorem Filter.page_eq_upTo {pairs : List Query.Pair} {q : Filter} (h : Filter.parse pairs = .ok q)
    (fs : List Finding) : q.page fs = upTo q.limit (matching pairs fs) := by
  rw [← select_eq_matching h]
  rfl

/-- A smaller limit leaves a beginning of what a larger one leaves. -/
theorem upTo_isPrefix {m n : Nat} (hpos : 0 < m) (h : m ≤ n ∨ n = 0) (fs : List Finding) :
    upTo m fs <+: upTo n fs := by
  rw [upTo, if_neg (Nat.ne_of_gt hpos), upTo]
  split
  · exact List.take_prefix m fs
  · exact List.take_prefix_take_left (by omega)

theorem upTo_isPrefix_self (n : Nat) (fs : List Finding) : upTo n fs <+: fs := by
  unfold upTo
  split
  · exact List.prefix_refl fs
  · exact List.take_prefix n fs

/-- **A limit keeps the riskiest findings.** -/
theorem riskScore_le_of_left_out {fs : List Finding} (h : fs.Pairwise fun a b => b.riskScore ≤ a.riskScore)
    {n : Nat} {f g : Finding} (hf : f ∈ upTo n fs) (hg : g ∈ fs.drop (upTo n fs).length) :
    g.riskScore ≤ f.riskScore := by
  rw [← List.prefix_iff_eq_append.1 (upTo_isPrefix_self n fs)] at h
  exact (List.pairwise_append.1 h).2.2 f hf g hg

theorem pairwise_matching {fs : List Finding} (h : fs.Pairwise fun a b => b.riskScore ≤ a.riskScore)
    (pairs : List Query.Pair) : (matching pairs fs).Pairwise fun a b => b.riskScore ≤ a.riskScore :=
  h.sublist List.filter_sublist

/-! ## One tier at a time -/

/-- The two queries ask for the same findings. -/
structure SameFilters (pairs pairs' : List Query.Pair) : Prop where
  tiers : tierNames pairs = tierNames pairs'
  vulnerability : vulnerability pairs = vulnerability pairs'
  source : sourcePart pairs = sourcePart pairs'

theorem SameFilters.matching_eq {pairs pairs' : List Query.Pair} (h : SameFilters pairs pairs') (fs : List Finding) :
    matching pairs fs = matching pairs' fs := by
  refine List.filter_congr fun f _ => decide_eq_decide.2 ?_
  rw [meets_iff, meets_iff, h.tiers, h.vulnerability, h.source]

namespace Query

/-- The query for one tier and otherwise as it is. -/
def forTier (p : Priority) (pairs : List Pair) : List Pair :=
  (Text.bytes "priority".toList, Text.bytes p.name.toList) :: pairs

variable (p : Priority) (pairs : List Pair)

theorem tierNames_forTier : tierNames (forTier p pairs) = [p.name] := by
  have hname : Text.ofBytes (Text.bytes p.name.toList) = p.name := by cases p <;> decide +kernel
  have htext : text (forTier p pairs) "priority" = p.name := by
    rwa [text, value, forTier, List.lookup_cons, beq_self_eq_true]
  rw [tierNames, htext]
  cases p <;> decide +kernel

theorem value_forTier (name : String) (h : Text.bytes name.toList ≠ Text.bytes "priority".toList) :
    value (forTier p pairs) name = value pairs name := by
  rw [value, forTier, List.lookup_cons, beq_false_of_ne h]
  rfl

theorem vulnerability_forTier : vulnerability (forTier p pairs) = vulnerability pairs := by
  rw [vulnerability, text, value_forTier p pairs "cve" (by decide +kernel)]
  rfl

theorem sourcePart_forTier : sourcePart (forTier p pairs) = sourcePart pairs := by
  rw [sourcePart, value_forTier p pairs "source" (by decide +kernel)]
  rfl

theorem limitText_forTier : limitText (forTier p pairs) = limitText pairs := by
  rw [limitText, text, value_forTier p pairs "limit" (by decide +kernel)]
  rfl

end Query

theorem Priority.calledBy_name {p q : Priority} : q.CalledBy p.name ↔ p = q := by
  have hself : parse? p.name = some p := by cases p <;> decide +kernel
  rw [← parse?_eq_some_iff, hself, Option.some.injEq]

theorem limits_forTier {p : Priority} {pairs : List Query.Pair} {limit : Nat} :
    Limits (Query.forTier p pairs) limit ↔ Limits pairs limit := by
  rw [Filter.limits_iff, Filter.limits_iff, Query.limitText_forTier]

theorem refused_of_forTier {p : Priority} {pairs : List Query.Pair} (h : Refused (Query.forTier p pairs)) :
    Refused pairs := by
  unfold Refused at h ⊢
  rw [Query.tierNames_forTier, Query.limitText_forTier, Query.vulnerability_forTier,
    Query.sourcePart_forTier] at h
  refine h.imp_left fun ⟨s, hs, hnone⟩ => ?_
  rw [List.mem_singleton] at hs
  exact absurd (Priority.calledBy_name.2 rfl) (hs ▸ hnone p)

theorem meets_forTier {p : Priority} {pairs : List Query.Pair} {f : Finding} :
    Meets (Query.forTier p pairs) f ↔ f.priority = p.name ∧
      (vulnerability pairs ≠ "" → f.cve = vulnerability pairs) ∧
      sourcePart pairs <:+: Text.bytes f.source.toList := by
  rw [meets_iff, Query.tierNames_forTier, Query.vulnerability_forTier, Query.sourcePart_forTier]
  simp only [List.mem_singleton, exists_eq_left, Priority.calledBy_name, exists_eq_left', ne_eq,
    List.cons_ne_nil, not_false_eq_true, true_imp_iff]

/-- **The tiers of a query split what it asks for.** -/
theorem perm_matching_forTier {pairs : List Query.Pair} (h : tierNames pairs ≠ []) {ts : List Priority}
    (hts : ts.Nodup) (hcalled : ∀ t, t ∈ ts ↔ ∃ s ∈ tierNames pairs, t.CalledBy s) (fs : List Finding) :
    (matching pairs fs).Perm (ts.flatMap fun t => matching (Query.forTier t pairs) fs) := by
  -- The findings that meet the query but for their tiers.
  let others := fs.filter fun f => (vulnerability pairs ≠ "" → f.cve = vulnerability pairs) ∧
    sourcePart pairs <:+: Text.bytes f.source.toList
  have hall : matching pairs fs = others.filter fun f => ts.any (·.name == f.priority) := by
    rw [List.filter_filter]
    refine List.filter_congr fun f _ => ?_
    rw [Bool.eq_iff_iff, decide_eq_true_iff, Bool.and_eq_true, decide_eq_true_iff, meets_iff]
    refine and_congr_left fun _ => ?_
    simp only [h, ne_eq, not_false_eq_true, true_imp_iff, List.any_eq_true, beq_iff_eq, hcalled]
    constructor
    · rintro ⟨s, hs, t, ht, hf⟩
      exact ⟨t, ⟨s, hs, ht⟩, hf.symm⟩
    · rintro ⟨t, ⟨s, hs, ht⟩, hf⟩
      exact ⟨s, hs, t, ht, hf.symm⟩
  have heach : ∀ t : Priority, matching (Query.forTier t pairs) fs = others.filter (·.priority == t.name) := by
    intro t
    rw [List.filter_filter]
    refine List.filter_congr fun f _ => ?_
    rw [Bool.eq_iff_iff, decide_eq_true_iff, Bool.and_eq_true, decide_eq_true_iff, meets_forTier, beq_iff_eq]
  rw [hall]
  simp only [heach]
  exact perm_flatMap_tiers hts others

/-! ## The response -/

namespace Service

open Engine (Publication)
open Json (member)

/-- The response that lists findings and tells how many match, how many there are in all, and how many of all are in
each tier. It fails if one of the findings cannot be written. -/
def listing (p : Publication) (pairs : List Query.Pair) (returned : List Finding) (matched : Nat) : Response :=
  document pairs <| (returned.mapM Finding.toJson?).map fun documents =>
    .object <|
      [ member "findings" (.array documents), member "total" (Json.ofInt p.findings.length),
        member "matched" (Json.ofInt matched),
        member "summary" (.object (Priority.all.map fun t =>
          member t.name (Json.ofInt (p.findings.countP (·.priority == t.name))))) ] ++
      Json.textUnlessEmpty "last_updated" (lastUpdated p)

theorem findings_of_parse {p : Publication} {pairs : List Query.Pair} {q : Filter}
    (h : Filter.parse pairs = .ok q) :
    findings p pairs =
      listing p pairs (upTo q.limit (matching pairs p.findings)) (matching pairs p.findings).length := by
  rw [← Filter.page_eq_upTo h, ← Filter.select_eq_matching h]
  simp only [findings, h, Filter.answer?, listing, prioritySummaryJson, prioritySummary, List.map_map]
  cases (q.page p.findings).mapM Finding.toJson? <;> rfl

theorem status_listing (p : Publication) (pairs : List Query.Pair) (returned : List Finding) (matched : Nat) :
    (listing p pairs returned matched).status ≠ 400 := by
  unfold listing
  cases returned.mapM Finding.toJson? with
  | none => exact (by decide : 500 ≠ 400)
  | some documents => exact (by decide : 200 ≠ 400)

theorem status_findings_eq_iff (p : Publication) (pairs : List Query.Pair) :
    (findings p pairs).status = 400 ↔ Refused pairs := by
  rw [← not_iff_not, ← Filter.exists_parse_iff]
  constructor
  · intro h
    cases hq : Filter.parse pairs with
    | error e =>
      rw [findings, hq] at h
      exact absurd rfl h
    | ok q => exact ⟨q, rfl⟩
  · rintro ⟨q, hq⟩
    rw [findings_of_parse hq]
    exact status_listing p pairs _ _

/-- A body, read as a document, tells how many findings are published, how many of them match and how many are in each
tier, and read as findings it gives those that are returned, with their risk scores rounded. -/
structure Tells (body : String) (published returned : List Finding) (matched : Nat) : Prop where
  findings : Inventory.parseFindings body = .ok (some (returned.map Finding.rounded))
  counts : ∃ text documents others, body = text ++ "\n" ∧
    Json.parse text = some (.object (
      [ ("findings", .array documents), ("total", .number (toString published.length)),
        ("matched", .number (toString matched)),
        ("summary", .object (Priority.all.map fun t =>
          (t.name, .number (toString (published.countP (·.priority == t.name)))))) ] ++ others)) ∧
    documents.length = returned.length ∧ ∀ m ∈ others, m.1 = "last_updated"

theorem tells_of_parse {p : Publication} {pairs : List Query.Pair} {q : Filter} (hq : Filter.parse pairs = .ok q)
    (h : ∀ f ∈ upTo q.limit (matching pairs p.findings), f.Publishable) :
    (findings p pairs).status = 200 ∧
      Tells (findings p pairs).body p.findings (upTo q.limit (matching pairs p.findings))
        (matching pairs p.findings).length := by
  rw [← Filter.page_eq_upTo hq] at h ⊢
  rw [← Filter.select_eq_matching hq]
  obtain ⟨text, ms, hms, hstatus, hbody, hparse, hread⟩ := exists_text_findings hq h
  rw [hbody]
  obtain ⟨documents, hdocuments, heq⟩ := Option.bind_eq_some_iff.1 hms
  obtain rfl := Json.object.inj (Option.some.inj heq)
  have hlength := (mapM_eq_some_iff.1 hdocuments).length_eq.symm
  refine ⟨hstatus, hread, text, documents, Json.textUnlessEmpty "last_updated" (lastUpdated p), rfl, ?_, hlength, ?_⟩
  · rw [hparse]
    rfl
  · unfold Json.textUnlessEmpty
    split
    next => exact List.forall_mem_nil _
    next => exact List.forall_mem_singleton.2 rfl

/-- **What a query returns.** A query is refused exactly if a part of its tiers is not the name of one, its limit is no
whole number from zero to ten thousand, or its vulnerability or its part of the source is too long. Otherwise the
response has the first findings that meet it, as many as the limit allows and in the order of their rank, with the
number of all that meet it and with the counts of all that is published. If these findings can be published, that is
what is read in its body.

So a smaller limit returns a beginning of what a larger one returns, no finding that is left out is riskier than one
that is returned, and asking for one tier after the other splits what is asked for. -/
theorem findings_by_query {sources : List (Engine.Source World)} {w₀ w : World} {attempts : List Engine.Attempt}
    {p : Publication} (h : Engine.runAll sources w₀ {} attempts = some (w, p)) (pairs : List Query.Pair) :
    ((findings p pairs).status = 400 ↔ Refused pairs) ∧
    (¬ Refused pairs → ∃ limit, Limits pairs limit ∧
      findings p pairs =
        listing p pairs (upTo limit (matching pairs p.findings)) (matching pairs p.findings).length ∧
      ((∀ f ∈ upTo limit (matching pairs p.findings), f.Publishable) →
        (findings p pairs).status = 200 ∧
        Tells (findings p pairs).body p.findings (upTo limit (matching pairs p.findings))
          (matching pairs p.findings).length)) ∧
    (Priority.all.map fun t => p.findings.countP (·.priority == t.name)).sum = p.findings.length ∧
    (matching pairs p.findings).Pairwise (fun a b => b.riskScore ≤ a.riskScore) ∧
    (∀ (pairs' : List Query.Pair) (m n : Nat), SameFilters pairs pairs' → 0 < m → m ≤ n ∨ n = 0 →
      upTo m (matching pairs p.findings) <+: upTo n (matching pairs' p.findings)) ∧
    (∀ limit, ∀ f ∈ upTo limit (matching pairs p.findings),
      ∀ g ∈ (matching pairs p.findings).drop (upTo limit (matching pairs p.findings)).length,
        g.riskScore ≤ f.riskScore) ∧
    (tierNames pairs ≠ [] → ∃ ts : List Priority,
      ts.Nodup ∧ (∀ t, t ∈ ts ↔ ∃ s ∈ tierNames pairs, t.CalledBy s) ∧
      (matching pairs p.findings).Perm (ts.flatMap fun t => matching (Query.forTier t pairs) p.findings) ∧
      ∀ t, (Refused (Query.forTier t pairs) → Refused pairs) ∧
        ∀ limit, Limits (Query.forTier t pairs) limit ↔ Limits pairs limit) := by
  have hranked : Engine.Ranked p.findings := Engine.ranked_nil.runAll h
  have hpairwise := pairwise_matching hranked.pairwise pairs
  refine ⟨status_findings_eq_iff p pairs, fun hread => ?_, ?_, hpairwise, ?_, ?_, fun htiers => ?_⟩
  · obtain ⟨q, hq⟩ := Filter.exists_parse_iff.2 hread
    exact ⟨q.limit, (Filter.parse_eq_ok_iff.1 hq).2.1, findings_of_parse hq, tells_of_parse hq⟩
  · have hsum := sum_prioritySummary hranked.tiered
    rwa [prioritySummary, List.map_map] at hsum
  · intro pairs' m n hsame hpos hle
    rw [← hsame.matching_eq]
    exact upTo_isPrefix hpos hle _
  · intro limit f hf g hg
    exact riskScore_le_of_left_out hpairwise hf hg
  · let ts := Priority.all.filter fun t => ∃ s ∈ tierNames pairs, t.CalledBy s
    have hts : ∀ t, t ∈ ts ↔ ∃ s ∈ tierNames pairs, t.CalledBy s := by
      intro t
      rw [List.mem_filter, decide_eq_true_iff]
      exact and_iff_right t.mem_all
    have hnodup : ts.Nodup := Priority.nodup_all.filter _
    exact ⟨ts, hnodup, hts, perm_matching_forTier htiers hnodup hts _, fun t =>
      ⟨refused_of_forTier, fun limit => limits_forTier⟩⟩

/-- A finding that is known to be exploited, one of critical severity and one of low severity. -/
def tieredFindings : List Finding :=
  [ { cve := "a", severity := "high", exploited := some { inCatalog := true } }, { cve := "b", severity := "critical" },
    { cve := "c", severity := "low" } ]

/-- A run over these findings, without servers and without a cache. -/
def tieredRun : Option (World × Publication) :=
  Engine.runAll [] { host := { now := ⟨0⟩, cache := none, network := fun _ => .failed .timeout } } {}
    [{ meanwhile := id, load := some fun h => (.ok tieredFindings, h), schedule := .oneByOne false }]

/-- A query for the highest tier and the third one, and for one finding. -/
def twoTiersQuery : List Query.Pair :=
  [ (Text.bytes "priority".toList, Text.bytes " p0,P2-high".toList),
    (Text.bytes "limit".toList, Text.bytes "+01".toList) ]

theorem findings_by_query_for_two_tiers :
    ∃ w p, tieredRun = some (w, p) ∧
      findings p twoTiersQuery =
        listing p twoTiersQuery (upTo 1 (matching twoTiersQuery p.findings))
          (matching twoTiersQuery p.findings).length ∧
      Tells (findings p twoTiersQuery).body p.findings (upTo 1 (matching twoTiersQuery p.findings)) 2 ∧
      (matching twoTiersQuery p.findings).map (·.cve) = ["a", "b"] := by
  obtain ⟨w, p, hrun, hp⟩ : ∃ w p, tieredRun = some (w, p) ∧
      p.findings = (tieredFindings.map Engine.prepare).map Finding.score :=
    ⟨_, _, rfl, List.mergeSort_of_pairwise (by decide +kernel)⟩
  have hread : ¬ Refused twoTiersQuery := Filter.exists_parse_iff.1 ⟨_, rfl⟩
  obtain ⟨limit, hlimit, hresponse, htells⟩ := (findings_by_query hrun twoTiersQuery).2.1 hread
  have hone : Filter.parseLimit (Query.text twoTiersQuery "limit") = .ok 1 := rfl
  rw [← Filter.parseLimit_eq_ok_iff, hone, Except.ok.injEq] at hlimit
  subst hlimit
  have hmatching : (matching twoTiersQuery p.findings).map (·.cve) = ["a", "b"] ∧
      ∀ f ∈ upTo 1 (matching twoTiersQuery p.findings), f.Publishable := by
    rw [hp]
    decide +kernel
  have htwo : (matching twoTiersQuery p.findings).length = 2 := by
    simpa using congrArg List.length hmatching.1
  exact ⟨w, p, hrun, hresponse, htwo ▸ (htells hmatching.2).2, hmatching.1⟩

end Service

end Triage
