import Triage.Intel.Exploits
import Triage.Proofs.Cve.Spelling

/-!
# Exploits summed up

The records of the index that mention a vulnerability are summed up one after the other. The sum depends only on which
records there are (`SumsUp`, `SumsUp.unique`): neither their order, nor that a record comes twice, nor a record about
other vulnerabilities makes a difference. A record mentions a vulnerability if one of its identifiers is the same up to
case and blanks around it, which is to say that the vulnerability is its canonical form (`mentions_iff`). Main
statement: `exploits_summed_up`.
-/
namespace Triage

/-! ## Identifiers without regard to case -/

namespace Cve

/-- **A text spells an identifier** exactly if it is equal to it without regard to case and blanks around it. -/
theorem equalFold_trim_iff {s cve : String} (h : isCanonical cve.toList = true) :
    Text.equalFold (Text.trim s) cve = true ↔ validate s = .ok cve := by
  rw [Text.equalFold_iff_upper (isPlain_of_isCanonical h), validate_eq_ok_iff_normalize, and_iff_left h]
  rfl

end Cve

namespace Exploits

variable {cve : String} {records records' : List Listed} {r : Listed}

/-! ## What a record mentions -/

theorem mentions_iff (hcve : Cve.isCanonical cve.toList = true) (hr : r.cves ≠ []) :
    r.mentions cve = true ↔ ∃ id ∈ r.cves, Cve.validate id = .ok cve := by
  rw [Listed.mentions, List.isEmpty_eq_false_iff.2 hr, Bool.false_or, List.any_eq_true]
  exact exists_congr fun id => and_congr_right fun _ => Cve.equalFold_trim_iff hcve

/-! ## The order of maturities -/

namespace Maturity

theorem rank_injective {m m' : Maturity} (h : m.rank = m'.rank) : m = m' := by
  cases m <;> cases m' <;> first | rfl | cases h

theorem name_injective {m m' : Maturity} (h : m.name = m'.name) : m = m' := by
  cases m <;> cases m' <;> first | rfl | exact absurd h (by decide)

theorem rank_max (m m' : Maturity) : (m.max m').rank = Nat.max m.rank m'.rank := by
  unfold max
  split
  · rename_i h
    exact (Nat.max_eq_right (Nat.le_of_lt h)).symm
  · rename_i h
    exact (Nat.max_eq_left (Nat.not_lt.1 h)).symm

theorem max_eq_or (m m' : Maturity) : m.max m' = m ∨ m.max m' = m' := by
  unfold max
  split
  · exact .inr rfl
  · exact .inl rfl

end Maturity

theorem rank_none_lt (r : Listed) : Maturity.none.rank < r.maturity.rank := by
  unfold Listed.maturity
  split
  · decide
  · split <;> decide

/-! ## What is summed up -/

theorem exists_mem_snoc {p : Listed → Prop} {seen : List Listed} :
    (∃ r' ∈ seen ++ [r], p r') ↔ (∃ r' ∈ seen, p r') ∨ p r := by
  simp [or_and_right, exists_or]

/-- What is known once `seen` are the records that have been added. -/
structure Known (seen : List Listed) (e : ExploitRecord × Maturity) : Prop where
  available : e.1.available = true ↔ seen ≠ []
  weaponized : e.1.weaponized = true ↔ ∃ r ∈ seen, r.reported = true ∨ r.inRansomware = true
  ransomwareUse : e.1.ransomwareUse = true ↔ ∃ r ∈ seen, r.inRansomware = true
  attained : e.2 = .none ∧ seen = [] ∨ ∃ r ∈ seen, r.maturity = e.2
  bound : ∀ r ∈ seen, r.maturity.rank ≤ e.2.rank
  rest : e.1.source = sourceName ∧ e.1.attackVector = "" ∧ e.1.error = ""

theorem known_nil : Known [] ({ source := sourceName }, .none) where
  available := by simp
  weaponized := by simp
  ransomwareUse := by simp
  attained := .inl ⟨rfl, rfl⟩
  bound := by simp
  rest := ⟨rfl, rfl, rfl⟩

/-- Adding one more record. -/
theorem Known.addListed {seen : List Listed} {e : ExploitRecord × Maturity} (h : Known seen e) (r : Listed) :
    Known (seen ++ [r]) (addListed e r) where
  available := by simp [Exploits.addListed]
  weaponized := by
    simp only [Exploits.addListed, Bool.or_eq_true, h.weaponized, exists_mem_snoc, or_assoc]
  ransomwareUse := by
    simp only [Exploits.addListed, Bool.or_eq_true, h.ransomwareUse, exists_mem_snoc]
  attained := by
    refine .inr ?_
    obtain hold | hnew := Maturity.max_eq_or e.2 r.maturity
    · obtain ⟨hnone, -⟩ | ⟨r', hr', hmaturity⟩ := h.attained
      · -- The maturity of a record is above that of no record at all.
        have hrank := Maturity.rank_max e.2 r.maturity
        rw [hold, hnone] at hrank
        exact absurd (hrank ▸ Nat.le_max_right _ _) (Nat.not_le.2 (rank_none_lt r))
      · exact ⟨r', List.mem_append_left _ hr', hmaturity.trans hold.symm⟩
    · exact ⟨r, by simp, hnew.symm⟩
  bound := by
    have hrank : (Exploits.addListed e r).2.rank = Nat.max e.2.rank r.maturity.rank := Maturity.rank_max _ _
    rw [hrank]
    intro r' hr'
    obtain hr' | hr' := List.mem_append.1 hr'
    · exact le_trans (h.bound r' hr') (Nat.le_max_left _ _)
    · rw [List.mem_singleton.1 hr']
      exact Nat.le_max_right _ _
  rest := h.rest

/-- **What is known after a list of records.** -/
theorem known_foldl (records : List Listed) :
    Known records (records.foldl addListed ({ source := sourceName }, .none)) := by
  induction records using List.reverseRecOn with
  | nil => exact known_nil
  | append_singleton records r ih =>
    rw [List.foldl_append]
    exact ih.addListed r

/-- The record sums up those that mention the vulnerability: there is one, one of them reports exploitation or use by
ransomware, one reports use by ransomware, and the greatest maturity among them. -/
structure SumsUp (cve : String) (records : List Listed) (e : ExploitRecord) : Prop where
  available : e.available = true ↔ ∃ r ∈ records, r.mentions cve = true
  weaponized : e.weaponized = true ↔ ∃ r ∈ records, r.mentions cve = true ∧
    (r.reports ≠ [] ∨ Text.equalFold r.ransomwareUse "Known" = true)
  ransomwareUse : e.ransomwareUse = true ↔ ∃ r ∈ records, r.mentions cve = true ∧
    Text.equalFold r.ransomwareUse "Known" = true
  maturity : (e.maturity = Maturity.none.name ∧ ∀ r ∈ records, r.mentions cve = false) ∨
    ∃ r ∈ records, r.mentions cve = true ∧ e.maturity = r.maturity.name ∧
      ∀ r' ∈ records, r'.mentions cve = true → r'.maturity.rank ≤ r.maturity.rank
  rest : e.source = sourceName ∧ e.attackVector = "" ∧ e.error = ""

theorem reported_iff : r.reported = true ↔ r.reports ≠ [] := by
  simp [Listed.reported]

theorem sumsUp_summary (cve : String) (records : List Listed) : SumsUp cve records (summary cve records) := by
  obtain ⟨e, hknown, hsummary⟩ : ∃ e, Known (records.filter (·.mentions cve)) e ∧
      summary cve records = { e.1 with maturity := e.2.name } := ⟨_, known_foldl _, rfl⟩
  rw [hsummary]
  constructor
  · refine hknown.available.trans ?_
    simp [List.filter_eq_nil_iff]
  · refine hknown.weaponized.trans ?_
    simp only [List.mem_filter, reported_iff, and_assoc]
    rfl
  · refine hknown.ransomwareUse.trans ?_
    simp only [List.mem_filter, and_assoc]
    rfl
  · have hbound : ∀ r' ∈ records, r'.mentions cve = true → r'.maturity.rank ≤ e.2.rank :=
      fun r' hr' hmentions => hknown.bound r' (List.mem_filter.2 ⟨hr', hmentions⟩)
    obtain ⟨hnone, hnil⟩ | ⟨r, hr, hmaturity⟩ := hknown.attained
    · refine .inl ⟨by rw [hnone], fun r hr => ?_⟩
      simpa using List.filter_eq_nil_iff.1 hnil r hr
    · obtain ⟨hr, hmentions⟩ := List.mem_filter.1 hr
      refine .inr ⟨r, hr, hmentions, by rw [hmaturity], ?_⟩
      rwa [hmaturity]
  · exact hknown.rest

/-! ## What makes no difference -/

/-- The same records mention the vulnerability in both lists, in whatever order, how often and among what others. -/
def SameMentions (cve : String) (records records' : List Listed) : Prop :=
  ∀ r, r.mentions cve = true → (r ∈ records ↔ r ∈ records')

theorem SumsUp.maturity_eq_none_iff {e : ExploitRecord} (h : SumsUp cve records e) :
    e.maturity = Maturity.none.name ↔ e.available = false := by
  rw [Bool.eq_false_iff, ne_eq, h.available]
  obtain ⟨hnone, hall⟩ | ⟨r, hr, hmentions, hmaturity, -⟩ := h.maturity
  · refine iff_of_true hnone ?_
    rintro ⟨r, hr, hmentions⟩
    cases (hall r hr).symm.trans hmentions
  · refine iff_of_false (fun hnone => ?_) fun hnot => hnot ⟨r, hr, hmentions⟩
    have heq := Maturity.name_injective (hmaturity.symm.trans hnone)
    exact absurd (rank_none_lt r) (by rw [heq]; exact lt_irrefl _)

theorem SumsUp.congr {e : ExploitRecord} (h : SumsUp cve records e) (hsame : SameMentions cve records records') :
    SumsUp cve records' e := by
  have hexists : ∀ p : Listed → Prop,
      (∃ r ∈ records, r.mentions cve = true ∧ p r) ↔ ∃ r ∈ records', r.mentions cve = true ∧ p r := by
    intro p
    refine exists_congr fun r => ?_
    rw [and_left_comm, and_left_comm (a := r ∈ records')]
    exact and_congr_right fun hmentions => and_congr_left' (hsame r hmentions)
  constructor
  · rw [h.available]
    simpa only [and_true] using hexists fun _ => True
  · exact h.weaponized.trans (hexists _)
  · exact h.ransomwareUse.trans (hexists _)
  · obtain ⟨hnone, hall⟩ | ⟨r, hr, hmentions, hmaturity, hbound⟩ := h.maturity
    · refine .inl ⟨hnone, fun r hr => Bool.eq_false_iff.2 fun hmentions => ?_⟩
      cases (hall r ((hsame r hmentions).2 hr)).symm.trans hmentions
    · exact .inr ⟨r, (hsame r hmentions).1 hr, hmentions, hmaturity,
        fun r' hr' hmentions' => hbound r' ((hsame r' hmentions').2 hr') hmentions'⟩
  · exact h.rest

/-- There is only one way to sum up. -/
theorem SumsUp.unique {e e' : ExploitRecord} (h : SumsUp cve records e) (h' : SumsUp cve records e') : e = e' := by
  have havailable : e.available = e'.available := Bool.eq_iff_iff.2 (h.available.trans h'.available.symm)
  have hweaponized : e.weaponized = e'.weaponized := Bool.eq_iff_iff.2 (h.weaponized.trans h'.weaponized.symm)
  have hransomware : e.ransomwareUse = e'.ransomwareUse :=
    Bool.eq_iff_iff.2 (h.ransomwareUse.trans h'.ransomwareUse.symm)
  have hmaturity : e.maturity = e'.maturity := by
    obtain ⟨hnone, -⟩ | ⟨r, hr, hmentions, hname, hbound⟩ := h.maturity
    · rw [hnone, h'.maturity_eq_none_iff.2]
      rw [← havailable, ← h.maturity_eq_none_iff, hnone]
    · obtain ⟨-, hall⟩ | ⟨r', hr', hmentions', hname', hbound'⟩ := h'.maturity
      · cases (hall r hr).symm.trans hmentions
      · have hrank := Nat.le_antisymm (hbound' r hr hmentions) (hbound r' hr' hmentions')
        rw [hname, hname', Maturity.rank_injective hrank]
  obtain ⟨hsource, hvector, herror⟩ := h.rest
  obtain ⟨hsource', hvector', herror'⟩ := h'.rest
  cases e
  cases e'
  simp_all only

theorem summary_eq_of_sameMentions (hsame : SameMentions cve records records') :
    summary cve records' = summary cve records :=
  (sumsUp_summary cve records').unique ((sumsUp_summary cve records).congr hsame)

/-! ## More records -/

/-- Nothing that the first record says is lower in the second one. -/
structure NotLowered (e e' : ExploitRecord) : Prop where
  available : e.available = true → e'.available = true
  weaponized : e.weaponized = true → e'.weaponized = true
  ransomwareUse : e.ransomwareUse = true → e'.ransomwareUse = true
  maturity : ∃ m m' : Maturity, e.maturity = m.name ∧ e'.maturity = m'.name ∧ m.rank ≤ m'.rank

theorem SumsUp.exists_maturity {e : ExploitRecord} (h : SumsUp cve records e) : ∃ m : Maturity, e.maturity = m.name ∧
    Maturity.none.rank ≤ m.rank ∧ ∀ r ∈ records, r.mentions cve = true → r.maturity.rank ≤ m.rank := by
  obtain ⟨hnone, hall⟩ | ⟨r, -, -, hname, hbound⟩ := h.maturity
  · refine ⟨.none, hnone, le_rfl, fun r hr hmentions => ?_⟩
    cases (hall r hr).symm.trans hmentions
  · exact ⟨r.maturity, hname, Nat.le_of_lt (rank_none_lt r), hbound⟩

/-- **More records** lower nothing. -/
theorem SumsUp.notLowered {e e' : ExploitRecord} (h : SumsUp cve records e) (h' : SumsUp cve records' e')
    (hsub : records ⊆ records') : NotLowered e e' := by
  have hexists : ∀ p : Listed → Prop, (∃ r ∈ records, p r) → ∃ r ∈ records', p r :=
    fun _ ⟨r, hr, hp⟩ => ⟨r, hsub hr, hp⟩
  constructor
  · exact fun he => h'.available.2 (hexists _ (h.available.1 he))
  · exact fun he => h'.weaponized.2 (hexists _ (h.weaponized.1 he))
  · exact fun he => h'.ransomwareUse.2 (hexists _ (h.ransomwareUse.1 he))
  · obtain ⟨m', hname', hnone, hbound'⟩ := h'.exists_maturity
    obtain ⟨hname, -⟩ | ⟨r, hr, hmentions, hname, -⟩ := h.maturity
    · exact ⟨.none, m', hname, hname', hnone⟩
    · exact ⟨r.maturity, m', hname, hname', hbound' r (hsub hr) hmentions⟩

/-- **Exploits summed up.** The answer says of the records that mention the vulnerability whether there are any, whether
one reports exploitation or use by ransomware, and the greatest maturity. It depends on nothing but which these records
are, and more records lower nothing. A record that names vulnerabilities mentions those that its identifiers spell. -/
theorem exploits_summed_up (hcve : Cve.isCanonical cve.toList = true) (records : List Listed) :
    SumsUp cve records (summary cve records) ∧
      ((summary cve records).ransomwareUse = true → (summary cve records).weaponized = true) ∧
      ((summary cve records).weaponized = true → (summary cve records).available = true) ∧
      ((summary cve records).maturity = Maturity.none.name ↔ (summary cve records).available = false) ∧
      (∀ records', SameMentions cve records records' → summary cve records' = summary cve records) ∧
      (∀ records', records ⊆ records' → NotLowered (summary cve records) (summary cve records')) ∧
      ∀ r : Listed, r.cves ≠ [] → (r.mentions cve = true ↔ ∃ id ∈ r.cves, Cve.validate id = .ok cve) := by
  have hsum := sumsUp_summary cve records
  refine ⟨hsum, fun h => ?_, fun h => ?_, hsum.maturity_eq_none_iff, fun _ => summary_eq_of_sameMentions,
    fun records' hsub => hsum.notLowered (sumsUp_summary cve records') hsub, fun r => mentions_iff hcve⟩
  · obtain ⟨r, hr, hmentions, hknown⟩ := hsum.ransomwareUse.1 h
    exact hsum.weaponized.2 ⟨r, hr, hmentions, .inr hknown⟩
  · obtain ⟨r, hr, hmentions, -⟩ := hsum.weaponized.1 h
    exact hsum.available.2 ⟨r, hr, hmentions⟩

/-- A record in small letters, with blanks around the identifier, that tells of ransomware. -/
def ransomwareRecord : Listed :=
  { cves := [" cve-2024-0001\t"], ransomwareUse := "KNOWN", exploitTypes := ["Initial-Access"] }

/-- A record about another vulnerability that reports exploitation. -/
def otherRecord : Listed := { cves := ["CVE-2024-00010"], reports := [()] }

/-- That a record comes twice and another one goes makes no difference, and the record that is left counts. -/
theorem exploits_summed_up_twice :
    Cve.isCanonical "CVE-2024-0001".toList = true ∧
      summary "CVE-2024-0001" [ransomwareRecord, ransomwareRecord] =
        summary "CVE-2024-0001" [otherRecord, ransomwareRecord] ∧
      (summary "CVE-2024-0001" [otherRecord, ransomwareRecord]).weaponized = true ∧
      (summary "CVE-2024-0001" [otherRecord, ransomwareRecord]).maturity ≠ Maturity.none.name := by
  have hcve : Cve.isCanonical "CVE-2024-0001".toList = true := by decide +kernel
  have hother : otherRecord.mentions "CVE-2024-0001" = false := by decide +kernel
  have hmentions : ransomwareRecord.mentions "CVE-2024-0001" = true := by decide +kernel
  have hknown : Text.equalFold ransomwareRecord.ransomwareUse "Known" = true := by decide +kernel
  obtain ⟨hsum, -, havailable, hnone, hsame, -⟩ := exploits_summed_up hcve [otherRecord, ransomwareRecord]
  have hweaponized := hsum.weaponized.2 ⟨ransomwareRecord, by simp, hmentions, .inr hknown⟩
  refine ⟨hcve, hsame _ fun r hr => ?_, hweaponized, fun h => ?_⟩
  · have hne : r ≠ otherRecord := fun h => by rw [h, hother] at hr; cases hr
    simp [hne]
  · cases (hnone.1 h).symm.trans (havailable hweaponized)

end Exploits

end Triage
