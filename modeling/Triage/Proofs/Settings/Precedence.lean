import Triage.Proofs.Activities
import Triage.Proofs.Settings.File
import Triage.Proofs.Text.Case

/-!
# Which value counts

An item has the value that the command line gives it, else that of its variables, else that of the file, else
the default (`Decides`); which sources are on is decided apart from that (`IsOn`). The tables of overrides can be
gone through in any order. Main statement: `effective_by_precedence`.
-/
namespace Triage

/-! ## Names of sources -/

namespace SourceId

/-- The text names the source, in any case and with any blanks around it. -/
def NamedBy (id : SourceId) (s : String) : Prop := Text.lower (Text.trim s) = id.name

instance (id : SourceId) (s : String) : Decidable (id.NamedBy s) := inferInstanceAs (Decidable (_ = _))

theorem parse?_eq_some_iff {s : String} {id : SourceId} : parse? s = some id ↔ id.NamedBy s := by
  unfold parse? NamedBy
  constructor
  · intro h
    have hname := List.find?_some h
    exact (eq_of_beq hname).symm
  · intro h
    rw [h]
    cases id <;> decide

theorem NamedBy.unique {s : String} {id other : SourceId} (h : id.NamedBy s) (h' : other.NamedBy s) : id = other := by
  rw [← parse?_eq_some_iff] at h h'
  exact Option.some.inj (h.symm.trans h')

theorem NamedBy.trim_ne {s : String} {id : SourceId} (h : id.NamedBy s) : Text.trim s ≠ "" := by
  intro hblank
  rw [NamedBy, hblank] at h
  have hname : Text.lower "" ≠ id.name := by cases id <;> decide
  exact hname h

theorem namedBy_trim {s : String} {id : SourceId} : id.NamedBy (Text.trim s) ↔ id.NamedBy s := by
  rw [NamedBy, Text.trim_trim, NamedBy]

/-- Trimming a name and putting it in lower case beforehand makes no difference. -/
theorem parse?_lower_trim (s : String) : parse? (Text.lower (Text.trim s)) = parse? s := by
  unfold parse?
  rw [Text.lower_trim_lower_trim]

end SourceId

namespace Settings

variable {env : Environment} {s s' : Settings}

/-! ## Variables -/

/-- The text is the value of the first of the variables that is set to more than blanks, without the blanks around
it. -/
inductive SetTo (env : Environment) : List String → String → Prop
  | here {name raw : String} {rest : List String} (h : env name = some raw) (hne : Text.trim raw ≠ "") :
    SetTo env (name :: rest) (Text.trim raw)
  | later {name v : String} {rest : List String} (hblank : ∀ raw, env name = some raw → Text.trim raw = "")
      (h : SetTo env rest v) : SetTo env (name :: rest) v

theorem setTo_cons {name v : String} {rest : List String} : SetTo env (name :: rest) v ↔
    (∃ raw, env name = some raw ∧ Text.trim raw ≠ "" ∧ Text.trim raw = v) ∨
      (∀ raw, env name = some raw → Text.trim raw = "") ∧ SetTo env rest v := by
  constructor
  · rintro (⟨h, hne⟩ | ⟨hblank, h⟩)
    · exact .inl ⟨_, h, hne, rfl⟩
    · exact .inr ⟨hblank, h⟩
  · rintro (⟨raw, h, hne, rfl⟩ | ⟨hblank, h⟩)
    · exact .here h hne
    · exact .later hblank h

theorem firstSet?_eq_some_iff {names : List String} {v : String} :
    firstSet? env names = some v ↔ SetTo env names v := by
  induction names with
  | nil => exact iff_of_false (fun h => nomatch h) (fun h => nomatch h)
  | cons name rest ih =>
    rw [setTo_cons, ← ih, firstSet?, List.findSome?_cons]
    cases henv : env name with
    | none => simp [firstSet?]
    | some raw => by_cases hraw : Text.trim raw = "" <;> simp [hraw, firstSet?, Option.filter]

theorem firstSet?_eq_none_iff {names : List String} : firstSet? env names = none ↔ ∀ v, ¬ SetTo env names v := by
  rw [Option.eq_none_iff_forall_ne_some]
  exact forall_congr' fun v => not_congr firstSet?_eq_some_iff

namespace Item

/-- What the variables of an item say can be read. -/
def Legible (env : Environment) (i : Item) : Prop := ∀ v, SetTo env i.variableNames v → (i.kind.parse v).isSome

def fromVariables? (env : Environment) (i : Item) : Option Datum := (firstSet? env i.variableNames).bind i.kind.parse

end Item

/-- An override gives an item what its variables say. -/
structure Override.Sets (o : Override) (i : Item) : Prop where
  names : o.names = i.variableNames
  view_apply : ∀ s v, (o.apply s v).toOption.map view = (i.kind.parse v).map (Function.update s.view i)

theorem sets_textOverride {names : List String} {set : Settings → String → Settings} {i : Item}
    (hnames : names = i.variableNames) (hkind : i.kind = .text)
    (hset : ∀ s v, (set s v).view = Function.update s.view i (.text v)) : (textOverride names set).Sets i := by
  refine ⟨hnames, fun s v => ?_⟩
  rw [hkind]
  exact congrArg some (hset s v)

theorem sets_wholeOverride {names : List String} {set : Settings → Int → Settings} {i : Item}
    (hnames : names = i.variableNames) (hkind : i.kind = .whole)
    (hset : ∀ s v, (set s v).view = Function.update s.view i (.whole v)) : (wholeOverride names set).Sets i := by
  refine ⟨hnames, fun s v => ?_⟩
  rw [hkind]
  simp only [wholeOverride, Kind.parse]
  cases Number.readInt64 v with
  | error e => rfl
  | ok n => exact congrArg some (hset s n)

theorem sets_durationOverride {names : List String} {set : Settings → Time.Duration → Settings} {i : Item}
    (hnames : names = i.variableNames) (hkind : i.kind = .span)
    (hset : ∀ s v, (set s v).view = Function.update s.view i (.span v)) : (durationOverride names set).Sets i := by
  refine ⟨hnames, fun s v => ?_⟩
  rw [hkind]
  simp only [durationOverride, Kind.parse]
  cases Time.Duration.parse v with
  | error e => rfl
  | ok d => exact congrArg some (hset s d)

theorem sets_cacheOverride : cacheOverride.Sets .cacheDisabled := by
  refine ⟨by decide, fun s v => ?_⟩
  simp only [cacheOverride, Item.kind, Kind.parse]
  cases Number.readBool? v with
  | none => rfl
  | some b =>
    refine congrArg some (funext fun i => ?_)
    cases i <;> rfl

/-- The items that have variables, in the order of the overrides. -/
def variableItems : List Item :=
  [ .logLevel, .cacheDirectory, .mode, .file, .imageList, .account, .region, .ns, .key .advisories, .key .exploits,
    .url .catalog, .url .forecasts, .url .advisories, .url .exploits, .workers, .port, .cacheLifetime, .interval,
    .cacheDisabled ]

theorem sets_overrides : List.Forall₂ Override.Sets
    (textOverrides ++ wholeOverrides ++ durationOverrides ++ [cacheOverride]) variableItems := by
  simp only [textOverrides, wholeOverrides, durationOverrides, variableItems, List.cons_append, List.nil_append,
    List.forall₂_cons, List.forall₂_nil_left_iff, and_true]
  and_intros
  all_goals first
    | exact sets_cacheOverride
    | refine sets_textOverride (by decide) rfl fun s v => funext fun i => ?_
    | refine sets_wholeOverride (by decide) rfl fun s v => funext fun i => ?_
    | refine sets_durationOverride (by decide) rfl fun s v => funext fun i => ?_
  all_goals cases i <;> first
    | rfl
    | (rename_i id; cases id <;> rfl)

/-- The item is one that some override sets. -/
def Touched (os : List Override) (i : Item) : Prop := ∃ o ∈ os, o.Sets i

section Run

variable {o : Override} {os : List Override} {i : Item}

theorem Item.legible_iff : i.Legible env ↔ ∀ v, firstSet? env i.variableNames = some v → (i.kind.parse v).isSome :=
  forall_congr' fun _ => imp_congr_left firstSet?_eq_some_iff.symm

/-- **One override**: if what the variables say can be read, it changes its item to that and nothing else. -/
theorem Override.Sets.run_eq_ok_iff (h : o.Sets i) : o.run env s = .ok s' ↔
    i.Legible env ∧ s'.view = Function.update s.view i ((i.fromVariables? env).getD (s.view i)) := by
  rw [Item.legible_iff, Item.fromVariables?, Override.run, h.names]
  cases firstSet? env i.variableNames with
  | none =>
    simp only [Option.bind_none, Option.getD_none, Function.update_eq_self, view_injective.eq_iff]
    exact ⟨fun h => ⟨fun _ hv => (nomatch hv), (Except.ok.inj h).symm⟩, fun h => congrArg Except.ok h.2.symm⟩
  | some v =>
    dsimp only
    have happly := h.view_apply s v
    cases hs : o.apply s v with
    | error e =>
      rw [hs] at happly
      have hnone : i.kind.parse v = none := Option.map_eq_none_iff.1 happly.symm
      refine iff_of_false (fun h => by cases h) fun hlegible => ?_
      have hsome := hlegible.1 v rfl
      rw [hnone] at hsome
      cases hsome
    | ok s₁ =>
      rw [hs] at happly
      obtain ⟨x, hx, hview⟩ := Option.map_eq_some_iff.1 happly.symm
      rw [Option.bind_some, hx, Option.getD_some, hview, view_injective.eq_iff]
      constructor
      · intro h
        refine ⟨fun v' hv' => ?_, (Except.ok.inj h).symm⟩
        cases hv'
        rw [hx]
        rfl
      · exact fun h => congrArg Except.ok h.2.symm

theorem Override.Sets.exists_run (h : o.Sets i) (hlegible : i.Legible env) (s : Settings) :
    ∃ s', o.run env s = .ok s' := by
  rw [Item.legible_iff] at hlegible
  rw [Override.run, h.names]
  cases hfirst : firstSet? env i.variableNames with
  | none => exact ⟨s, rfl⟩
  | some v =>
    have happly := h.view_apply s v
    obtain ⟨x, hx⟩ := Option.isSome_iff_exists.1 (hlegible v hfirst)
    rw [hx] at happly
    dsimp only
    cases hs : o.apply s v with
    | error e => rw [hs] at happly; cases happly
    | ok s' => exact ⟨s', rfl⟩

theorem touched_cons : Touched (o :: os) i ↔ o.Sets i ∨ Touched os i := List.exists_mem_cons_iff ..

/-- Settings give the items that overrides set what their variables say, and are else as they were. -/
def Overridden (env : Environment) (os : List Override) (s s' : Settings) : Prop := ∀ i,
  (Touched os i → s'.view i = (i.fromVariables? env).getD (s.view i)) ∧ (¬ Touched os i → s'.view i = s.view i)

/-- What one override does can be done before the others. -/
theorem overridden_cons {s₁ : Settings} (hset : ∀ i, o.Sets i → s₁.view i = (i.fromVariables? env).getD (s.view i))
    (hkeep : ∀ i, ¬ o.Sets i → s₁.view i = s.view i) : Overridden env (o :: os) s s' ↔ Overridden env os s₁ s' := by
  refine forall_congr' fun i => ?_
  rw [touched_cons]
  by_cases ho : o.Sets i
  · rw [hset i ho]
    cases i.fromVariables? env <;> by_cases hos : Touched os i <;> simp [ho, hos]
  · rw [hkeep i ho]
    simp [ho]

/-- **Overrides one after the other**: each item that one of them sets has what its variables say, if they say
anything. -/
theorem foldlM_run_eq_ok_iff (hos : ∀ o ∈ os, ∃ i, o.Sets i) : os.foldlM (fun s o => o.run env s) s = .ok s' ↔
    (∀ i, Touched os i → i.Legible env) ∧ Overridden env os s s' := by
  induction os generalizing s with
  | nil =>
    have hnone (i : Item) : ¬ Touched [] i := fun ⟨_, h, _⟩ => nomatch h
    simp only [Overridden, hnone, false_implies, implies_true, true_and, not_false_iff, forall_const]
    constructor
    · intro h
      cases h
      exact fun _ => rfl
    · exact fun h => congrArg Except.ok (view_injective (funext h)).symm
  | cons o os ih =>
    obtain ⟨j, hj⟩ := hos o List.mem_cons_self
    have hos' : ∀ o ∈ os, ∃ i, o.Sets i := fun o ho => hos o (List.mem_cons_of_mem _ ho)
    -- What the first override leads to, item by item.
    have hfirst {s₁} (hrun : o.run env s = .ok s₁) : Overridden env (o :: os) s s' ↔ Overridden env os s₁ s' := by
      refine overridden_cons (fun i hi => ?_) fun i hi => ?_
      · rw [(hi.run_eq_ok_iff.1 hrun).2, Function.update_self]
      · have hne : i ≠ j := fun h => hi (h ▸ hj)
        rw [(hj.run_eq_ok_iff.1 hrun).2, Function.update_of_ne hne]
    rw [List.foldlM_cons, bind_eq_ok_iff]
    constructor
    · rintro ⟨s₁, hrun, hrest⟩
      obtain ⟨hlegible, hover⟩ := (ih hos').1 hrest
      refine ⟨fun i hi => ?_, (hfirst hrun).2 hover⟩
      rcases touched_cons.1 hi with hi | hi
      · exact (hi.run_eq_ok_iff.1 hrun).1
      · exact hlegible i hi
    · rintro ⟨hlegible, hover⟩
      obtain ⟨s₁, hrun⟩ := hj.exists_run (hlegible j (touched_cons.2 (.inl hj))) s
      exact ⟨s₁, hrun, (ih hos').2 ⟨fun i hi => hlegible i (touched_cons.2 (.inr hi)), (hfirst hrun).1 hover⟩⟩

/-- Overrides succeed if what the variables say can be read. -/
theorem exists_foldlM_run (hos : ∀ o ∈ os, ∃ i, o.Sets i) (hlegible : ∀ i, Touched os i → i.Legible env)
    (s : Settings) : ∃ s', os.foldlM (fun s o => o.run env s) s = .ok s' := by
  induction os generalizing s with
  | nil => exact ⟨s, rfl⟩
  | cons o os ih =>
    obtain ⟨i, hi⟩ := hos o List.mem_cons_self
    obtain ⟨s₁, hrun⟩ := hi.exists_run (hlegible i (touched_cons.2 (.inl hi))) s
    obtain ⟨s', hrest⟩ := ih (fun o ho => hos o (List.mem_cons_of_mem _ ho))
      (fun i hi => hlegible i (touched_cons.2 (.inr hi))) s₁
    exact ⟨s', by rw [List.foldlM_cons, hrun]; exact hrest⟩

end Run

/-! ## Sources that are turned on and off -/

def Names (names : List String) (id : SourceId) : Prop := ∃ name ∈ names, id.NamedBy name

instance (names : List String) (id : SourceId) : Decidable (Names names id) :=
  inferInstanceAs (Decidable (∃ name ∈ names, id.NamedBy name))

/-- The list names sources only, but for blanks. -/
def Known (names : List String) : Prop := ∀ name ∈ names, Text.trim name ≠ "" → ∃ id : SourceId, id.NamedBy name

theorem view_enable (s : Settings) (id : SourceId) (b : Bool) :
    (s.enable id b).view = Function.update s.view (.enabled id) (.flag b) := by
  funext i
  cases id <;> cases i <;> first
    | rfl
    | (rename_i id; cases id <;> rfl)

/-- Sources are off, and all else is as it was. -/
structure TurnedOff (P : SourceId → Prop) (s s' : Settings) : Prop where
  off : ∀ id, P id → s'.view (.enabled id) = .flag false
  rest : ∀ i, (∀ id, i = .enabled id → ¬ P id) → s'.view i = s.view i

theorem turnedOff_cons {name : String} {names : List String} {id : SourceId} (h : id.NamedBy name) :
    TurnedOff (Names (name :: names)) s s' ↔ TurnedOff (Names names) (s.enable id false) s' := by
  have hnames (id' : SourceId) : Names (name :: names) id' ↔ id' = id ∨ Names names id' := by
    have hself : id' = id ↔ id'.NamedBy name := ⟨fun h' => h' ▸ h, fun h' => h'.unique h⟩
    rw [Names, List.exists_mem_cons_iff, hself, Names]
  constructor
  · rintro ⟨hoff, hrest⟩
    refine ⟨fun id' hid' => hoff id' ((hnames id').2 (.inr hid')), fun i hi => ?_⟩
    rw [view_enable]
    by_cases hself : i = .enabled id
    · rw [hself, Function.update_self]
      exact hoff id ((hnames id).2 (.inl rfl))
    · rw [Function.update_of_ne hself]
      refine hrest i fun id' hid' hnamed => ?_
      rcases (hnames id').1 hnamed with rfl | hnamed
      · exact hself hid'
      · exact hi id' hid' hnamed
  · rintro ⟨hoff, hrest⟩
    rw [view_enable] at hrest
    constructor
    · intro id' hid'
      by_cases hlater : Names names id'
      · exact hoff id' hlater
      · obtain rfl := ((hnames id').1 hid').resolve_right hlater
        rw [hrest (.enabled id') fun other hother => by cases hother; exact hlater, Function.update_self]
    · intro i hi
      have hself : i ≠ .enabled id := fun hself => hi id hself ((hnames id).2 (.inl rfl))
      rw [hrest i fun id' hid' hnamed => hi id' hid' ((hnames id').2 (.inr hnamed)), Function.update_of_ne hself]

/-- **The variable that turns sources off**: it may name sources only, and turns off those that it names. -/
theorem apply_sourcesOverride_eq_ok_iff {v : String} : sourcesOverride.apply s v = .ok s' ↔
    (∀ name ∈ splitList v, ∃ id : SourceId, id.NamedBy name) ∧ TurnedOff (Names (splitList v)) s s' := by
  simp only [sourcesOverride]
  generalize splitList v = names
  induction names generalizing s with
  | nil =>
    have hnone (id : SourceId) : ¬ Names [] id := fun ⟨_, h, _⟩ => nomatch h
    constructor
    · intro h
      cases h
      exact ⟨fun _ h => (nomatch h), fun id hid => absurd hid (hnone id), fun _ _ => rfl⟩
    · rintro ⟨-, -, hrest⟩
      exact congrArg Except.ok (view_injective (funext fun i => (hrest i fun id _ => hnone id).symm))
  | cons name names ih =>
    rw [List.foldlM_cons, List.forall_mem_cons]
    cases hparse : SourceId.parse? name with
    | none =>
      refine iff_of_false (fun h => by cases h) fun ⟨⟨⟨id, hid⟩, _⟩, _⟩ => ?_
      rw [SourceId.parse?_eq_some_iff.2 hid] at hparse
      cases hparse
    | some id =>
      have hid := SourceId.parse?_eq_some_iff.1 hparse
      rw [turnedOff_cons hid, and_assoc, and_iff_right (Exists.intro id hid)]
      exact ih

theorem exists_apply_sourcesOverride {v : String} (h : ∀ name ∈ splitList v, ∃ id : SourceId, id.NamedBy name)
    (s : Settings) : ∃ s', sourcesOverride.apply s v = .ok s' := by
  simp only [sourcesOverride]
  generalize splitList v = names at h ⊢
  induction names generalizing s with
  | nil => exact ⟨s, rfl⟩
  | cons name names ih =>
    obtain ⟨⟨id, hid⟩, h⟩ := List.forall_mem_cons.1 h
    rw [List.foldlM_cons, SourceId.parse?_eq_some_iff.2 hid]
    exact ih (s.enable id false) h

theorem mem_splitList {v name : String} :
    name ∈ splitList v ↔ (∃ part ∈ Text.split ',' v, Text.trim part = name) ∧ name ≠ "" := by
  simp [splitList]

theorem names_splitList {v : String} {id : SourceId} : Names (splitList v) id ↔ Names (Text.split ',' v) id := by
  constructor
  · rintro ⟨_, hmem, hnamed⟩
    obtain ⟨⟨part, hpart, rfl⟩, -⟩ := mem_splitList.1 hmem
    exact ⟨part, hpart, SourceId.namedBy_trim.1 hnamed⟩
  · rintro ⟨part, hpart, hnamed⟩
    exact ⟨Text.trim part, mem_splitList.2 ⟨⟨part, hpart, rfl⟩, hnamed.trim_ne⟩, SourceId.namedBy_trim.2 hnamed⟩

theorem known_splitList {v : String} :
    (∀ name ∈ splitList v, ∃ id : SourceId, id.NamedBy name) ↔ Known (Text.split ',' v) := by
  constructor
  · intro h part hpart hne
    obtain ⟨id, hid⟩ := h _ (mem_splitList.2 ⟨⟨part, hpart, rfl⟩, hne⟩)
    exact ⟨id, SourceId.namedBy_trim.1 hid⟩
  · intro h name hmem
    obtain ⟨⟨part, hpart, rfl⟩, hne⟩ := mem_splitList.1 hmem
    obtain ⟨id, hid⟩ := h part hpart hne
    exact ⟨id, SourceId.namedBy_trim.2 hid⟩

/-! ## The environment -/

def offVariable : String := "RISKRELAY_DISABLE_SOURCES"

/-- The environment turns a source off. -/
def OffIn (env : Environment) (id : SourceId) : Prop := ∃ v, SetTo env [offVariable] v ∧ Names (Text.split ',' v) id

/-- All that the environment says can be read. -/
structure LegibleIn (env : Environment) : Prop where
  items : ∀ i : Item, i.Legible env
  sources : ∀ v, SetTo env [offVariable] v → Known (Text.split ',' v)

/-- What the environment makes of settings. -/
structure InEnvironment (env : Environment) (s s' : Settings) : Prop where
  items : ∀ i : Item, (∀ id, i ≠ .enabled id) → s'.view i = (i.fromVariables? env).getD (s.view i)
  off : ∀ id, OffIn env id → s'.view (.enabled id) = .flag false
  rest : ∀ id, ¬ OffIn env id → s'.view (.enabled id) = s.view (.enabled id)

/-- Settings are the same if their items and what is on are. -/
theorem eq_of_items {s₁ s₂ : Settings} (hitems : ∀ i : Item, (∀ id, i ≠ .enabled id) → s₁.view i = s₂.view i)
    (hsources : ∀ id, s₁.view (.enabled id) = s₂.view (.enabled id)) : s₁ = s₂ := by
  refine view_injective (funext fun i => ?_)
  cases i with
  | enabled id => exact hsources id
  | _ => exact hitems _ fun id h => nomatch h

theorem InEnvironment.unique {s₁ s₂ : Settings} (h₁ : InEnvironment env s s₁) (h₂ : InEnvironment env s s₂) :
    s₁ = s₂ := by
  refine eq_of_items (fun i hi => (h₁.items i hi).trans (h₂.items i hi).symm) fun id => ?_
  by_cases hoff : OffIn env id
  · rw [h₁.off id hoff, h₂.off id hoff]
  · rw [h₁.rest id hoff, h₂.rest id hoff]

/-- All overrides, with the tables in some order. -/
def inOrder (texts wholes durations : List Override) : List Override :=
  texts ++ wholes ++ durations ++ [cacheOverride, sourcesOverride]

section Environment

variable {texts wholes durations : List Override}

theorem inOrder_eq : inOrder texts wholes durations =
    (texts ++ wholes ++ durations ++ [cacheOverride]) ++ [sourcesOverride] := by
  simp [inOrder]

theorem TurnedOff.congr {P Q : SourceId → Prop} (h : ∀ id, P id ↔ Q id) : TurnedOff P s s' ↔ TurnedOff Q s s' := by
  rw [funext fun id => propext (h id)]

theorem turnedOff_of_none {P : SourceId → Prop} (h : ∀ id, ¬ P id) : TurnedOff P s s' ↔ s' = s := by
  constructor
  · exact fun hoff => view_injective (funext fun i => hoff.rest i fun id _ => h id)
  · rintro rfl
    exact ⟨fun id hid => absurd hid (h id), fun _ _ => rfl⟩

theorem run_sourcesOverride_eq_ok_iff : sourcesOverride.run env s = .ok s' ↔
    (∀ v, SetTo env [offVariable] v → Known (Text.split ',' v)) ∧ TurnedOff (OffIn env) s s' := by
  have hnames : sourcesOverride.names = [offVariable] := by decide
  have hoff (id : SourceId) :
      OffIn env id ↔ ∃ v, firstSet? env [offVariable] = some v ∧ Names (Text.split ',' v) id := by
    simp only [OffIn, firstSet?_eq_some_iff]
  rw [TurnedOff.congr hoff, Override.run, hnames]
  simp only [← firstSet?_eq_some_iff]
  cases firstSet? env [offVariable] with
  | none =>
    rw [turnedOff_of_none fun id h => by simp at h]
    exact ⟨fun h => ⟨fun _ hv => (nomatch hv), (Except.ok.inj h).symm⟩, fun h => congrArg Except.ok h.2.symm⟩
  | some v =>
    simp only [Option.some.injEq, forall_eq', exists_eq_left', apply_sourcesOverride_eq_ok_iff, known_splitList]
    exact and_congr_right fun _ => TurnedOff.congr fun _ => names_splitList

theorem exists_run_sourcesOverride (h : ∀ v, SetTo env [offVariable] v → Known (Text.split ',' v)) (s : Settings) :
    ∃ s', sourcesOverride.run env s = .ok s' := by
  have hnames : sourcesOverride.names = [offVariable] := by decide
  rw [Override.run, hnames]
  cases hfirst : firstSet? env [offVariable] with
  | none => exact ⟨s, rfl⟩
  | some v => exact exists_apply_sourcesOverride (known_splitList.2 (h v (firstSet?_eq_some_iff.1 hfirst))) s

/-- The items that have variables are those of the overrides. -/
theorem mem_variableItems {i : Item} : i ∈ variableItems ↔ i.variableNames ≠ [] := by
  cases i <;> first
    | decide
    | (rename_i id; cases id <;> decide)

section InOrder

variable (htexts : texts.Perm textOverrides) (hwholes : wholes.Perm wholeOverrides)
  (hdurations : durations.Perm durationOverrides)

include htexts hwholes hdurations

theorem mem_tables {o : Override} : o ∈ texts ++ wholes ++ durations ++ [cacheOverride] ↔
    o ∈ textOverrides ++ wholeOverrides ++ durationOverrides ++ [cacheOverride] := by
  simp only [List.mem_append, htexts.mem_iff, hwholes.mem_iff, hdurations.mem_iff]

theorem exists_sets : ∀ o ∈ texts ++ wholes ++ durations ++ [cacheOverride], ∃ i, o.Sets i := by
  intro o ho
  obtain ⟨i, -, hi⟩ := (partners_of_forall₂ sets_overrides).1 o ((mem_tables htexts hwholes hdurations).1 ho)
  exact ⟨i, hi⟩

/-- The tables set the items that have variables. -/
theorem touched_iff {i : Item} :
    Touched (texts ++ wholes ++ durations ++ [cacheOverride]) i ↔ i.variableNames ≠ [] := by
  constructor
  · rintro ⟨o, ho, hi⟩
    have hnames : ∀ o ∈ textOverrides ++ wholeOverrides ++ durationOverrides ++ [cacheOverride], o.names ≠ [] := by
      decide
    rw [← hi.names]
    exact hnames o ((mem_tables htexts hwholes hdurations).1 ho)
  · intro hi
    obtain ⟨o, ho, hsets⟩ := (partners_of_forall₂ sets_overrides).2 i (mem_variableItems.2 hi)
    exact ⟨o, (mem_tables htexts hwholes hdurations).2 ho, hsets⟩

/-- What has been read in some order of the tables can be read, and has had its effect. -/
theorem spec_inOrder (h : (inOrder texts wholes durations).foldlM (fun s o => o.run env s) s = .ok s') :
    LegibleIn env ∧ InEnvironment env s s' := by
  have htouched {i : Item} := touched_iff htexts hwholes hdurations (i := i)
  rw [inOrder_eq, List.foldlM_append, bind_eq_ok_iff] at h
  obtain ⟨s₁, hitems, hsources⟩ := h
  simp only [List.foldlM_cons, List.foldlM_nil, bind_pure] at hsources
  obtain ⟨hlegible, hover⟩ := (foldlM_run_eq_ok_iff (exists_sets htexts hwholes hdurations)).1 hitems
  obtain ⟨hknown, hoff, hrest⟩ := run_sourcesOverride_eq_ok_iff.1 hsources
  refine ⟨⟨fun i => ?_, hknown⟩, fun i hi => ?_, hoff, fun id hid => ?_⟩
  · by_cases hi : i.variableNames = []
    · intro v hv
      rw [hi] at hv
      cases hv
    · exact hlegible i (htouched.2 hi)
  · rw [hrest i fun id hid => absurd hid (hi id)]
    by_cases hv : i.variableNames = []
    · rw [(hover i).2 fun h => htouched.1 h hv, Item.fromVariables?, hv]
      rfl
    · exact (hover i).1 (htouched.2 hv)
  · rw [hrest (.enabled id) fun other hother => by cases hother; exact hid]
    exact (hover (.enabled id)).2 fun h => htouched.1 h rfl

theorem exists_inOrder (h : LegibleIn env) (s : Settings) :
    ∃ s', (inOrder texts wholes durations).foldlM (fun s o => o.run env s) s = .ok s' := by
  obtain ⟨s₁, hitems⟩ := exists_foldlM_run (exists_sets htexts hwholes hdurations) (fun i _ => h.items i) s
  obtain ⟨s₂, hsources⟩ := exists_run_sourcesOverride h.sources s₁
  refine ⟨s₂, ?_⟩
  rw [inOrder_eq, List.foldlM_append, hitems]
  exact (congrArg (· >>= pure) hsources).trans (bind_pure _)

/-- **The environment in any order of the tables.** -/
theorem inOrder_eq_ok_iff :
    (inOrder texts wholes durations).foldlM (fun s o => o.run env s) s = .ok s' ↔
      LegibleIn env ∧ InEnvironment env s s' := by
  refine ⟨spec_inOrder htexts hwholes hdurations, fun ⟨hlegible, hin⟩ => ?_⟩
  obtain ⟨s₁, h⟩ := exists_inOrder htexts hwholes hdurations hlegible s
  rw [h, hin.unique (spec_inOrder htexts hwholes hdurations h).2]

end InOrder

end Environment

theorem applyEnvironment_eq_ok_iff : s.applyEnvironment env = .ok s' ↔ LegibleIn env ∧ InEnvironment env s s' :=
  inOrder_eq_ok_iff (.refl _) (.refl _) (.refl _)

theorem exists_applyEnvironment (h : LegibleIn env) (s : Settings) : ∃ s', s.applyEnvironment env = .ok s' :=
  exists_inOrder (.refl _) (.refl _) (.refl _) h s

/-! ## The command line -/

/-- What the command line says about an item. -/
def Item.chosen? (c : Choices) : Item → Option Datum
  | .logLevel => c.logLevel.map .text
  | .workers => c.workers.map .whole
  | .cacheDisabled => c.noCache.map .flag
  | _ => none

/-- What the command line makes of settings. -/
structure AfterChoices (c : Choices) (s s' : Settings) : Prop where
  items : ∀ i : Item, (∀ id, i ≠ .enabled id) → s'.view i = (i.chosen? c).getD (s.view i)
  named : ∀ names, c.sources = some names → ∀ id, s'.view (.enabled id) = .flag (decide (Names names id))
  rest : c.sources = none → ∀ id, s'.view (.enabled id) = s.view (.enabled id)

/-- The source that a name of a list stands for. -/
def sourceNamed (name : String) : Except Failure SourceId :=
  match SourceId.parse? name with
  | some id => .ok id
  | none => .error (unknownSource name)

theorem sourceNamed_eq_ok_iff {name : String} {id : SourceId} :
    sourceNamed (Text.lower (Text.trim name)) = .ok id ↔ id.NamedBy name := by
  rw [← SourceId.parse?_eq_some_iff, ← SourceId.parse?_lower_trim, sourceNamed]
  cases SourceId.parse? (Text.lower (Text.trim name)) <;> simp

theorem namedSources_eq_ok_iff {names : List String} {ids : List SourceId} : namedSources names = .ok ids ↔
    List.Forall₂ (fun name (id : SourceId) => id.NamedBy name) (names.filter (Text.trim · ≠ "")) ids := by
  have hblank : ((· != "") ∘ fun name => Text.lower (Text.trim name)) = (decide <| Text.trim · ≠ "") := by
    funext name
    by_cases h : Text.trim name = "" <;> simp [h, Text.lower]
  have heq : namedSources names =
      ((names.map fun name => Text.lower (Text.trim name)).filter (· != "")).mapM sourceNamed := by
    unfold namedSources
    refine congrArg (fun read => List.mapM read _) (funext fun name => ?_)
    unfold sourceNamed
    cases SourceId.parse? name <;> rfl
  rw [heq, mapM_eq_ok_iff, List.filter_map, List.forall₂_map_left_iff, hblank]
  simp only [sourceNamed_eq_ok_iff]

theorem exists_namedSources_iff {names : List String} : (∃ ids, namedSources names = .ok ids) ↔ Known names := by
  simp only [namedSources_eq_ok_iff, exists_forall₂_iff, Known, List.mem_filter, decide_eq_true_eq, and_imp]

theorem contains_of_namedSources {names : List String} {ids : List SourceId} (h : namedSources names = .ok ids)
    (id : SourceId) : ids.contains id = decide (Names names id) := by
  have hunique : ∀ (name : String) (id other : SourceId), id.NamedBy name → other.NamedBy name → id = other :=
    fun _ _ _ => SourceId.NamedBy.unique
  have hmem : id ∈ ids ↔ Names names id := by
    rw [mem_iff_of_forall₂ hunique (namedSources_eq_ok_iff.1 h), Names]
    refine exists_congr fun name => ?_
    rw [List.mem_filter, decide_eq_true_eq, and_assoc]
    exact and_congr_right fun _ => and_iff_right_of_imp SourceId.NamedBy.trim_ne
  rw [Bool.eq_iff_iff, List.contains_iff_mem, hmem, decide_eq_true_eq]

theorem view_select (s : Settings) (wanted : List SourceId) (i : Item) :
    (SourceId.all.foldl (fun s id => s.enable id (wanted.contains id)) s).view i =
      match i with
      | .enabled id => .flag (wanted.contains id)
      | i => s.view i := by
  simp only [SourceId.all, List.foldl_cons, List.foldl_nil, view_enable]
  cases i <;> first
    | rfl
    | (rename_i id; cases id <;> rfl)

/-- The settings with the choices of the command line, but for the sources. -/
def Choices.applyItems (c : Choices) (s : Settings) : Settings :=
  { s with
    logLevel := c.logLevel.getD s.logLevel
    cache.disabled := c.noCache.getD s.cache.disabled
    workers := c.workers.getD s.workers }

theorem view_applyItems (c : Choices) (s : Settings) (i : Item) :
    (c.applyItems s).view i = (i.chosen? c).getD (s.view i) := by
  obtain ⟨-, logLevel, noCache, workers, -⟩ := c
  cases i <;> first
    | rfl
    | cases logLevel <;> rfl
    | cases noCache <;> rfl
    | cases workers <;> rfl

theorem Choices.apply_eq (c : Choices) (s : Settings) : c.apply s =
    match c.sources with
    | none => .ok (c.applyItems s)
    | some names => (c.applyItems s).selectSources names := rfl

theorem Choices.afterChoices {c : Choices} (h : c.apply s = .ok s') :
    (∀ names, c.sources = some names → Known names) ∧ AfterChoices c s s' := by
  rw [Choices.apply_eq] at h
  cases hc : c.sources with
  | none =>
    rw [hc] at h
    cases h
    exact ⟨fun names hnames => (nomatch hnames), fun i _ => view_applyItems c s i,
      fun names hnames => (by rw [hc] at hnames; cases hnames), fun _ id => view_applyItems c s (.enabled id)⟩
  | some names =>
    rw [hc] at h
    obtain ⟨wanted, hwanted, hs'⟩ := bind_eq_ok_iff.1 h
    cases hs'
    refine ⟨fun names' hnames => ?_, fun i hi => ?_, fun names' hnames id => ?_, fun hnone => ?_⟩
    · cases hnames
      exact exists_namedSources_iff.1 ⟨wanted, hwanted⟩
    · rw [view_select, ← view_applyItems]
      cases i with
      | enabled id => exact absurd rfl (hi id)
      | _ => rfl
    · rw [hc] at hnames
      cases hnames
      rw [view_select]
      dsimp only
      rw [contains_of_namedSources hwanted]
    · rw [hc] at hnone
      cases hnone

theorem Choices.exists_apply {c : Choices} (h : ∀ names, c.sources = some names → Known names) (s : Settings) :
    ∃ s', c.apply s = .ok s' := by
  rw [Choices.apply_eq]
  cases hc : c.sources with
  | none => exact ⟨_, rfl⟩
  | some names =>
    obtain ⟨wanted, hwanted⟩ := exists_namedSources_iff.2 (h names hc)
    exact ⟨_, bind_eq_ok_iff.2 ⟨wanted, hwanted, rfl⟩⟩

/-! ## Precedence -/

/-- The value that counts for an item. -/
inductive Decides (c : Choices) (env : Environment) (file : Settings) (i : Item) : Datum → Prop
  | chosen {x : Datum} (h : i.chosen? c = some x) : Decides c env file i x
  | inVariable {v : String} {x : Datum} (hc : i.chosen? c = none) (hv : SetTo env i.variableNames v)
      (h : i.kind.parse v = some x) : Decides c env file i x
  | inFile (hc : i.chosen? c = none) (hv : ∀ v, ¬ SetTo env i.variableNames v) : Decides c env file i (file.view i)

/-- The source is on: the command line names it if it names sources, and else the file leaves it on and the
environment does not turn it off. -/
def IsOn (c : Choices) (env : Environment) (file : Settings) (id : SourceId) : Prop :=
  match c.sources with
  | some names => Names names id
  | none => (file.sources.get id).enabled = true ∧ ¬ OffIn env id

/-- There is at most one value that counts, and it is the one that the stages lead to. -/
theorem decides_iff {c : Choices} {file : Settings} {i : Item} (h : i.Legible env) {x : Datum} :
    Decides c env file i x ↔ x = (i.chosen? c).getD ((i.fromVariables? env).getD (file.view i)) := by
  rw [Item.fromVariables?]
  constructor
  · rintro (hc | ⟨hc, hv, hx⟩ | ⟨hc, hv⟩)
    · rw [hc, Option.getD_some]
    · rw [hc, firstSet?_eq_some_iff.2 hv, Option.getD_none, Option.bind_some, hx, Option.getD_some]
    · rw [hc, firstSet?_eq_none_iff.2 hv]
      rfl
  · rintro rfl
    cases hc : i.chosen? c with
    | some x => exact .chosen hc
    | none =>
      cases hv : firstSet? env i.variableNames with
      | none => exact .inFile hc (firstSet?_eq_none_iff.1 hv)
      | some v =>
        rw [firstSet?_eq_some_iff] at hv
        obtain ⟨x, hx⟩ := Option.isSome_iff_exists.1 (h v hv)
        rw [Option.getD_none, Option.bind_some, hx, Option.getD_some]
        exact .inVariable hc hv hx

section Stages

variable {c : Choices} {file s₁ : Settings}

theorem decides_of_stages (hlegible : LegibleIn env) (henv : InEnvironment env file s₁) (hc : AfterChoices c s₁ s)
    (i : Item) (hi : ∀ id, i ≠ .enabled id) : Decides c env file i (s.view i) := by
  rw [decides_iff (hlegible.items i), hc.items i hi, henv.items i hi]

theorem enabled_iff_of_stages (henv : InEnvironment env file s₁) (hc : AfterChoices c s₁ s) (id : SourceId) :
    (s.sources.get id).enabled = true ↔ IsOn c env file id := by
  have hview {s : Settings} {b : Bool} (h : s.view (.enabled id) = .flag b) : (s.sources.get id).enabled = b :=
    Datum.flag.inj h
  rw [IsOn]
  cases hsources : c.sources with
  | some names => rw [hview (hc.named names hsources id), decide_eq_true_eq]
  | none =>
    have hsame := hc.rest hsources id
    by_cases hoff : OffIn env id
    · simp [hview (hsame.trans (henv.off id hoff)), hoff]
    · simp [hview (hsame.trans (henv.rest id hoff)), hoff]

end Stages

/-- **Precedence.** Settings hold for a command exactly if the file, the environment and the command line can be
read and each value is the one that counts; what a file says and what holds without one is said of its leaves. The
order of the tables of overrides changes neither whether they succeed nor what they lead to. -/
theorem effective_by_precedence (disk : Disk) (faults : Faults) (env : Environment) (c : Choices) :
    (∀ s, effective disk faults env c = .ok s ↔
      ∃ file, load disk faults c.config = .ok file ∧ LegibleIn env ∧
        (∀ names, c.sources = some names → Known names) ∧
        (∀ i : Item, (∀ id, i ≠ .enabled id) → Decides c env file i (s.view i)) ∧
        ∀ id, (s.sources.get id).enabled = true ↔ IsOn c env file id) ∧
      (∀ file, load disk faults c.config = .ok file → (c.config = "" ∧ file = {}) ∨
        ∃ text document, c.config ≠ "" ∧ disk.read faults c.config = .ok text ∧ Toml.parse? text = some document ∧
          ∀ i : Item, file.view i =
            (Toml.saidAt i.kind.read i.path (Toml.leavesOf document.entries)).getD (view {} i)) ∧
      ∀ texts wholes durations : List Override, texts.Perm textOverrides → wholes.Perm wholeOverrides →
        durations.Perm durationOverrides → ∀ s s' : Settings,
          (inOrder texts wholes durations).foldlM (fun (s : Settings) (o : Override) => o.run env s) s = .ok s' ↔
            s.applyEnvironment env = .ok s' := by
  refine ⟨fun s => ⟨fun h => ?_, ?_⟩, fun file hfile => view_load hfile, fun texts wholes durations ht hw hd s s' => ?_⟩
  · obtain ⟨file, hfile, h⟩ := bind_eq_ok_iff.1 h
    obtain ⟨s₁, henv, hc⟩ := bind_eq_ok_iff.1 h
    obtain ⟨hlegible, henv⟩ := applyEnvironment_eq_ok_iff.1 henv
    obtain ⟨hknown, hc⟩ := Choices.afterChoices hc
    exact ⟨file, hfile, hlegible, hknown, decides_of_stages hlegible henv hc, enabled_iff_of_stages henv hc⟩
  · rintro ⟨file, hfile, hlegible, hknown, hitems, hsources⟩
    obtain ⟨s₁, henv⟩ := exists_applyEnvironment hlegible file
    obtain ⟨s₂, hc⟩ := Choices.exists_apply hknown s₁
    have hin := (applyEnvironment_eq_ok_iff.1 henv).2
    have hafter := (Choices.afterChoices hc).2
    -- The stages lead to some settings, and these agree with the ones given in every item.
    have hsame : s₂ = s := by
      refine eq_of_items (fun i hi => ?_) fun id => ?_
      · have hstages := decides_of_stages hlegible hin hafter i hi
        rw [(decides_iff (hlegible.items i)).1 hstages, (decides_iff (hlegible.items i)).1 (hitems i hi)]
      · have hiff := (enabled_iff_of_stages hin hafter id).trans (hsources id).symm
        exact congrArg Datum.flag (Bool.eq_iff_iff.2 hiff)
    exact bind_eq_ok_iff.2 ⟨file, hfile, bind_eq_ok_iff.2 ⟨s₁, henv, hsame ▸ hc⟩⟩
  · rw [inOrder_eq_ok_iff ht hw hd, applyEnvironment_eq_ok_iff]

/-- Variables for the log level and for sources that are off. -/
def fewVariables : Environment
  | "LOG_LEVEL" => some " debug "
  | "RISKRELAY_LOG_LEVEL" => some "warn"
  | "RISKRELAY_WORKERS" => some "7"
  | "RISKRELAY_DISABLE_SOURCES" => some "KEV, epss"
  | _ => none

/-- The command line gives the number of workers. -/
def threeWorkers : Choices := { workers := some 3 }

theorem effective_by_precedence_three_workers :
    ∃ s, effective {} {} fewVariables threeWorkers = .ok s ∧ s.logLevel = "debug" ∧ s.workers = 3 ∧
      (∀ i : Item, (∀ id, i ≠ .enabled id) → Decides threeWorkers fewVariables {} i (s.view i)) ∧
      (∀ id, (s.sources.get id).enabled = true ↔ IsOn threeWorkers fewVariables {} id) ∧
      ∀ s', (inOrder textOverrides.reverse wholeOverrides.reverse durationOverrides.reverse).foldlM
          (fun (s : Settings) (o : Override) => o.run fewVariables s) {} = .ok s' ↔
        applyEnvironment fewVariables {} = .ok s' := by
  obtain ⟨heffective, -, horder⟩ := effective_by_precedence {} {} fewVariables threeWorkers
  have hvalues : (effective {} {} fewVariables threeWorkers).toOption.map (fun s => (s.logLevel, s.workers)) =
      some ("debug", 3) := by
    decide +kernel
  cases hs : effective {} {} fewVariables threeWorkers with
  | error e => rw [hs] at hvalues; cases hvalues
  | ok s =>
    rw [hs] at hvalues
    obtain ⟨hlevel, hworkers⟩ := Prod.mk.inj (Option.some.inj hvalues)
    obtain ⟨file, hfile, -, -, hitems, hsources⟩ := (heffective s).1 hs
    cases hfile
    exact ⟨s, rfl, hlevel, hworkers, hitems, hsources,
      horder _ _ _ (List.reverse_perm _) (List.reverse_perm _) (List.reverse_perm _) {}⟩

end Settings

end Triage
