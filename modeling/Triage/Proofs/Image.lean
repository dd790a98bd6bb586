import Triage.Image
import Triage.Proofs.Text.Case
import Triage.Proofs.Text.Pieces

/-!
# Image references in writing

A reference can be told from its written form if its registry has no slash, its repository no `@`, and its tag neither
a colon nor an `@` (`Reference.Formed`): the first slash, the first `@` and the last colon are then the ones between its
parts, although a port, a nested repository or a digest may bring in others. A text is read as a reference exactly if
the reference is of this kind and the text is its written form, but for white space around it (`parse_eq_ok_iff`). Main
statement: `references_by_separators`.
-/
namespace Triage.Image

open Text

/-! ## Written forms -/

/-- A selector that can be told from the repository before it. -/
def Selector.Formed : Selector → Prop
  | .tag name => name ≠ "" ∧ ':' ∉ name.toList ∧ '@' ∉ name.toList
  | .digest value => value ≠ ""

/-- A reference with all its parts, and with separators only where they are not taken for those between the parts. -/
structure Reference.Formed (r : Reference) : Prop where
  registry_ne : r.registry ≠ ""
  slash_notMem : '/' ∉ r.registry.toList
  repository_ne : r.repository ≠ ""
  at_notMem : '@' ∉ r.repository.toList
  selector : r.selector.Formed

/-- What is written after the repository. -/
def Selector.written : Selector → List Char
  | .tag name => ':' :: name.toList
  | .digest value => '@' :: value.toList

theorem Reference.toList_render (r : Reference) :
    r.render.toList = r.registry.toList ++ '/' :: (r.repository.toList ++ r.selector.written) := by
  unfold render Selector.written
  cases r.selector <;> simp

/-- A reference without white space around its parts is written without white space around it. -/
theorem Reference.Formed.trim_render {r : Reference} (h : r.Formed)
    (hparts : ∀ part ∈ [r.registry, r.repository, r.tag, r.digest], trim part = part) : trim r.render = r.render := by
  obtain ⟨registry, repository, selector⟩ := r
  obtain ⟨hregistry, -, htag, hdigest⟩ : trim registry = registry ∧ _ ∧ _ ∧ _ := by
    simpa only [List.forall_mem_cons, List.not_mem_nil, false_imp_iff, implies_true, and_true] using hparts
  -- The registry comes first, and the tag or the digest last.
  cases selector with
  | tag name =>
    have hrender : render ⟨registry, repository, .tag name⟩ = registry ++ ("/" ++ repository ++ ":") ++ name := by
      simp only [render, String.append_assoc]
    rw [hrender]
    exact trim_enclosed hregistry htag h.registry_ne h.selector.1 _
  | digest value =>
    have hrender : render ⟨registry, repository, .digest value⟩ = registry ++ ("/" ++ repository ++ "@") ++ value := by
      simp only [render, String.append_assoc]
    rw [hrender]
    exact trim_enclosed hregistry hdigest h.registry_ne h.selector _

/-! ## Reading -/

/-- What follows the registry is cut in two at the first `@` if there is one, and else at the last colon. -/
theorem parseRest_eq_ok_iff {registry rest : List Char} {r : Reference} :
    parseRest registry rest = .ok r ↔
      r.registry.toList = registry ∧ rest = r.repository.toList ++ r.selector.written ∧
        r.repository ≠ "" ∧ '@' ∉ r.repository.toList ∧ r.selector.Formed := by
  constructor
  · intro h
    unfold parseRest at h
    split at h
    · rename_i repository digest hcut
      -- The digest is taken as it is: it may have colons and more of `@` in it.
      obtain ⟨rfl, hat⟩ := cutFirst_eq_some_iff.1 hcut
      split at h
      · cases h
      · rename_i hfull
        cases h
        obtain ⟨hrepository, hdigest⟩ : repository ≠ [] ∧ digest ≠ [] := by simpa using hfull
        simp [Selector.Formed, Selector.written, hrepository, hdigest, hat]
    · rename_i hcut
      -- There is no `@` at all, neither in the repository nor in the tag.
      have hnone := cutFirst_eq_none_iff.1 hcut
      split at h
      · cases h
      · rename_i repository tag hcut
        obtain ⟨rfl, hcolon⟩ := cutLast_eq_some_iff.1 hcut
        split at h
        · cases h
        · rename_i hfull
          cases h
          obtain ⟨hrepository, htag⟩ : repository ≠ [] ∧ tag ≠ [] := by simpa using hfull
          obtain ⟨hat, hattag⟩ : '@' ∉ repository ∧ '@' ∉ tag := by simpa using hnone
          simp [Selector.Formed, Selector.written, hrepository, htag, hat, hattag, hcolon]
  · obtain ⟨registry', repository, selector⟩ := r
    rintro ⟨rfl, rfl, hrepository, hat, hselector⟩
    cases selector with
    | tag name =>
      obtain ⟨hname, hcolon, hattag⟩ := hselector
      have hfirst : cutFirst '@' (repository.toList ++ ':' :: name.toList) = none :=
        cutFirst_eq_none_iff.2 (by simpa using ⟨hat, hattag⟩)
      have hlast : cutLast ':' (repository.toList ++ ':' :: name.toList) = some (repository.toList, name.toList) :=
        cutLast_eq_some_iff.2 ⟨rfl, hcolon⟩
      simp [parseRest, Selector.written, hfirst, hlast, hrepository, hname]
    | digest value =>
      have hvalue : value ≠ "" := hselector
      have hfirst : cutFirst '@' (repository.toList ++ '@' :: value.toList) = some (repository.toList, value.toList) :=
        cutFirst_eq_some_iff.2 ⟨rfl, hat⟩
      simp [parseRest, Selector.written, hfirst, hrepository, hvalue]

theorem parseChars_eq_ok_iff {cs : List Char} {r : Reference} :
    parseChars cs = .ok r ↔ r.Formed ∧ r.render.toList = cs := by
  rw [Reference.toList_render]
  constructor
  · intro h
    unfold parseChars at h
    split at h
    · cases h
    · rename_i registry rest hcut
      obtain ⟨rfl, hslash⟩ := cutFirst_eq_some_iff.1 hcut
      split at h
      · cases h
      · rename_i hfull
        obtain ⟨hregistry, -⟩ : registry ≠ [] ∧ rest ≠ [] := by simpa using hfull
        obtain ⟨rfl, rfl, hrepository, hat, hselector⟩ := parseRest_eq_ok_iff.1 h
        exact ⟨⟨mt String.toList_eq_nil_iff.2 hregistry, hslash, hrepository, hat, hselector⟩, rfl⟩
  · rintro ⟨h, rfl⟩
    have hfirst : cutFirst '/' (r.registry.toList ++ '/' :: (r.repository.toList ++ r.selector.written)) =
        some (r.registry.toList, r.repository.toList ++ r.selector.written) :=
      cutFirst_eq_some_iff.2 ⟨rfl, h.slash_notMem⟩
    have hrest : parseRest r.registry.toList (r.repository.toList ++ r.selector.written) = .ok r :=
      parseRest_eq_ok_iff.2 ⟨rfl, rfl, h.repository_ne, h.at_notMem, h.selector⟩
    simp [parseChars, hfirst, hrest, h.registry_ne, h.repository_ne]

/-- **A text is read as the reference it is the written form of**, but for white space around it. -/
theorem parse_eq_ok_iff {s : String} {r : Reference} : parse s = .ok r ↔ r.Formed ∧ r.render = trim s := by
  rw [parse, parseChars_eq_ok_iff, ← toList_trim, String.toList_inj]

/-! ## Which texts are references -/

/-- There is something before the first `@` and after it. -/
def NamesDigest (rest : String) : Prop :=
  ∃ before after, rest = before ++ "@" ++ after ∧ '@' ∉ before.toList ∧ before ≠ "" ∧ after ≠ ""

/-- There is no `@`, and there is something before the last colon and after it. -/
def NamesTag (rest : String) : Prop :=
  '@' ∉ rest.toList ∧ ∃ before after, rest = before ++ ":" ++ after ∧ ':' ∉ after.toList ∧ before ≠ "" ∧ after ≠ ""

/-- There is something before the first slash, and what comes after it names an image by a digest or a tag. -/
def Spelled (t : String) : Prop :=
  ∃ registry rest, t = registry ++ "/" ++ rest ∧ '/' ∉ registry.toList ∧ registry ≠ "" ∧
    (NamesDigest rest ∨ NamesTag rest)

theorem spelled_iff {t : String} : Spelled t ↔ ∃ r : Reference, r.Formed ∧ r.render = t := by
  constructor
  · rintro ⟨registry, rest, rfl, hslash, hregistry, hdigest | htag⟩
    · obtain ⟨repository, value, rfl, hat, hrepository, hvalue⟩ := hdigest
      exact ⟨⟨registry, repository, .digest value⟩, ⟨hregistry, hslash, hrepository, hat, hvalue⟩,
        by simp only [Reference.render, String.append_assoc]⟩
    · obtain ⟨hnone, repository, name, rfl, hcolon, hrepository, hname⟩ := htag
      obtain ⟨hat, hattag⟩ : '@' ∉ repository.toList ∧ '@' ∉ name.toList := by simpa using hnone
      exact ⟨⟨registry, repository, .tag name⟩, ⟨hregistry, hslash, hrepository, hat, hname, hcolon, hattag⟩,
        by simp only [Reference.render, String.append_assoc]⟩
  · rintro ⟨⟨registry, repository, selector⟩, ⟨hregistry, hslash, hrepository, hat, hselector⟩, rfl⟩
    cases selector with
    | tag name =>
      obtain ⟨hname, hcolon, hattag⟩ := hselector
      refine ⟨registry, repository ++ ":" ++ name, ?_, hslash, hregistry,
        .inr ⟨?_, repository, name, rfl, hcolon, hrepository, hname⟩⟩
      · simp only [Reference.render, String.append_assoc]
      · simpa using ⟨hat, hattag⟩
    | digest value =>
      refine ⟨registry, repository ++ "@" ++ value, ?_, hslash, hregistry,
        .inl ⟨repository, value, rfl, hat, hrepository, hselector⟩⟩
      simp only [Reference.render, String.append_assoc]

theorem Reference.Formed.tag_xor_digest {r : Reference} (h : r.Formed) : Xor (r.tag ≠ "") (r.digest ≠ "") := by
  obtain ⟨registry, repository, selector⟩ := r
  cases selector with
  | tag name => exact .inl ⟨h.selector.1, not_not_intro rfl⟩
  | digest value => exact .inr ⟨h.selector, not_not_intro rfl⟩

/-- **Image references are told by their separators.**

* A text is accepted exactly if, without the white space around it, there is something before its first slash, and what
  follows has an `@` with something before the first one and after it, or no `@` and a last colon with something before
  and after it.
* The reference has all its parts, with either a tag or a digest, and its written form is the text without the white
  space around it.
* A reference with all its parts, with no separator that could be taken for one between them and with no white space
  around them, is read back from its written form. -/
theorem references_by_separators :
    (∀ s, (∃ r, parse s = .ok r) ↔ Spelled (trim s)) ∧
    (∀ s r, parse s = .ok r → r.Formed ∧ Xor (r.tag ≠ "") (r.digest ≠ "") ∧ r.render = trim s) ∧
    ∀ r : Reference, r.Formed → (∀ part ∈ [r.registry, r.repository, r.tag, r.digest], trim part = part) →
      parse r.render = .ok r := by
  refine ⟨fun s => ?_, fun s r h => ?_, fun r h hparts => ?_⟩
  · simp only [parse_eq_ok_iff, spelled_iff]
  · obtain ⟨hformed, hrender⟩ := parse_eq_ok_iff.1 h
    exact ⟨hformed, hformed.tag_xor_digest, hrender⟩
  · exact parse_eq_ok_iff.2 ⟨h, (h.trim_render hparts).symm⟩

/-- A reference with a port, a colon in the repository, and a digest with a colon, an `@` and a slash. -/
def pinned : Reference := ⟨"localhost:5000", "team/api:v2", .digest "sha256:ab@cd/ef"⟩

theorem references_by_separators_pinned :
    parse " localhost:5000/team/api:v2@sha256:ab@cd/ef\n" = .ok pinned ∧
      Spelled "localhost:5000/team/api:v2@sha256:ab@cd/ef" ∧ pinned.Formed ∧
      Xor (pinned.tag ≠ "") (pinned.digest ≠ "") ∧ parse pinned.render = .ok pinned := by
  obtain ⟨haccepted, hread, hback⟩ := references_by_separators
  have hparse : parse " localhost:5000/team/api:v2@sha256:ab@cd/ef\n" = .ok pinned := by decide +kernel
  have htrim : trim " localhost:5000/team/api:v2@sha256:ab@cd/ef\n" =
      "localhost:5000/team/api:v2@sha256:ab@cd/ef" := by decide +kernel
  obtain ⟨hformed, hxor, -⟩ := hread _ _ hparse
  exact ⟨hparse, htrim ▸ (haccepted _).1 ⟨_, hparse⟩, hformed, hxor, hback pinned hformed (by decide +kernel)⟩

end Triage.Image
