import Triage.Host.Url
import Triage.Proofs.Text.Pieces

/-!
# Addresses with a query

A query without escapes at the end of an address makes no difference to whether the address can be taken apart: it
ends up in the query or in the fragment of the address, and all else is as it was (`isOk_parse_query`). If an address
cannot be taken apart, the failure is known by its text alone (`exists_of_parse_error`).
-/
namespace Triage

namespace Url

open Text (cutFirst cutFirst_append_of_some cutFirst_append_of_none cutFirst_eq_none_iff)

/-- A text that can stand in a query as it is, and needs no escapes. -/
def Plain (cs : List Char) : Prop := ∀ c ∈ cs, c ≠ '#' ∧ c ≠ '%' ∧ 0x20 ≤ c.toNat ∧ c.toNat ≠ 0x7f

theorem isOk_map {α β : Type} (f : α → β) (x : Except Failure α) : (x.map f).isOk = x.isOk := by
  cases x <;> rfl

/-! ## The fragment -/

theorem decode_cons {c : Char} (hc : c ≠ '%') (cs : List Char) :
    decode .fragment (c :: cs) = (decode .fragment cs).map (Text.bytes [c] ++ ·) := by
  rw [decode]
  · simp [hc]
  · exact fun _ _ _ h => absurd h hc

theorem isOk_decode_of_plain {cs : List Char} (h : Plain cs) : (decode .fragment cs).isOk = true := by
  induction cs with
  | nil => rfl
  | cons c cs ih =>
    obtain ⟨hc, hcs⟩ := List.forall_mem_cons.1 h
    rw [decode_cons hc.2.1, isOk_map, ih hcs]

theorem hexByte?_mark_left (lo : Char) : hexByte? '?' lo = none := rfl

theorem hexByte?_mark_right (hi : Char) : hexByte? hi '?' = none := by
  unfold hexByte?
  cases Number.hexValue? hi <;> rfl

/-- A question mark ends no escape. -/
theorem isOk_decode_query (cs : List Char) {query : List Char} (h : Plain query) :
    (decode .fragment (cs ++ '?' :: query)).isOk = (decode .fragment cs).isOk := by
  fun_induction decode .fragment cs with
  | case1 => exact isOk_decode_of_plain (List.forall_mem_cons.2 ⟨by decide, h⟩)
  | case2 hi lo rest hnone => simp [decode, hnone, Except.isOk, Except.toBool]
  | case3 hi lo rest b hb hrefuses => cases hrefuses
  | case4 hi lo rest b hb hrefuses ih =>
    simp only [List.cons_append, decode, hb, hrefuses]
    rw [isOk_map]
    simpa [isOk_map] using ih
  | case5 rest hshort =>
    -- Fewer than two characters follow the percent sign, so the question mark is one of the next two.
    match rest, hshort with
    | [], _ => cases query <;> simp [decode, hexByte?_mark_left, Except.isOk, Except.toBool]
    | [hi], _ => simp [decode, hexByte?_mark_right, Except.isOk, Except.toBool]
    | hi :: lo :: rest, hshort => exact (hshort hi lo rest rfl rfl).elim
  | case6 c rest hshort hc hhost => cases hhost
  | case7 c rest hshort hc hhost hquery ih => cases hquery
  | case8 c rest hshort hc hhost hquery ih => rw [List.cons_append, decode_cons hc, isOk_map, isOk_map, ih]

/-! ## What precedes the query -/

theorem isOk_parsePath (u : Url) (cs : List Char) : (parsePath u cs).isOk = (decode .path cs).isOk := by
  unfold parsePath
  cases decode .path cs <;> rfl

theorem isOk_parseAuthority (u u' : Url) (cs : List Char) :
    (parseAuthority u cs).isOk = (parseAuthority u' cs).isOk := by
  unfold parseAuthority
  cases Text.cutLast '@' cs with
  | none => cases parseHost cs <;> rfl
  | some p =>
    dsimp only
    cases parseHost p.2 with
    | error e => rfl
    | ok host => cases parseUser p.1 <;> rfl

/-- Only the scheme matters to what follows it. -/
theorem isOk_parseHierarchy {u u' : Url} (h : u.scheme = u'.scheme) (cs : List Char) :
    (parseHierarchy u cs).isOk = (parseHierarchy u' cs).isOk := by
  have hboth (authority rest : List Char) :
      (parseAuthority u authority >>= fun v => parsePath v rest).isOk =
        (parseAuthority u' authority >>= fun v => parsePath v rest).isOk := by
    have hauthority := isOk_parseAuthority u u' authority
    cases hu : parseAuthority u authority <;> cases hu' : parseAuthority u' authority
    · rfl
    · rw [hu, hu'] at hauthority; cases hauthority
    · rw [hu, hu'] at hauthority; cases hauthority
    · exact (isOk_parsePath _ rest).trans (isOk_parsePath _ rest).symm
  unfold parseHierarchy
  rw [h]
  cases Text.stripLead ['/', '/'] cs with
  | some rest =>
    dsimp only
    split
    · rw [isOk_parsePath, isOk_parsePath]
    · exact hboth _ _
  | none =>
    dsimp only
    split
    · rw [isOk_parsePath, isOk_parsePath]
    · split
      · rfl
      · split
        · rfl
        · rw [isOk_parsePath, isOk_parsePath]

/-- The scheme ends before the query. -/
theorem splitScheme_query (seen cs query : List Char) :
    splitScheme seen (cs ++ '?' :: query) =
      (splitScheme seen cs).map (Option.map fun p => (p.1, p.2 ++ '?' :: query)) := by
  induction cs generalizing seen with
  | nil => rfl
  | cons c cs ih =>
    rw [List.cons_append, splitScheme, splitScheme]
    split
    · exact ih _
    · split
      · split
        · rfl
        · exact ih _
      · split
        · split <;> rfl
        · rfl

/-- Reads what follows the scheme, query and all. -/
def parseRest (u : Url) (rest : List Char) : Except Failure Url :=
  match cutFirst '?' rest with
  | none => parseHierarchy u rest
  | some (body, query) => parseHierarchy { u with bareQuery := query.isEmpty, query := String.ofList query } body

theorem isOk_parseRest_query (u : Url) (rest query : List Char) :
    (parseRest u (rest ++ '?' :: query)).isOk = (parseRest u rest).isOk := by
  unfold parseRest
  cases hcut : cutFirst '?' rest with
  | none =>
    rw [cutFirst_append_of_none hcut, cutFirst, if_pos rfl, Option.map_some, List.append_nil]
    refine isOk_parseHierarchy ?_ rest
    rfl
  | some p =>
    rw [cutFirst_append_of_some hcut]
    refine isOk_parseHierarchy ?_ p.1
    rfl

def isControl (c : Char) : Bool := c.toNat < 0x20 || c.toNat = 0x7f

theorem parseBody_of_control {cs : List Char} (hcontrol : cs.any isControl = true) : (parseBody cs).isOk = false := by
  unfold isControl at hcontrol
  unfold parseBody
  rw [if_pos hcontrol]
  rfl

theorem parseBody_eq {cs : List Char} (hcontrol : cs.any isControl = false) (hstar : cs ≠ ['*']) :
    parseBody cs = splitScheme [] cs >>= fun
      | some (scheme, rest) => parseRest { scheme := Text.lower (String.ofList scheme) } rest
      | none => parseRest { scheme := Text.lower (String.ofList []) } cs := by
  unfold isControl at hcontrol
  unfold parseBody
  rw [if_neg (ne_true_of_eq_false hcontrol), if_neg hstar]
  cases splitScheme [] cs with
  | error e => rfl
  | ok o => cases o <;> rfl

theorem isOk_parseBody_query (cs : List Char) {query : List Char} (h : Plain query) :
    (parseBody (cs ++ '?' :: query)).isOk = (parseBody cs).isOk := by
  have hquery : ('?' :: query).any isControl = false := by
    refine List.any_eq_false.2 fun c hc => ?_
    rcases List.mem_cons.1 hc with rfl | hc
    · decide
    · obtain ⟨-, -, hlow, hdelete⟩ := h c hc
      simp [isControl, Nat.not_lt.2 hlow, hdelete]
  have hany : (cs ++ '?' :: query).any isControl = cs.any isControl := by
    rw [List.any_append, hquery, Bool.or_false]
  cases hcontrol : cs.any isControl with
  | true => rw [parseBody_of_control (hany.trans hcontrol), parseBody_of_control hcontrol]
  | false =>
    have hlong : cs ++ '?' :: query ≠ ['*'] := by
      cases cs <;> simp
    rw [parseBody_eq (hany.trans hcontrol) hlong, splitScheme_query]
    by_cases hstar : cs = ['*']
    · rw [hstar]
      rfl
    · rw [parseBody_eq hcontrol hstar]
      rcases splitScheme [] cs with e | _ | ⟨scheme, rest⟩
      · rfl
      · exact isOk_parseRest_query _ cs query
      · exact isOk_parseRest_query _ rest query

theorem isOk_parse (s : String) : (parse s).isOk =
    ((parseBody ((cutFirst '#' s.toList).getD (s.toList, [])).1).isOk &&
      (decode .fragment ((cutFirst '#' s.toList).getD (s.toList, [])).2).isOk) := by
  unfold parse
  generalize (cutFirst '#' s.toList).getD (s.toList, []) = p
  dsimp only
  cases parseBody p.1 with
  | error e => rfl
  | ok u => cases decode .fragment p.2 <;> rfl

/-- **A query at the end of an address** makes no difference to whether it can be taken apart. -/
theorem isOk_parse_query (s : String) {query : String} (h : Plain query.toList) :
    (parse (s ++ "?" ++ query)).isOk = (parse s).isOk := by
  have hchars : (s ++ "?" ++ query).toList = s.toList ++ '?' :: query.toList := by simp
  rw [isOk_parse, isOk_parse, hchars]
  cases hcut : cutFirst '#' s.toList with
  | none =>
    have hnone : '#' ∉ '?' :: query.toList := by
      rintro (_ | ⟨_, hmem⟩)
      exact (h '#' hmem).1 rfl
    rw [cutFirst_append_of_none hcut, cutFirst_eq_none_iff.2 hnone]
    exact congrArg (· && _) (isOk_parseBody_query s.toList h)
  | some p =>
    rw [cutFirst_append_of_some hcut]
    exact congrArg (_ && ·) (isOk_decode_query p.2 h)

/-! ## What is wrong with an address -/

/-- If there is a failure, it is known by its text alone. -/
def FailsPlainly {α : Type} (x : Except Failure α) : Prop := ∀ e, x = .error e → ∃ text, e = .plain text

namespace FailsPlainly

variable {α β : Type} {x : Except Failure α}

theorem ok (a : α) : FailsPlainly (.ok a) := fun _ h => nomatch h

theorem plain (text : String) : FailsPlainly (.error (.plain text) : Except Failure α) := fun _ h => by
  cases h
  exact ⟨text, rfl⟩

theorem bind (h : FailsPlainly x) {f : α → Except Failure β} (hf : ∀ a, FailsPlainly (f a)) :
    FailsPlainly (x >>= f) := by
  cases x with
  | error e => obtain ⟨text, rfl⟩ := h e rfl; exact plain text
  | ok a => exact hf a

theorem map (h : FailsPlainly x) (f : α → β) : FailsPlainly (x.map f) := h.bind fun a => ok (f a)

end FailsPlainly

theorem failsPlainly_decode (p : Part) (cs : List Char) : FailsPlainly (decode p cs) := by
  fun_induction decode p cs with
  | case1 => exact .ok []
  | case2 => exact .plain _
  | case3 => exact .plain _
  | case4 hi lo rest b hb hrefuses ih => exact ih.map _
  | case5 => exact .plain _
  | case6 => exact .plain _
  | case7 c rest hshort hc hhost hquery ih => exact ih.map _
  | case8 c rest hshort hc hhost hquery ih => exact ih.map _

theorem failsPlainly_splitScheme (seen cs : List Char) : FailsPlainly (splitScheme seen cs) := by
  fun_induction splitScheme seen cs with
  | case1 => exact .ok _
  | case2 seen c rest halpha ih => exact ih
  | case3 => exact .ok _
  | case4 seen c rest halpha hdigit hseen ih => exact ih
  | case5 => exact .plain _
  | case6 => exact .ok _
  | case7 => exact .ok _

theorem failsPlainly_parseHost (cs : List Char) : FailsPlainly (parseHost cs) := by
  fun_cases parseHost cs with
  | case1 => exact .plain _
  | case2 => exact .plain _
  | case3 => exact failsPlainly_decode .host cs
  | case4 hhead inside port hcut hport address zone hzone =>
    refine (failsPlainly_decode .host address).bind fun _ => (failsPlainly_decode .zone zone).bind fun _ => ?_
    exact (failsPlainly_decode .host _).bind fun _ => .ok _
  | case5 => exact failsPlainly_decode .host cs
  | case6 => exact .plain _
  | case7 => exact failsPlainly_decode .host cs

theorem failsPlainly_parseUser (cs : List Char) : FailsPlainly (parseUser cs) := by
  fun_cases parseUser cs with
  | case1 => exact .plain _
  | case2 => exact (failsPlainly_decode .userinfo cs).map _
  | case3 hall name password hcut =>
    refine (failsPlainly_decode .userinfo name).bind fun _ => ?_
    exact (failsPlainly_decode .userinfo password).bind fun _ => .ok _

theorem failsPlainly_parseAuthority (u : Url) (cs : List Char) : FailsPlainly (parseAuthority u cs) := by
  fun_cases parseAuthority u cs with
  | case1 => exact (failsPlainly_parseHost cs).bind fun _ => .ok _
  | case2 user host hcut =>
    exact (failsPlainly_parseHost host).bind fun _ => (failsPlainly_parseUser user).bind fun _ => .ok _

theorem failsPlainly_parsePath (u : Url) (cs : List Char) : FailsPlainly (parsePath u cs) :=
  (failsPlainly_decode .path cs).bind fun _ => .ok _

theorem failsPlainly_parseHierarchy (u : Url) (cs : List Char) : FailsPlainly (parseHierarchy u cs) := by
  fun_cases parseHierarchy u cs with
  | case1 => exact failsPlainly_parsePath _ _
  | case2 => exact (failsPlainly_parseAuthority _ _).bind fun _ => failsPlainly_parsePath _ _
  | case3 => exact failsPlainly_parsePath _ _
  | case4 => exact .ok _
  | case5 => exact .plain _
  | case6 => exact failsPlainly_parsePath _ _

theorem failsPlainly_parseBody (cs : List Char) : FailsPlainly (parseBody cs) := by
  fun_cases parseBody cs with
  | case1 => exact .plain _
  | case2 => exact .ok _
  | case3 =>
    refine (failsPlainly_splitScheme [] cs).bind fun scheme? => ?_
    dsimp only
    split <;> exact failsPlainly_parseHierarchy _ _

/-- **What is wrong with an address** is a matter of its text. -/
theorem exists_of_parse_error {s : String} {e : Failure} (h : parse s = .error e) :
    ∃ part text, e = unreadable part (.plain text) := by
  unfold parse at h
  dsimp only at h
  split at h
  · rename_i e' hbody
    obtain ⟨text, rfl⟩ := failsPlainly_parseBody _ e' hbody
    cases h
    exact ⟨_, text, rfl⟩
  · split at h
    · rename_i e' hfragment
      obtain ⟨text, rfl⟩ := failsPlainly_decode .fragment _ e' hfragment
      cases h
      exact ⟨_, text, rfl⟩
    · cases h

end Url

end Triage
