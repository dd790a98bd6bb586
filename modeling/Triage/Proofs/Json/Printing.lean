import Triage.Json.Printer
import Triage.Proofs.Json.Grammar

/-!
# What is printed is read again

The indented form of a document spells the document, with the characters escaped that markup would
misread (`Spells.indented`, `parse_indented`). Escapes do not change what the texts of a document read as
(`Spells.unescaped_markupSafe`), so what is read again is the same document.
-/
namespace Triage.Json

/-! ## The texts of a document -/

mutual

/-- The document with its texts changed: the bodies of strings, and the names of members. -/
def mapTexts (f : String → String) : Json → Json
  | .string body => .string (f body)
  | .array js => .array (mapItems f js)
  | .object ms => .object (mapMembers f ms)
  | .null => .null
  | .bool b => .bool b
  | .number literal => .number literal

def mapItems (f : String → String) : List Json → List Json
  | [] => []
  | j :: js => mapTexts f j :: mapItems f js

def mapMembers (f : String → String) : List (String × Json) → List (String × Json)
  | [] => []
  | (name, j) :: ms => (f name, mapTexts f j) :: mapMembers f ms

end

theorem mapMembers_eq_map (f : String → String) (ms : List (String × Json)) :
    mapMembers f ms = ms.map fun (name, j) => (f name, mapTexts f j) := by
  induction ms with
  | nil => rfl
  | cons m ms ih => rw [mapMembers, ih, List.map_cons]

/-- The document with the characters escaped that markup would misread. -/
def markupSafe (j : Json) : Json := j.mapTexts escapeMarkup

/-- The document with its texts as they read. Two documents with the same texts differ in their escapes
only. -/
def unescaped (j : Json) : Json := j.mapTexts unescape

def Piece.mapTexts (f : String → String) : Piece → Piece
  | .value j => .value (j.mapTexts f)
  | .items js => .items (mapItems f js)
  | .members ms => .members (mapMembers f ms)

theorem IsLabel.isBody {name : String} {cs : List Char} (h : IsLabel name cs) : IsBody name.toList := by
  obtain ⟨body, ws, hbody, -, rfl, -⟩ := h
  rwa [String.toList_ofList]

theorem isLabel_of_isBody {name : String} (h : IsBody name.toList) :
    IsLabel name ('"' :: (name.toList ++ ['"', ':'])) :=
  ⟨name.toList, [], h, .nil, String.ofList_toList.symm, rfl⟩

/-- Escaping for markup keeps what the texts of a document read as. -/
theorem Spells.mapTexts_unescape {d : Nat} {p : Piece} {cs : List Char} (h : Spells d p cs) :
    (p.mapTexts escapeMarkup).mapTexts unescape = p.mapTexts unescape := by
  induction h with
  | scalar h =>
    cases h with
    | string h =>
      simp only [Piece.mapTexts, mapTexts]
      rw [unescape_escapeMarkup (by rwa [String.toList_ofList])]
    | _ => rfl
  | emptyArray | emptyObject => rfl
  | array _ _ ih =>
    simp only [Piece.mapTexts, mapTexts, Piece.items.injEq] at ih ⊢
    rw [ih]
  | object _ _ ih =>
    simp only [Piece.mapTexts, mapTexts, Piece.members.injEq] at ih ⊢
    rw [ih]
  | lastItem _ _ ih =>
    simp only [Piece.mapTexts, mapItems, Piece.value.injEq] at ih ⊢
    rw [ih]
  | item _ _ _ _ ih ihs =>
    simp only [Piece.mapTexts, mapItems, Piece.value.injEq, Piece.items.injEq] at ih ihs ⊢
    rw [ih, ihs]
  | lastMember hlabel _ _ _ ih =>
    simp only [Piece.mapTexts, mapMembers, Piece.value.injEq] at ih ⊢
    rw [ih, unescape_escapeMarkup hlabel.isBody]
  | member hlabel _ _ _ _ _ ih ihs =>
    simp only [Piece.mapTexts, mapMembers, Piece.value.injEq, Piece.members.injEq] at ih ihs ⊢
    rw [ih, ihs, unescape_escapeMarkup hlabel.isBody]

theorem Spells.unescaped_markupSafe {d : Nat} {j : Json} {cs : List Char} (h : Spells d (.value j) cs) :
    j.markupSafe.unescaped = j.unescaped := Piece.value.inj h.mapTexts_unescape

/-! ## The indented form -/

theorem blank_newline (level : Nat) : Blank (newline level) := by
  intro c hc
  rcases List.mem_cons.1 hc with rfl | hc
  · decide
  · rw [List.eq_of_mem_replicate hc]
    decide

theorem blank_space : Blank [' '] := by
  intro c hc
  rw [List.mem_singleton.1 hc]
  decide

def Piece.indented (level : Nat) : Piece → List Char
  | .value j => indentedChars level j
  | .items [] => []
  | .items (j :: js) => indentedChars (level + 1) j ++ indentedItems level js
  | .members [] => []
  | .members ((k, j) :: ms) =>
    quotedBody k ++ ':' :: ' ' :: (indentedChars (level + 1) j ++ indentedMembers level ms)

theorem Spells.items_ne_nil {d : Nat} {js : List Json} {cs : List Char} (h : Spells d (.items js) cs) :
    ∃ j js', js = j :: js' := by
  cases h
  · exact ⟨_, _, rfl⟩
  · exact ⟨_, _, rfl⟩

theorem Spells.members_ne_nil {d : Nat} {ms : List (String × Json)} {cs : List Char}
    (h : Spells d (.members ms) cs) : ∃ name j ms', ms = (name, j) :: ms' := by
  cases h
  · exact ⟨_, _, _, rfl⟩
  · exact ⟨_, _, _, rfl⟩

theorem quotedBody_eq (body : String) :
    quotedBody body = '"' :: (body.toList.flatMap markupChar ++ ['"']) := by
  rw [quotedBody, toList_escapeMarkup, List.cons_append]

theorem escapeMarkup_eq_ofList (body : String) :
    escapeMarkup body = String.ofList (body.toList.flatMap markupChar) := by
  rw [← toList_escapeMarkup, String.ofList_toList]

/-- A name is printed with its colon right after it. -/
theorem isLabel_quotedBody {name : String} (h : IsBody name.toList) :
    IsLabel (escapeMarkup name) (quotedBody name ++ [':']) :=
  ⟨_, [], h.markup, .nil, escapeMarkup_eq_ofList name, by rw [quotedBody_eq]; simp⟩

theorem IsScalar.indented {j : Json} {cs : List Char} (h : IsScalar j cs) (level : Nat) :
    IsScalar j.markupSafe (indentedChars level j) := by
  cases h with
  | null => exact .null
  | true => exact .true
  | false => exact .false
  | string h =>
    rw [indentedChars, scalarChars, quotedBody_eq, markupSafe, mapTexts, escapeMarkup_eq_ofList,
      String.toList_ofList]
    · exact .string h.markup
    all_goals simp
  | number h =>
    rw [indentedChars, scalarChars, markupSafe, mapTexts, String.toList_ofList]
    · exact .number h
    all_goals simp

/-- **The indented form of a piece** spells that piece, made safe for markup. -/
theorem Spells.indented {d : Nat} {p : Piece} {cs : List Char} (h : Spells d p cs) (level : Nat) :
    Spells d (p.mapTexts escapeMarkup) (p.indented level) := by
  induction h generalizing level with
  | scalar h => exact .scalar (h.indented level)
  | emptyArray =>
    simp only [Piece.mapTexts, mapTexts, mapItems, Piece.indented, indentedChars]
    exact .emptyArray .nil
  | emptyObject =>
    simp only [Piece.mapTexts, mapTexts, mapMembers, Piece.indented, indentedChars]
    exact .emptyObject .nil
  | array _ h ih =>
    obtain ⟨j, js, rfl⟩ := h.items_ne_nil
    have hitems := Spells.array (blank_newline (level + 1)) (ih level)
    simpa only [Piece.mapTexts, mapTexts, Piece.indented, indentedChars, List.append_assoc] using hitems
  | object _ h ih =>
    obtain ⟨name, j, ms, rfl⟩ := h.members_ne_nil
    have hmembers := Spells.object (blank_newline (level + 1)) (ih level)
    simpa only [Piece.mapTexts, mapTexts, Piece.indented, indentedChars, List.append_assoc,
      List.cons_append] using hmembers
  | lastItem _ _ ih =>
    have hlast := Spells.lastItem (ih (level + 1)) (blank_newline level)
    simpa only [Piece.mapTexts, mapItems, Piece.indented, indentedItems] using hlast
  | item _ _ _ hs ih ihs =>
    obtain ⟨j', js', rfl⟩ := hs.items_ne_nil
    have hitem := Spells.item (ih (level + 1)) .nil (blank_newline (level + 1)) (ihs level)
    simpa only [Piece.mapTexts, mapItems, Piece.indented, indentedItems, List.nil_append,
      List.append_assoc] using hitem
  | lastMember hlabel _ _ _ ih =>
    have hlast := Spells.lastMember (isLabel_quotedBody hlabel.isBody) blank_space (ih (level + 1))
      (blank_newline level)
    simpa only [Piece.mapTexts, mapMembers, Piece.indented, indentedMembers, List.append_assoc,
      List.cons_append, List.nil_append] using hlast
  | member hlabel _ _ _ _ hs ih ihs =>
    obtain ⟨name', j', ms', rfl⟩ := hs.members_ne_nil
    have hmember := Spells.member (isLabel_quotedBody hlabel.isBody) blank_space (ih (level + 1)) .nil
      (blank_newline (level + 1)) (ihs level)
    simpa only [Piece.mapTexts, mapMembers, Piece.indented, indentedMembers, List.append_assoc,
      List.cons_append, List.nil_append] using hmember

/-! ## Documents that can be spelled -/

/-- The document can be spelled: its numbers are numbers, and its texts can stand between quotes. -/
def Spellable (j : Json) : Prop := ∃ d cs, Spells d (.value j) cs

theorem spellable_of_parse {s : String} {j : Json} (h : parse s = some j) : Spellable j := by
  obtain ⟨ws, text, ws', -, -, hspells, -⟩ := parse_eq_some_iff.1 h
  exact ⟨_, _, hspells⟩

theorem spellable_string {body : String} (h : IsBody body.toList) : Spellable (.string body) := by
  refine ⟨0, '"' :: (body.toList ++ ['"']), .scalar ?_⟩
  have hstring := IsScalar.string h
  rwa [String.ofList_toList] at hstring

/-- An object can be spelled if its members can. -/
theorem spellable_object {ms : List (String × Json)}
    (h : ∀ m ∈ ms, IsBody m.1.toList ∧ Spellable m.2) : Spellable (.object ms) := by
  cases ms with
  | nil => exact ⟨1, _, .emptyObject .nil⟩
  | cons m ms =>
    obtain ⟨d, cs, hmembers⟩ : ∃ d cs, Spells d (.members (m :: ms)) cs := by
      induction ms generalizing m with
      | nil =>
        obtain ⟨hname, d, cs, hspells⟩ := h m List.mem_cons_self
        exact ⟨d, _, .lastMember (isLabel_of_isBody hname) .nil hspells .nil⟩
      | cons m' ms ih =>
        obtain ⟨hname, d, cs, hspells⟩ := h m List.mem_cons_self
        obtain ⟨d', cs', hspells'⟩ := ih m' fun x hx => h x (List.mem_cons_of_mem _ hx)
        exact ⟨max d d', _, .member (isLabel_of_isBody hname) .nil (hspells.mono (Nat.le_max_left _ _)) .nil
          .nil (hspells'.mono (Nat.le_max_right _ _))⟩
    exact ⟨d + 1, _, .object .nil hmembers⟩

/-- **The indented form of a document** that nests no deeper than can be read holds the document made safe
for markup. -/
theorem parse_indented {j : Json} (h : Spellable j) (hvalid : isValid (indented j) = true) :
    parse (indented j) = some j.markupSafe := by
  obtain ⟨d, cs, hspells⟩ := h
  have hprinted : Spells d (.value j.markupSafe) (indentedChars 0 j) := hspells.indented 0
  obtain ⟨j', hparse⟩ := Option.isSome_iff_exists.1 hvalid
  have hread := parse_eq_some_iff.1 hparse
  rw [indented, String.toList_ofList] at hread
  rw [hparse, hread.unique hprinted.spelledIn]

/-- The two texts hold the same document: they differ in blanks and escapes only. -/
def SameDocument (s t : String) : Prop :=
  ∃ j k, parse s = some j ∧ parse t = some k ∧ k.unescaped = j.unescaped

/-- A text that spells a document made safe for markup holds the same document. -/
theorem sameDocument_of_markupSafe {s t : String} {j : Json} (hs : parse s = some j)
    (ht : parse t = some j.markupSafe) : SameDocument s t := by
  obtain ⟨ws, text, ws', -, -, hspells, -⟩ := parse_eq_some_iff.1 hs
  exact ⟨j, j.markupSafe, hs, ht, hspells.unescaped_markupSafe⟩

end Triage.Json
