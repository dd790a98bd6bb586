import Triage.Json.Decode
import Triage.Proofs.Json.Printing
import Triage.Text.Case

/-!
# Documents that the program writes

All texts of a document that the program builds went through `escape`, and its numbers are numbers. Both
printed forms of such a document are read again as that document (`Printed.parse`). A newline at the end
of an array or an object goes when the text is trimmed, and nothing else does (`trim_newline`).
-/
namespace Triage.Json

/-! ## The compact form -/

def Piece.compact : Piece → List Char
  | .value j => compactChars j
  | .items [] => []
  | .items (j :: js) => compactChars j ++ compactItems js
  | .members [] => []
  | .members ((k, j) :: ms) => quotedBody k ++ ':' :: (compactChars j ++ compactMembers ms)

/-- A value that is no container has one form. -/
theorem IsScalar.compactChars_eq {j : Json} {cs : List Char} (h : IsScalar j cs) :
    compactChars j = indentedChars 0 j := by
  cases h with
  | null => rfl
  | true => rfl
  | false => rfl
  | string h =>
    rw [compactChars, indentedChars]
    all_goals simp
  | number h =>
    rw [compactChars, indentedChars]
    all_goals simp

/-- **The compact form of a piece** spells that piece, made safe for markup. -/
theorem Spells.compact {d : Nat} {p : Piece} {cs : List Char} (h : Spells d p cs) :
    Spells d (p.mapTexts escapeMarkup) p.compact := by
  induction h with
  | scalar h =>
    simp only [Piece.compact, h.compactChars_eq]
    exact .scalar (h.indented 0)
  | emptyArray =>
    simp only [Piece.mapTexts, mapTexts, mapItems, Piece.compact, compactChars]
    exact .emptyArray .nil
  | emptyObject =>
    simp only [Piece.mapTexts, mapTexts, mapMembers, Piece.compact, compactChars]
    exact .emptyObject .nil
  | array _ h ih =>
    obtain ⟨j, js, rfl⟩ := h.items_ne_nil
    have hitems := Spells.array .nil ih
    simpa only [Piece.mapTexts, mapTexts, Piece.compact, compactChars, List.nil_append] using hitems
  | object _ h ih =>
    obtain ⟨name, j, ms, rfl⟩ := h.members_ne_nil
    have hmembers := Spells.object .nil ih
    simpa only [Piece.mapTexts, mapTexts, Piece.compact, compactChars, List.nil_append] using hmembers
  | lastItem _ _ ih =>
    have hlast := Spells.lastItem ih .nil
    simpa only [Piece.mapTexts, mapItems, Piece.compact, compactItems, List.nil_append] using hlast
  | item _ _ _ hs ih ihs =>
    obtain ⟨j', js', rfl⟩ := hs.items_ne_nil
    have hitem := Spells.item ih .nil .nil ihs
    simpa only [Piece.mapTexts, mapItems, Piece.compact, compactItems, List.nil_append] using hitem
  | lastMember hlabel _ _ _ ih =>
    have hlast := Spells.lastMember (isLabel_quotedBody hlabel.isBody) .nil ih .nil
    simpa only [Piece.mapTexts, mapMembers, Piece.compact, compactMembers, List.append_assoc,
      List.cons_append, List.nil_append] using hlast
  | member hlabel _ _ _ _ hs ih ihs =>
    obtain ⟨name', j', ms', rfl⟩ := hs.members_ne_nil
    have hmember := Spells.member (isLabel_quotedBody hlabel.isBody) .nil ih .nil .nil ihs
    simpa only [Piece.mapTexts, mapMembers, Piece.compact, compactMembers, List.append_assoc,
      List.cons_append, List.nil_append] using hmember

/-! ## Written documents -/

/-- The program may write this document, in which containers nest at most `d` deep. -/
inductive Written : Nat → Json → Prop
  | bool {d : Nat} (b : Bool) : Written d (.bool b)
  | number {d : Nat} {literal : String} (h : IsNumber literal.toList) : Written d (.number literal)
  | text {d : Nat} (s : String) : Written d (ofText s)
  | array {d : Nat} {js : List Json} (h : ∀ j ∈ js, Written d j) : Written (d + 1) (.array js)
  | object {d : Nat} {ms : List (String × Json)} (hnames : ∀ m ∈ ms, ∃ name, m.1 = escape name)
    (h : ∀ m ∈ ms, Written d m.2) : Written (d + 1) (.object ms)

theorem exists_spells_items {d : Nat} {j : Json} {js : List Json}
    (h : ∀ x ∈ j :: js, ∃ cs, Spells d (.value x) cs) : ∃ cs, Spells d (.items (j :: js)) cs := by
  induction js generalizing j with
  | nil =>
    obtain ⟨cs, hcs⟩ := h j List.mem_cons_self
    exact ⟨_, .lastItem hcs .nil⟩
  | cons j' js ih =>
    obtain ⟨cs, hcs⟩ := h j List.mem_cons_self
    obtain ⟨cs', hcs'⟩ := ih fun x hx => h x (List.mem_cons_of_mem _ hx)
    exact ⟨_, .item hcs .nil .nil hcs'⟩

theorem exists_spells_members {d : Nat} {m : String × Json} {ms : List (String × Json)}
    (h : ∀ x ∈ m :: ms, IsBody x.1.toList ∧ ∃ cs, Spells d (.value x.2) cs) :
    ∃ cs, Spells d (.members (m :: ms)) cs := by
  induction ms generalizing m with
  | nil =>
    obtain ⟨hname, cs, hcs⟩ := h m List.mem_cons_self
    exact ⟨_, .lastMember (isLabel_of_isBody hname) .nil hcs .nil⟩
  | cons m' ms ih =>
    obtain ⟨hname, cs, hcs⟩ := h m List.mem_cons_self
    obtain ⟨cs', hcs'⟩ := ih fun x hx => h x (List.mem_cons_of_mem _ hx)
    exact ⟨_, .member (isLabel_of_isBody hname) .nil hcs .nil .nil hcs'⟩

namespace Written

variable {d : Nat} {j : Json}

/-- A written document can be spelled. -/
theorem exists_spells (h : Written d j) : ∃ cs, Spells d (.value j) cs := by
  induction h with
  | bool b => cases b with
    | true => exact ⟨_, .scalar .true⟩
    | false => exact ⟨_, .scalar .false⟩
  | @number _ literal h =>
    have hscalar := IsScalar.number h
    rw [String.ofList_toList] at hscalar
    exact ⟨_, .scalar hscalar⟩
  | text s =>
    have hscalar := IsScalar.string (isBody_escape s)
    rw [String.ofList_toList] at hscalar
    exact ⟨_, .scalar hscalar⟩
  | @array _ js _ ih =>
    cases js with
    | nil => exact ⟨_, .emptyArray .nil⟩
    | cons j js =>
      obtain ⟨cs, hcs⟩ := exists_spells_items ih
      exact ⟨_, .array .nil hcs⟩
  | @object _ ms hnames _ ih =>
    cases ms with
    | nil => exact ⟨_, .emptyObject .nil⟩
    | cons m ms =>
      obtain ⟨cs, hcs⟩ := exists_spells_members fun x hx => by
        obtain ⟨name, hname⟩ := hnames x hx
        exact ⟨hname ▸ isBody_escape name, ih x hx⟩
      exact ⟨_, .object .nil hcs⟩

theorem mapItems_eq_map (f : String → String) (js : List Json) : mapItems f js = js.map (mapTexts f) := by
  induction js with
  | nil => rfl
  | cons j js ih => rw [mapItems, ih, List.map_cons]

/-- A written document is safe for markup already. -/
theorem markupSafe_eq (h : Written d j) : j.markupSafe = j := by
  unfold markupSafe
  induction h with
  | bool b => rfl
  | number h => rfl
  | text s => rw [ofText, mapTexts, escapeMarkup_escape]
  | array _ ih =>
    rw [mapTexts, mapItems_eq_map, List.map_congr_left ih, List.map_id']
  | @object _ ms hnames _ ih =>
    rw [mapTexts, mapMembers_eq_map]
    refine congrArg Json.object ?_
    have hsame : ∀ m ∈ ms, (escapeMarkup m.1, mapTexts escapeMarkup m.2) = id m := by
      intro m hm
      obtain ⟨name, hname⟩ := hnames m hm
      have hkey : escapeMarkup m.1 = m.1 := by
        rw [hname]
        exact escapeMarkup_escape name
      exact Prod.ext hkey (ih m hm)
    exact (List.map_congr_left hsame).trans (List.map_id ms)

end Written

/-! ## The brackets of a container -/

/-- The text ends with the bracket of the piece, and begins with it if it is a whole container. -/
def Piece.Bracketed : Piece → List Char → Prop
  | .items _, cs => ∃ body, cs = body ++ [']']
  | .members _, cs => ∃ body, cs = body ++ ['}']
  | .value (.array _), cs => ∃ body, cs = '[' :: (body ++ [']'])
  | .value (.object _), cs => ∃ body, cs = '{' :: (body ++ ['}'])
  | .value _, _ => True

theorem Spells.bracketed {d : Nat} {p : Piece} {cs : List Char} (h : Spells d p cs) : p.Bracketed cs := by
  induction h with
  | scalar h => cases h <;> trivial
  | @emptyArray _ ws => exact ⟨ws, rfl⟩
  | @emptyObject _ ws => exact ⟨ws, rfl⟩
  | @array _ _ ws _ _ _ ih =>
    obtain ⟨body, rfl⟩ := ih
    exact ⟨ws ++ body, by simp⟩
  | @object _ _ ws _ _ _ ih =>
    obtain ⟨body, rfl⟩ := ih
    exact ⟨ws ++ body, by simp⟩
  | @lastItem _ _ cs ws _ _ _ => exact ⟨cs ++ ws, by simp⟩
  | @item _ _ _ cs ws ws' _ _ _ _ _ _ ihs =>
    obtain ⟨body, rfl⟩ := ihs
    exact ⟨cs ++ (ws ++ ',' :: (ws' ++ body)), by simp⟩
  | @lastMember _ _ _ label gap cs ws _ _ _ _ _ => exact ⟨label ++ (gap ++ (cs ++ ws)), by simp⟩
  | @member _ _ _ _ label gap cs ws ws' _ _ _ _ _ _ _ _ ihs =>
    obtain ⟨body, rfl⟩ := ihs
    exact ⟨label ++ (gap ++ (cs ++ (ws ++ ',' :: (ws' ++ body)))), by simp⟩

/-- A newline at the end of a text between brackets is all that trimming removes. -/
theorem trim_newline {first last : Char} (body : List Char) (hfirst : Text.isBlank first = false)
    (hlast : Text.isBlank last = false) :
    Text.trim (String.ofList (first :: (body ++ [last])) ++ "\n") =
      String.ofList (first :: (body ++ [last])) := by
  have hnewline : Text.isBlank '\n' = true := by decide
  rw [Text.trim, String.toList_append, String.toList_ofList]
  refine congrArg String.ofList ?_
  simp [Text.trimChars, Text.dropEnd, hfirst, hlast, hnewline]

namespace Written

variable {d : Nat} {j : Json}

/-! ## What is printed is read again -/

/-- The printed forms of a written document spell it. -/
theorem spells_printed (h : Written d j) :
    Spells d (.value j) (compactChars j) ∧ Spells d (.value j) (indentedChars 0 j) := by
  obtain ⟨cs, hcs⟩ := h.exists_spells
  have hcompact : Spells d (.value j.markupSafe) (compactChars j) := hcs.compact
  have hindented : Spells d (.value j.markupSafe) (indentedChars 0 j) := hcs.indented 0
  rw [h.markupSafe_eq] at hcompact hindented
  exact ⟨hcompact, hindented⟩

end Written

/-- The two ways in which a document is printed. -/
def Printed (j : Json) (text : String) : Prop := text = j.compact ∨ text = j.indented

namespace Printed

variable {d : Nat} {j : Json} {text : String}

theorem exists_spells (h : j.Printed text) (hj : Written d j) :
    ∃ cs, text = String.ofList cs ∧ Spells d (.value j) cs := by
  rcases h with rfl | rfl
  · exact ⟨_, rfl, hj.spells_printed.1⟩
  · exact ⟨_, rfl, hj.spells_printed.2⟩

/-- **A printed document is read again**, if it does not nest too deep for the reader. -/
theorem parse (h : j.Printed text) (hj : Written d j) (hd : d ≤ maxDepth) :
    Json.parse text = some j := by
  obtain ⟨cs, rfl, hcs⟩ := h.exists_spells hj
  exact hcs.parse hd

end Printed

end Triage.Json
