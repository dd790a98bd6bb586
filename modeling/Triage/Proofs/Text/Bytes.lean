import Triage.Text.Bytes
import Triage.Text.Pieces

/-!
# Cuts between bytes

A text cut to a number of bytes is cut between two of its characters or inside one of them (`Cut`). In the
first case what is kept is a text again. In the second case the first bytes of a character are left over,
and whatever is written after them, no text has these bytes (`bytes_ne_of_cut`).
-/
namespace Triage.Text

theorem bytes_cons (c : Char) (cs : List Char) : bytes (c :: cs) = String.utf8EncodeChar c ++ bytes cs :=
  List.flatMap_cons

theorem bytes_append (cs ds : List Char) : bytes (cs ++ ds) = bytes cs ++ bytes ds :=
  List.flatMap_append

theorem length_bytes_cons (c : Char) (cs : List Char) :
    (bytes (c :: cs)).length = c.utf8Size + (bytes cs).length := by
  rw [bytes_cons, List.length_append, String.length_utf8EncodeChar]

theorem utf8ByteSize_eq (s : String) : s.utf8ByteSize = (bytes s.toList).length := by
  rw [← String.size_toByteArray, ← String.utf8Encode_toList, List.utf8Encode, List.size_toByteArray]
  rfl

/-- Leaving characters out takes no bytes more. -/
theorem length_bytes_le {cs ds : List Char} (h : cs.Sublist ds) : (bytes cs).length ≤ (bytes ds).length := by
  induction h with
  | slnil => exact Nat.le_refl _
  | cons c _ ih =>
    rw [length_bytes_cons]
    omega
  | cons_cons c _ ih =>
    rw [length_bytes_cons, length_bytes_cons]
    omega

/-- A text whose bytes begin with those of another begins with that other one. -/
theorem isPrefix_of_bytes {cs ds : List Char} {bs : List UInt8} (h : bytes cs ++ bs = bytes ds) :
    cs <+: ds := by
  refine List.isPrefix_of_utf8Encode_append_eq_utf8Encode bs.toByteArray ?_
  rw [List.utf8Encode, List.utf8Encode, ← List.toByteArray_append]
  exact congrArg List.toByteArray h

/-! ## Where a cut falls -/

/-- A cut of `cs` to `budget` bytes keeps `kept`, and `cut` bytes of the character after it. -/
inductive Cut (budget : Nat) : (cs kept : List Char) → (cut : Nat) → Prop
  | whole {cs : List Char} : (bytes cs).length ≤ budget → Cut budget cs cs 0
  | before {kept post : List Char} {c : Char} {cut : Nat} : (bytes kept).length + cut = budget →
      cut < c.utf8Size → Cut budget (kept ++ c :: post) kept cut

theorem cut_takeBytes (budget : Nat) (cs : List Char) :
    Cut budget cs (takeBytes budget cs).1 (takeBytes budget cs).2 := by
  induction cs generalizing budget with
  | nil => exact .whole (Nat.zero_le _)
  | cons c cs ih =>
    unfold takeBytes
    split
    · rename_i hfits
      -- The cut of the rest, with `c` in front of it.
      have hrest := ih (budget - c.utf8Size)
      generalize takeBytes (budget - c.utf8Size) cs = taken at hrest
      obtain ⟨kept, cut⟩ := taken
      dsimp only at hrest ⊢
      cases hrest with
      | whole hlen =>
        refine .whole ?_
        rw [length_bytes_cons]
        omega
      | @before _ post d _ hlen hcut =>
        have hall : (bytes (c :: kept)).length + cut = budget := by
          rw [length_bytes_cons]
          omega
        exact .before hall hcut
    · rename_i hlarge
      have hnone : (bytes []).length + budget = budget := Nat.zero_add budget
      exact .before hnone (by omega)

namespace Cut

variable {budget cut : Nat} {cs kept : List Char}

/-- All is kept exactly if it fits. -/
theorem length_eq_iff (h : Cut budget cs kept cut) : kept.length = cs.length ↔ (bytes cs).length ≤ budget := by
  cases h with
  | whole hlen => simp [hlen]
  | before hlen hcut =>
    rw [bytes_append, List.length_append, List.length_append, length_bytes_cons, List.length_cons]
    omega

/-- The cut falls inside a character exactly if one lies across the end of the budget. -/
theorem pos_iff (h : Cut budget cs kept cut) :
    0 < cut ↔ ∃ pre c post, cs = pre ++ c :: post ∧ (bytes pre).length < budget ∧
      budget < (bytes pre).length + c.utf8Size := by
  cases h with
  | whole hlen =>
    refine ⟨fun hpos => absurd hpos (Nat.lt_irrefl 0), ?_⟩
    rintro ⟨pre, c, post, rfl, -, habove⟩
    rw [bytes_append, List.length_append, length_bytes_cons] at hlen
    omega
  | @before kept post c cut hlen hcut =>
    refine ⟨fun hpos => ⟨kept, c, post, rfl, by omega, by omega⟩, ?_⟩
    rintro ⟨pre, d, rest, hsplit, hbelow, habove⟩
    rcases List.append_eq_append_iff.1 hsplit with ⟨more, rfl, -⟩ | ⟨more, rfl, hmore⟩
    · -- What is kept lies before the character.
      rw [bytes_append, List.length_append] at hbelow
      omega
    · cases more with
      | nil =>
        rw [List.append_nil] at hlen
        omega
      | cons e more =>
        -- The character would be kept as a whole.
        obtain ⟨rfl, -⟩ := List.cons.inj hmore
        rw [bytes_append, List.length_append, length_bytes_cons] at hlen
        omega

/-- The bytes before a cut: those of what is kept, and some of the character after it. -/
theorem take_bytes (hlen : (bytes kept).length + cut = budget) {c : Char} (hcut : cut < c.utf8Size)
    (post : List Char) :
    (bytes (kept ++ c :: post)).take budget = bytes kept ++ (String.utf8EncodeChar c).take cut := by
  rw [bytes_append, bytes_cons, ← hlen, List.take_length_add_append,
    List.take_append_of_le_length (by rw [String.length_utf8EncodeChar]; omega)]

end Cut

/-- **A cut inside a character leaves no text**: if the first bytes of a character are followed by another
character, no text has these bytes. -/
theorem bytes_ne_of_cut {c : Char} {cut : Nat} (hpos : 0 < cut) (hcut : cut < c.utf8Size)
    (kept us tail : List Char) (d : Char) :
    bytes us ≠ bytes kept ++ (String.utf8EncodeChar c).take cut ++ bytes (d :: tail) := by
  intro h
  -- The text begins with what was kept; look at the character after that.
  obtain ⟨rest, rfl⟩ : kept <+: us := by
    rw [List.append_assoc] at h
    exact isPrefix_of_bytes h.symm
  rw [bytes_append, List.append_assoc, List.append_cancel_left_eq] at h
  have hcutlen : ((String.utf8EncodeChar c).take cut).length = cut := by
    rw [List.length_take, String.length_utf8EncodeChar]
    omega
  cases rest with
  | nil =>
    have hlen := congrArg List.length h
    rw [List.length_append, hcutlen] at hlen
    simp only [bytes, List.flatMap_nil, List.length_nil] at hlen
    omega
  | cons e rest =>
    rw [bytes_cons, bytes_cons] at h
    by_cases hsize : e.utf8Size ≤ cut
    · -- Its bytes are the first ones of `c`, so it is `c`, which is longer than the cut.
      have hbytes : String.utf8EncodeChar e = (String.utf8EncodeChar c).take e.utf8Size := by
        have htake := congrArg (List.take e.utf8Size) h
        rwa [← String.length_utf8EncodeChar e, List.take_left, String.length_utf8EncodeChar e,
          List.take_append_of_le_length (by omega), List.take_take, Nat.min_eq_left hsize] at htake
      have hprefix : [e] <+: [c] := by
        have hsplit : bytes [e] ++ (String.utf8EncodeChar c).drop e.utf8Size = bytes [c] := by
          simp only [bytes, List.flatMap_cons, List.flatMap_nil, List.append_nil]
          rw [hbytes, List.take_append_drop]
        exact isPrefix_of_bytes hsplit
      obtain rfl : e = c := by simpa using hprefix
      omega
    · -- Its byte at the cut is the first one of `d`, but only its own first byte begins a character.
      have hin : cut < (String.utf8EncodeChar e).length := by rw [String.length_utf8EncodeChar]; omega
      have hd : 0 < (String.utf8EncodeChar d).length := List.length_pos_iff.2 String.utf8EncodeChar_ne_nil
      have hat : (String.utf8EncodeChar e)[cut] = (String.utf8EncodeChar d)[0] := by
        have hget := congrArg (·[cut]?) h
        simp only [List.getElem?_append_left hin] at hget
        rw [List.getElem?_append_right (by omega), hcutlen, Nat.sub_self, List.getElem?_append_left hd,
          List.getElem?_eq_getElem hin, List.getElem?_eq_getElem hd] at hget
        exact Option.some.inj hget
      have hfirst : (String.utf8EncodeChar e)[cut].IsUTF8FirstByte := by
        rw [hat]
        exact UInt8.isUTF8FirstByte_getElem_zero_utf8EncodeChar
      have := UInt8.isUTF8FirstByte_getElem_utf8EncodeChar.1 hfirst
      omega

end Triage.Text
