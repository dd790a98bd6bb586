import Triage.Host.Disk
import Triage.Proofs.Host.Path

/-!
# Files at their places

What is at a place after the disk was changed there, and that all other places stay as they are.
-/
namespace Triage

namespace Disk

theorem get?_put_self (d : Disk) (path : String) (file : File) : (d.put path file).get? path = some file :=
  Keyed.lookup_insert_self _ _ _

theorem get?_put_of_ne {path other : String} (h : place other ≠ place path) (d : Disk) (file : File) :
    (d.put path file).get? other = d.get? other :=
  Keyed.lookup_insert_of_ne _ _ _ _ h

theorem lookup_filter_of_pos {files : List (String × File)} {p : String × File → Bool} {key : String}
    (h : ∀ file, p (key, file) = true) : (files.filter p).lookup key = files.lookup key := by
  induction files with
  | nil => rfl
  | cons kf files ih =>
    obtain ⟨k, file⟩ := kf
    by_cases hk : key = k
    · subst hk
      rw [List.filter_cons_of_pos (h file), List.lookup_cons_self, List.lookup_cons_self]
    · have hne : (key == k) = false := beq_false_of_ne hk
      rw [List.lookup_cons, hne]
      cases hp : p (k, file) with
      | true => rw [List.filter_cons_of_pos hp, List.lookup_cons, hne]; exact ih
      | false => rw [List.filter_cons_of_neg (by simp [hp])]; exact ih

theorem lookup_filter_of_neg {files : List (String × File)} {p : String × File → Bool} {key : String}
    (h : ∀ file, p (key, file) = false) : (files.filter p).lookup key = none := by
  refine List.lookup_eq_none_iff.2 fun kf hkf => ?_
  obtain ⟨-, hp⟩ := List.mem_filter.1 hkf
  refine bne_iff_ne.2 fun heq => ?_
  obtain ⟨k, file⟩ := kf
  dsimp only at heq
  subst heq
  rw [h file] at hp
  cases hp

theorem get?_erase_of_ne {path other : String} (h : place other ≠ place path) (d : Disk) :
    (d.erase path).get? other = d.get? other :=
  lookup_filter_of_pos fun _ => by simpa using h

/-- A path goes with a directory. -/
def covers (root path : String) : Bool :=
  place path == place root || Text.startsWith (place root ++ "/") (place path)

/-- What goes with a directory that is removed is gone, and all else stays. -/
theorem get?_removeAll {d d' : Disk} {f : Faults} {root : String} (h : d.removeAll f root = .ok d')
    (path : String) : d'.get? path = if covers root path then none else d.get? path := by
  unfold removeAll at h
  split at h
  · cases h
  · cases h
    cases hcovers : covers root path with
    | true => exact lookup_filter_of_neg fun _ => congrArg not hcovers
    | false => exact lookup_filter_of_pos fun _ => congrArg not hcovers

/-- A path that ends with neither a slash nor a point is a place in its shortest form. -/
theorem place_eq_clean {path : String} {c : Char} (h : path.toList.getLast? = some c) (hslash : c ≠ '/')
    (hpoint : c ≠ '.') : place path = Path.clean path := by
  have hclean := Path.getLast?_clean h hslash hpoint
  have hne : ¬ (Path.clean path = "." ∨ Path.clean path = "..") := by
    rintro (heq | heq)
    all_goals
      rw [heq] at hclean
      exact hpoint (Option.some.inj hclean).symm
  rw [place, if_neg hne]

/-- Two paths that end differently are two places. -/
theorem place_ne_of_getLast? {path other : String} {c c' : Char} (hne : c ≠ c')
    (h : path.toList.getLast? = some c) (h' : other.toList.getLast? = some c')
    (hc : c ≠ '/' ∧ c ≠ '.') (hc' : c' ≠ '/' ∧ c' ≠ '.') : place path ≠ place other := by
  rw [place_eq_clean h hc.1 hc.2, place_eq_clean h' hc'.1 hc'.2]
  intro heq
  have hlast := Path.getLast?_clean h hc.1 hc.2
  rw [heq, Path.getLast?_clean h' hc'.1 hc'.2] at hlast
  exact hne (Option.some.inj hlast).symm

/-- A place other than the root of the disk is a path with parts. -/
theorem stack_ne_nil_of_place {root : String} (h : place root ≠ "/") :
    place root = Path.clean root ∧ Path.stack root.toList ≠ [] := by
  have hne : ¬ (Path.clean root = "." ∨ Path.clean root = "..") := by
    intro hpoint
    rw [place, if_pos hpoint] at h
    exact h rfl
  have hplace : place root = Path.clean root := if_neg hne
  refine ⟨hplace, fun hnil => ?_⟩
  have hclean := Path.toList_clean root
  rw [hnil] at hclean
  cases hrooted : Path.isRooted root.toList with
  | true =>
    rw [hrooted] at hclean
    exact h (hplace.trans (String.toList_inj.1 hclean))
  | false =>
    rw [hrooted] at hclean
    exact hne (.inl (String.toList_inj.1 hclean))

end Disk

end Triage
