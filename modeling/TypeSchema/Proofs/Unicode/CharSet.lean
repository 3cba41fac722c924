import Mathlib.Data.List.Basic
import TypeSchema.Unicode.CharSet

/-!
How sets of characters lie to each other, read off their ranges in one pass: two sets hold no common
character, or one is covered by others.
-/

namespace TypeSchema.Unicode.CharSet

theorem contains_iff {set : CharSet} {c : Char} :
    set.contains c = true ↔ ∃ range ∈ set.ranges, range.1 ≤ c.toNat ∧ c.toNat ≤ range.2 := by
  simp only [contains, List.any_eq_true, Bool.and_eq_true, decide_eq_true_eq]

/-! Ranges of two sets in one list. -/

/-- The ranges of two lists that are in order, in order. -/
def interleave : List (Nat × Nat) → List (Nat × Nat) → List (Nat × Nat)
  | [], others => others
  | range :: rest, others =>
    others.takeWhile (fun other => other.1.blt range.1) ++
      range :: interleave rest (others.dropWhile fun other => other.1.blt range.1)

open scoped List in
theorem interleave_perm (ranges others : List (Nat × Nat)) :
    interleave ranges others ~ ranges ++ others := by
  induction ranges generalizing others with
  | nil => exact List.Perm.refl others
  | cons range rest induction =>
      let before := others.takeWhile fun other => other.1.blt range.1
      let after := others.dropWhile fun other => other.1.blt range.1
      have split : before ++ after = others := List.takeWhile_append_dropWhile
      calc before ++ range :: interleave rest after
        _ ~ before ++ range :: (rest ++ after) := ((induction after).cons range).append_left before
        _ ~ range :: (before ++ (rest ++ after)) := List.perm_middle
        _ ~ range :: (rest ++ (before ++ after)) := (List.perm_append_comm_assoc ..).cons range
        _ = range :: rest ++ others := by rw [split, List.cons_append]

/-- Whether ranges begin at `bound`, or later, and each ends before the next. -/
def inOrderFrom (bound : Nat) : List (Nat × Nat) → Bool
  | [] => true
  | (first, last) :: others => bound.ble first && first.ble last && inOrderFrom (last + 1) others

theorem pairwise_of_inOrderFrom {bound : Nat} {ranges : List (Nat × Nat)}
    (inOrder : inOrderFrom bound ranges = true) :
    (∀ range ∈ ranges, bound ≤ range.1) ∧
      ranges.Pairwise fun range other => range.2 < other.1 := by
  induction ranges generalizing bound with
  | nil => exact ⟨nofun, List.Pairwise.nil⟩
  | cons range others induction =>
      simp only [inOrderFrom, Bool.and_eq_true, Nat.ble_eq] at inOrder
      obtain ⟨⟨least, proper⟩, rest⟩ := inOrder
      obtain ⟨later, apart⟩ := induction rest
      refine ⟨List.forall_mem_cons.mpr ⟨least, fun other listed => ?_⟩,
        List.pairwise_cons.mpr ⟨later, apart⟩⟩
      have after := later other listed
      omega

/-- Whether two sets, both in order, hold no common character. -/
def apart (set other : CharSet) : Bool :=
  inOrderFrom 0 (interleave set.ranges other.ranges)

theorem not_contains_of_apart {set other : CharSet} (separate : set.apart other = true) {c : Char}
    (inside : set.contains c = true) : other.contains c = false := by
  obtain ⟨-, inOrder⟩ := pairwise_of_inOrderFrom separate
  -- which of two ranges comes first in the common list is not known
  have disjoint : (set.ranges ++ other.ranges).Pairwise
      fun range another => range.2 < another.1 ∨ another.2 < range.1 :=
    ((interleave_perm _ _).pairwise_iff Or.symm).mp (inOrder.imp Or.inl)
  obtain ⟨-, -, across⟩ := List.pairwise_append.mp disjoint
  refine Bool.eq_false_iff.mpr fun shared => ?_
  obtain ⟨range, listed, least, most⟩ := contains_iff.mp inside
  obtain ⟨another, otherListed, otherLeast, otherMost⟩ := contains_iff.mp shared
  rcases across range listed another otherListed with before | after <;> omega

/-! Sets covered by others. -/

/-- Whether ranges in order, without a gap from the first of them on, hold all codes up to `last`. -/
def reach (first last : Nat) : List (Nat × Nat) → Bool
  | [] => false
  | (low, high) :: others => low.ble first && (last.ble high || reach (high + 1) last others)

theorem exists_mem_of_reach {first last : Nat} {cover : List (Nat × Nat)}
    (reaches : reach first last cover = true) {code : Nat} (least : first ≤ code)
    (most : code ≤ last) : ∃ range ∈ cover, range.1 ≤ code ∧ code ≤ range.2 := by
  induction cover generalizing first with
  | nil => cases reaches
  | cons range others induction =>
      simp only [reach, Bool.and_eq_true, Bool.or_eq_true, Nat.ble_eq] at reaches
      obtain ⟨low, high⟩ := reaches
      by_cases within : code ≤ range.2
      · exact ⟨range, List.mem_cons_self, Nat.le_trans low least, within⟩
      · have further : reach (range.2 + 1) last others = true :=
          high.resolve_left fun enough => within (Nat.le_trans most enough)
        obtain ⟨another, listed, inside⟩ := induction further (by omega)
        exact ⟨another, List.mem_cons_of_mem range listed, inside⟩

/-- Whether each of some ranges in order is covered by others in order. -/
def coverAll (cover : List (Nat × Nat)) : List (Nat × Nat) → Bool
  | [] => true
  | (first, last) :: rest =>
    let left := cover.dropWhile fun range => range.2.blt first
    reach first last left && coverAll left rest

theorem exists_mem_of_coverAll {cover ranges : List (Nat × Nat)}
    (covered : coverAll cover ranges = true) {range : Nat × Nat} (listed : range ∈ ranges)
    {code : Nat} (least : range.1 ≤ code) (most : code ≤ range.2) :
    ∃ range ∈ cover, range.1 ≤ code ∧ code ≤ range.2 := by
  induction ranges generalizing cover with
  | nil => exact absurd listed List.not_mem_nil
  | cons first rest induction =>
      obtain ⟨reaches, others⟩ := Bool.and_eq_true_iff.mp covered
      have within := (List.dropWhile_sublist (l := cover) fun range => range.2.blt first.1).subset
      have found : ∃ range ∈ cover.dropWhile (fun range => range.2.blt first.1),
          range.1 ≤ code ∧ code ≤ range.2 := by
        rcases List.mem_cons.mp listed with rfl | more
        · exact exists_mem_of_reach reaches least most
        · exact induction others more
      obtain ⟨another, member, inside⟩ := found
      exact ⟨another, within member, inside⟩

def mergeRanges (sets : List CharSet) : List (Nat × Nat) :=
  sets.foldr (fun set ranges => interleave set.ranges ranges) []

theorem mem_mergeRanges {sets : List CharSet} {range : Nat × Nat}
    (listed : range ∈ mergeRanges sets) : ∃ set ∈ sets, range ∈ set.ranges := by
  induction sets with
  | nil => exact absurd listed List.not_mem_nil
  | cons set others induction =>
      rcases List.mem_append.mp ((interleave_perm _ _).mem_iff.mp listed) with inside | further
      · exact ⟨set, List.mem_cons_self, inside⟩
      · obtain ⟨other, member, inside⟩ := induction further
        exact ⟨other, List.mem_cons_of_mem set member, inside⟩

/-- Whether the characters of a set are all in one of the others; all sets are in order. -/
def coveredBy (set : CharSet) (others : List CharSet) : Bool :=
  coverAll (mergeRanges others) set.ranges

theorem exists_contains_of_coveredBy {set : CharSet} {others : List CharSet}
    (covered : set.coveredBy others = true) {c : Char} (inside : set.contains c = true) :
    ∃ other ∈ others, other.contains c = true := by
  obtain ⟨range, listed, least, most⟩ := contains_iff.mp inside
  obtain ⟨another, merged, within⟩ := exists_mem_of_coverAll covered listed least most
  obtain ⟨other, member, otherListed⟩ := mem_mergeRanges merged
  exact ⟨other, member, contains_iff.mpr ⟨another, otherListed, within⟩⟩

end TypeSchema.Unicode.CharSet
