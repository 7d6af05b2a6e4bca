import Mathlib

/-!
# Reading delimited fields

A buffered reader that reads "up to and including the next delimiter" (`bufio`'s and
`bytes.Buffer`'s `ReadBytes`) returns the line it read, leaves the rest unread, and reports
whether it found the delimiter; without one it reads everything. `readUntil` is that read.

A format that writes fields with a delimiter between them is read back by one such read per
field. The lemmas here are what such a round trip needs: a read of `field ++ delim :: rest`
with no delimiter in `field` returns `field ++ [delim]` and leaves `rest`
(`readUntil_append`), a read without a delimiter returns everything (`readUntil_of_not_mem`),
and every sequence that holds the delimiter splits at its first one
(`exists_eq_append_of_mem`).
-/

namespace Delimited

variable {α : Type} [DecidableEq α]

/-- The elements up to and including the first `delim`, the elements after it, and whether a
`delim` was found. -/
def readUntil (delim : α) : List α → List α × List α × Bool
  | [] => ([], [], false)
  | x :: rest =>
      if x = delim then ([x], rest, true)
      else
        let (line, remaining, found) := readUntil delim rest
        (x :: line, remaining, found)

theorem readUntil_append {delim : α} {field : List α} (rest : List α) (free : delim ∉ field) :
    readUntil delim (field ++ delim :: rest) = (field ++ [delim], rest, true) := by
  induction field with
  | nil => simp [readUntil]
  | cons x field inductionHypothesis =>
    have other : x ≠ delim := fun same => free (same ▸ List.mem_cons_self)
    simp only [List.cons_append, readUntil, other, if_false]
    rw [inductionHypothesis (fun present => free (List.mem_cons_of_mem x present))]

theorem readUntil_of_not_mem {delim : α} {xs : List α} (free : delim ∉ xs) :
    readUntil delim xs = (xs, [], false) := by
  induction xs with
  | nil => rfl
  | cons x xs inductionHypothesis =>
    have other : x ≠ delim := fun same => free (same ▸ List.mem_cons_self)
    simp only [readUntil, other, if_false]
    rw [inductionHypothesis (fun present => free (List.mem_cons_of_mem x present))]

/-- A sequence that holds the delimiter splits at its first one. -/
theorem exists_eq_append_of_mem {delim : α} {xs : List α} (present : delim ∈ xs) :
    ∃ field rest, delim ∉ field ∧ xs = field ++ delim :: rest := by
  induction xs with
  | nil => cases present
  | cons x xs inductionHypothesis =>
    by_cases first : x = delim
    · exact ⟨[], xs, List.not_mem_nil, by rw [first, List.nil_append]⟩
    · have later : delim ∈ xs := (List.mem_cons.mp present).resolve_left (Ne.symm first)
      obtain ⟨field, rest, free, split⟩ := inductionHypothesis later
      refine ⟨x :: field, rest, ?_, by rw [split, List.cons_append]⟩
      rintro (_ | ⟨_, inField⟩)
      · exact first rfl
      · exact free inField

theorem count_append_of_not_mem {delim : α} {field : List α} (rest : List α) (free : delim ∉ field) :
    (field ++ delim :: rest).count delim = rest.count delim + 1 := by
  rw [List.count_append, List.count_eq_zero_of_not_mem free, List.count_cons_self, Nat.zero_add]

end Delimited
