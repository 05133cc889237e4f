import Mathlib.Data.List.Basic

/-!
# Words of a list

`words sep l` cuts `l` at the elements satisfying `sep` and drops the empty pieces: what is
left are the maximal runs of other elements, in order.  With `sep` the whitespace test on
characters this is `str::split_whitespace`; `unwords s ws` puts one `s` between two words, which
is `join` of a vector of strings.

A *word* is a nonempty run without separators.  `words` distributes over a separator
(`words_append_cons`), and a word is its own only word (`words_of_isWord`).  A text that
`unwords` does not rebuild from its own words (two separators in a row, one at either end, a
separator other than `s`) is one on which splitting and joining lose something.
-/

namespace Words

variable {α : Type*} (sep : α → Bool)

/-- The maximal runs of elements that are not separators. -/
def words (l : List α) : List (List α) :=
  (l.splitOnP sep).filter fun w => !w.isEmpty

/-- The words joined with one `s` between two. -/
def unwords (s : α) (ws : List (List α)) : List α :=
  [s].intercalate ws

/-- A nonempty run of elements that are not separators. -/
def IsWord (w : List α) : Prop :=
  w ≠ [] ∧ ∀ x ∈ w, sep x = false

instance [DecidableEq α] (w : List α) : Decidable (IsWord sep w) :=
  inferInstanceAs (Decidable (_ ∧ _))

variable {sep}

@[simp] theorem words_nil : words sep ([] : List α) = [] := by
  simp [words]

/-- A separator cuts the words in two. -/
theorem words_append_cons (l₁ l₂ : List α) {s : α} (hs : sep s = true) :
    words sep (l₁ ++ s :: l₂) = words sep l₁ ++ words sep l₂ := by
  simp only [words, List.splitOnP_append_cons l₁ l₂ hs, List.filter_append]

theorem words_of_isWord {w : List α} (h : IsWord sep w) : words sep w = [w] := by
  have hne : w.isEmpty = false := List.isEmpty_eq_false_iff.2 h.1
  simp [words, List.splitOnP_eq_singleton h.2, hne]

end Words
