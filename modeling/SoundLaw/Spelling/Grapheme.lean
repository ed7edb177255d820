/-
  SoundLaw.Spelling.Grapheme

  Graphemes: the written units of a text. A grapheme is headed by the longest digraph that opens
  the rest of the text, or by a single character where no digraph does, and takes along the
  characters that trail its head, such as its diacritics. `flatMap_text_graphemes` says that the
  graphemes of a text join to the text.
-/
import SoundLaw.Diacritic
import SoundLaw.Spelling.Digraph

namespace SoundLaw

/-- A written unit of a text. -/
structure Grapheme where
  /-- A digraph as it is spelled, or a single character. -/
  head : Text
  /-- Whether the head is a digraph. -/
  isDigraph : Bool
  /-- The characters that trail the head. -/
  trail : Text
  deriving DecidableEq, Repr

namespace Grapheme

/-- A grapheme as it is written. -/
def text (g : Grapheme) : Text := g.head ++ g.trail

/-- The head of a grapheme as one phoneme: the stand-in of a digraph, any other character as it
    is. A digraph that the table does not list in lower case keeps its lower-case spelling. -/
def phoneme (table : DigraphTable) (g : Grapheme) : Text :=
  if g.isDigraph then (table.standIn? g.head).getD g.head.lower else g.head

/-- The lower-case spelling of a digraph that the table does not list in lower case. -/
def unlisted? (table : DigraphTable) (g : Grapheme) : Option Text :=
  if g.isDigraph && (table.standIn? g.head).isNone then some g.head.lower else none

end Grapheme

/-- How many characters the head of the first grapheme has after its first one. -/
def DigraphTable.extent (table : DigraphTable) (t : Text) : Nat := (table.reach t).getD 1 - 1

/-- The graphemes of a text. The characters that satisfy `trails` stay with the head before
    them. -/
def graphemes (table : DigraphTable) (trails : Char → Bool) : Text → List Grapheme
  | [] => []
  | c :: t =>
    let rest := t.drop (table.extent (c :: t))
    { head := c :: t.take (table.extent (c :: t))
      isDigraph := (table.reach (c :: t)).isSome
      trail := rest.takeWhile trails } :: graphemes table trails (rest.dropWhile trails)
termination_by t => t.length
decreasing_by
  have h := (List.dropWhile_suffix trails (l := t.drop (table.extent (c :: t)))).length_le
  simp only [List.length_drop, List.length_cons] at h ⊢
  omega

@[simp] theorem graphemes_nil (table : DigraphTable) (trails : Char → Bool) :
    graphemes table trails [] = [] := by
  rw [graphemes]

/-- The graphemes of a text join to the text. -/
theorem flatMap_text_graphemes (table : DigraphTable) (trails : Char → Bool) (t : Text) :
    (graphemes table trails t).flatMap Grapheme.text = t := by
  fun_induction graphemes table trails t with
  | case1 => rfl
  | case2 c t rest ih =>
    simp only [List.flatMap_cons, ih, Grapheme.text, List.cons_append, List.append_assoc]
    rw [List.takeWhile_append_dropWhile, List.take_append_drop]

/-- The head of a grapheme that is a digraph has the length of the longest one. -/
theorem DigraphTable.cons_take_extent {table : DigraphTable} {c : Char} {t : Text} {n : Nat}
    (h : table.reach (c :: t) = some n) : c :: t.take (table.extent (c :: t)) = (c :: t).take n := by
  obtain ⟨⟨d, member, _, rfl⟩, _⟩ := DigraphTable.reach_eq_some_iff.1 h
  have filled := (DigraphTable.mem_of_mem_readable member).2
  obtain ⟨m, length⟩ := Nat.exists_eq_succ_of_ne_zero (mt List.length_eq_zero_iff.1 filled)
  simp [DigraphTable.extent, h, length]

/-- By a table that lists the text, no digraph lacks a stand-in. -/
theorem unlisted?_eq_none_of_mem_graphemes {table : DigraphTable} {trails : Char → Bool} {t : Text}
    (lists : table.Lists t) {g : Grapheme} (h : g ∈ graphemes table trails t) :
    g.unlisted? table = none := by
  fun_induction graphemes table trails t with
  | case1 => simp at h
  | case2 c t rest ih =>
    rcases List.mem_cons.1 h with rfl | h
    · cases reached : table.reach (c :: t) with
      | none => simp [Grapheme.unlisted?]
      | some n =>
        have listed := DigraphTable.isSome_standIn?_of_reach lists reached
        simp [Grapheme.unlisted?, DigraphTable.cons_take_extent reached,
          Option.isNone_eq_false_iff.2 listed]
    · refine ih (lists.mono fun d hd => List.mem_cons_of_mem c ?_) h
      exact List.mem_of_mem_drop ((List.dropWhile_suffix trails).subset hd)

/-- No grapheme is empty. -/
theorem head_ne_nil_of_mem_graphemes {table : DigraphTable} {trails : Char → Bool} {t : Text}
    {g : Grapheme} (h : g ∈ graphemes table trails t) : g.head ≠ [] := by
  fun_induction graphemes table trails t with
  | case1 => simp at h
  | case2 c t rest ih =>
    rcases List.mem_cons.1 h with rfl | h
    · simp
    · exact ih h

end SoundLaw
