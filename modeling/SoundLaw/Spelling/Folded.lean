/-
  SoundLaw.Spelling.Folded

  Folding and spelling out. Folding replaces each digraph of a text by its stand-in, so that one
  character is one phoneme; spelling out writes each stand-in as its canonical digraph again.
-/
import SoundLaw.Error
import SoundLaw.Spelling.Grapheme

namespace SoundLaw

/-! ## Folding -/

/-- A text with each digraph replaced by its stand-in. If the table gives a stand-in for the
    empty spelling, that is put in front of every character outside the digraphs, and at the
    end. -/
def Text.fold (table : DigraphTable) (t : Text) : Text :=
  let filler := (table.standIn? []).getD []
  (graphemes table (fun _ => false) t).flatMap (fun g =>
    if g.isDigraph then g.phoneme table else filler ++ g.phoneme table) ++ filler

/-- The first digraph of a text that the table does not list in lower case. -/
def firstUnlisted? (table : DigraphTable) (gs : List Grapheme) : Option Text :=
  gs.findSome? (Grapheme.unlisted? table)

/-- The folded text, or the first digraph without a stand-in. -/
def Text.fold? (table : DigraphTable) (t : Text) : Except Error Text :=
  match firstUnlisted? table (graphemes table (fun _ => false) t) with
  | some spelling => .error (.unlistedDigraph spelling)
  | none => .ok (t.fold table)

theorem firstUnlisted?_graphemes {table : DigraphTable} {t : Text} (lists : table.Lists t)
    (trails : Char → Bool) : firstUnlisted? table (graphemes table trails t) = none := by
  rw [firstUnlisted?, List.findSome?_eq_none_iff]
  exact fun g member => unlisted?_eq_none_of_mem_graphemes lists member

/-- By a table that lists it, a text can be folded. -/
theorem Text.fold?_eq_ok {table : DigraphTable} {t : Text} (lists : table.Lists t) :
    t.fold? table = .ok (t.fold table) := by
  rw [Text.fold?, firstUnlisted?_graphemes lists]

/-! ## Spelling out -/

/-- The canonical spelling of a stand-in; any other character as it is. -/
def spellOut (c : Char) : Text :=
  match DigraphTable.words.find? (·.2 == [c]) with
  | some digraph => digraph.1
  | none => [c]

/-- A text with each stand-in spelled out. -/
def Text.spelledOut (t : Text) : Text := t.flatMap spellOut

/-- Whether a character stands in for a digraph. -/
def isStandIn (c : Char) : Bool := DigraphTable.words.any (·.2 == [c])

theorem spellOut_cases (c : Char) :
    isStandIn c = false ∧ spellOut c = [c] ∨
      isStandIn c = true ∧ ∃ d ∈ DigraphTable.words, d.2 = [c] ∧ spellOut c = d.1 := by
  rw [isStandIn, spellOut]
  cases found : DigraphTable.words.find? (·.2 == [c]) with
  | none =>
    left
    rw [List.find?_eq_none] at found
    exact ⟨List.any_eq_false.2 found, rfl⟩
  | some d =>
    right
    have member := List.mem_of_find?_eq_some found
    have same := List.find?_some found
    exact ⟨List.any_eq_true.2 ⟨d, member, same⟩, d, member, beq_iff_eq.1 same, rfl⟩

theorem spellOut_of_plain {c : Char} (plain : isStandIn c = false) : spellOut c = [c] := by
  rcases spellOut_cases c with ⟨_, same⟩ | ⟨standIn, _⟩
  · exact same
  · exact absurd (plain.symm.trans standIn) (by simp)

theorem exists_spelling_of_isStandIn {c : Char} (h : isStandIn c = true) :
    ∃ d ∈ DigraphTable.words, d.2 = [c] ∧ spellOut c = d.1 := by
  rcases spellOut_cases c with ⟨plain, _⟩ | ⟨_, spelled⟩
  · exact absurd (plain.symm.trans h) (by simp)
  · exact spelled

theorem Text.spelledOut_singleton (c : Char) : Text.spelledOut [c] = spellOut c :=
  List.flatMap_singleton spellOut c

theorem spellOut_ne_nil (c : Char) : spellOut c ≠ [] := by
  rw [spellOut]
  split
  · next digraph found =>
    have filled : ∀ d ∈ DigraphTable.words, d.1 ≠ [] := by decide
    exact filled digraph (List.mem_of_find?_eq_some found)
  · exact List.cons_ne_nil c []

end SoundLaw
