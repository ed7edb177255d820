/-
  SoundLaw.Phoneme

  The phonemes of a word. A word is cut into graphemes, each with the combining marks that follow
  it, and a phoneme is a grapheme with its place in the word. Two spellings of one phoneme share
  a key: the lower-case base letter, or the stand-in of a digraph. `flatMap_text_phonemes` says that
  the phonemes of a word join to the word, and `phonemes?_eq_ok` that the tables for rules and for
  syllables, which are plain, never fail to read one.
-/
import SoundLaw.Spelling.Folded

namespace SoundLaw

/-- One phoneme of a word, as it is spelled there. -/
structure Phoneme where
  text : Text
  /-- The lower-case base letter, or the stand-in of a digraph. -/
  key : Text
  /-- The combining marks, decomposed. -/
  marks : Text
  /-- The offset of the first character. -/
  start : Nat
  /-- The offset after the last character. -/
  stop : Nat
  deriving DecidableEq, Repr

/-- Whether a phoneme starts with an upper-case letter. -/
def Phoneme.isUpper (p : Phoneme) : Bool := p.text.isCapitalized

/-- The key of a grapheme. Marks that start a word have no base letter; if the table gives a
    stand-in for the empty spelling, that is their key. -/
def Grapheme.key (table : DigraphTable) (g : Grapheme) : Text :=
  if g.isDigraph then g.phoneme table
  else ((table.standIn? []).filter fun _ => g.head.hasMark).getD g.text.base.lower

/-- The phonemes of graphemes that start at an offset. -/
def phonemesFrom (table : DigraphTable) (start : Nat) : List Grapheme → List Phoneme
  | [] => []
  | g :: gs =>
    { text := g.text
      key := g.key table
      marks := g.text.marks
      start := start
      stop := start + g.text.length } :: phonemesFrom table (start + g.text.length) gs

/-- The phonemes of a word. -/
def phonemes (table : DigraphTable) (word : Text) : List Phoneme :=
  phonemesFrom table 0 (graphemes table isMark word)

/-- The phonemes of a word, or its first digraph without a stand-in. -/
def phonemes? (table : DigraphTable) (word : Text) : Except Error (List Phoneme) :=
  match firstUnlisted? table (graphemes table isMark word) with
  | some spelling => .error (.unlistedDigraph spelling)
  | none => .ok (phonemes table word)

/-- By a plain table, every word has phonemes. -/
theorem phonemes?_eq_ok {table : DigraphTable} (plain : table.isPlain = true) (word : Text) :
    phonemes? table word = .ok (phonemes table word) := by
  rw [phonemes?, firstUnlisted?_graphemes (DigraphTable.lists_of_isPlain plain word)]

theorem map_text_phonemesFrom (table : DigraphTable) (start : Nat) (gs : List Grapheme) :
    (phonemesFrom table start gs).map Phoneme.text = gs.map Grapheme.text := by
  induction gs generalizing start with
  | nil => rfl
  | cons g gs ih => simp [phonemesFrom, ih]

/-- The phonemes of a word join to the word. -/
theorem flatMap_text_phonemes (table : DigraphTable) (word : Text) :
    (phonemes table word).flatMap Phoneme.text = word := by
  rw [List.flatMap_def, phonemes, map_text_phonemesFrom, ← List.flatMap_def,
    flatMap_text_graphemes]

end SoundLaw
