/-
  SoundLaw.Proofs.Notation.Groups

  The groups of a prepared segment and their placeholders. A segment whose braces pair up is a row of
  plain characters and of braced texts in one way only, and this is how it is cut (`braced_iff`).
  Each group of several phonemes leaves one placeholder. That its placeholders are all that there are
  takes the rest of the module: preparing a segment brings none in, because no row of the tables has
  the placeholder and no digraph of rule notation folds to it
  (`placeholder_mem_of_mem_prepared`).
-/
import SoundLaw.Proofs.Notation.Phonemes
import SoundLaw.Proofs.Notation.Prepared

namespace SoundLaw

/-! ## Braces -/

/-- How a text is made of plain characters and of texts between braces. The first closing brace
    ends what an opening one has begun. -/
inductive Braced : Text → List Piece → Prop
  | nil : Braced [] []
  | plain {c : Char} {t : Text} {ps : List Piece} (notOpening : c ≠ '{') (notClosing : c ≠ '}')
      (rest : Braced t ps) : Braced (c :: t) (.plain c :: ps)
  | braced {content t : Text} {ps : List Piece} (closes : '}' ∉ content) (rest : Braced t ps) :
      Braced ('{' :: content ++ '}' :: t) (.braced content :: ps)

theorem notMem_of_cut? {separator : Char} {t before after : Text}
    (h : Text.cut? separator t = some (before, after)) : separator ∉ before := by
  induction t generalizing before with
  | nil => simp [Text.cut?] at h
  | cons c t ih =>
    rw [Text.cut?] at h
    split at h
    · simp only [Option.some.injEq, Prod.mk.injEq] at h
      simp [← h.1]
    · next other =>
      obtain ⟨⟨a, b⟩, cut, equal⟩ := Option.map_eq_some_iff.1 h
      simp only [Prod.mk.injEq] at equal
      rw [← equal.1, List.mem_cons, not_or]
      exact ⟨Ne.symm other, ih (equal.2 ▸ cut)⟩

theorem cut?_append {separator : Char} {before : Text} (absent : separator ∉ before)
    (after : Text) : Text.cut? separator (before ++ separator :: after) = some (before, after) := by
  induction before with
  | nil => simp [Text.cut?]
  | cons c before ih =>
    obtain ⟨other, absent⟩ := not_or.1 (mt List.mem_cons.2 absent)
    rw [List.cons_append, Text.cut?, if_neg (Ne.symm other), ih absent]
    rfl

theorem pieces_cons {c : Char} (notOpening : c ≠ '{') (t : Text) :
    pieces (c :: t) = .plain c :: pieces t := by
  rw [pieces]
  split
  · next cut => simp [notOpening] at cut
  · rfl

/-- A group ends at the first closing brace. -/
theorem pieces_group {content : Text} (closes : '}' ∉ content) (t : Text) :
    pieces ('{' :: content ++ '}' :: t) = .braced content :: pieces t := by
  rw [List.cons_append, pieces]
  split
  · next found rest cut =>
    rw [if_pos rfl, cut?_append closes] at cut
    simp only [Option.some.injEq, Prod.mk.injEq] at cut
    rw [← cut.1, ← cut.2]
  · next cut =>
    rw [if_pos rfl, cut?_append closes] at cut
    exact absurd cut (by simp)

/-- A segment is cut as it is made. -/
theorem Braced.pieces_eq {t : Text} {ps : List Piece} (h : Braced t ps) : pieces t = ps := by
  induction h with
  | nil => rw [pieces]
  | plain notOpening _ _ ih => rw [pieces_cons notOpening, ih]
  | braced closes _ ih => rw [pieces_group closes, ih]

theorem braced_pieces {t : Text} (paired : (pieces t).any Piece.isStray = false) :
    Braced t (pieces t) := by
  fun_induction pieces t with
  | case1 => exact .nil
  | case2 c t content rest cut ih =>
    split at cut
    · next opening =>
      rw [opening, Text.eq_append_of_cut? cut]
      exact .braced (notMem_of_cut? cut) (ih paired)
    · simp at cut
  | case3 c t cut ih =>
    simp only [List.any_cons, Piece.isStray, Bool.or_eq_false_iff, beq_eq_false_iff_ne] at paired
    exact .plain paired.1.1 paired.1.2 (ih paired.2)

/-- The braces of a segment pair up if it is such a row, and then its pieces are that row. -/
theorem braced_iff {t : Text} {ps : List Piece} :
    Braced t ps ↔ pieces t = ps ∧ (pieces t).any Piece.isStray = false := by
  constructor
  · intro h
    refine ⟨h.pieces_eq, ?_⟩
    rw [h.pieces_eq]
    induction h with
    | nil => rfl
    | plain notOpening notClosing _ ih => simp [Piece.isStray, notOpening, notClosing, ih]
    | braced _ _ ih => simp [Piece.isStray, ih]
  · rintro ⟨rfl, paired⟩
    exact braced_pieces paired

/-! ## Groups and placeholders -/

namespace Piece

/-- The text between the braces of a piece. -/
def content? : Piece → Option Text
  | plain _ => none
  | braced content => some content

/-- What a piece leaves behind where groups give way to placeholders. -/
def flattened : Piece → Text
  | plain c => [c]
  | braced content => if 1 < content.countUnits then [placeholder] else content

end Piece

theorem withoutGroups_eq (t : Text) : t.withoutGroups = (pieces t).flatMap Piece.flattened := by
  rw [Text.withoutGroups]
  refine List.flatMap_congr fun piece _ => ?_
  cases piece <;> rfl

/-- The groups are what stands between braces, as far as it has several phonemes. -/
theorem groups_eq (t : Text) :
    t.groups = ((pieces t).filterMap Piece.content?).filter fun content => 1 < content.countUnits := by
  rw [Text.groups, List.filter_filterMap]
  refine List.filterMap_congr fun piece _ => ?_
  cases piece with
  | plain c => rfl
  | braced content =>
    simp only [Piece.content?, Option.filter_some, decide_eq_true_eq]

/-- A segment that has no placeholder of its own has one for each group. -/
theorem count_placeholder_withoutGroups {t : Text} (absent : placeholder ∉ t) :
    t.withoutGroups.count placeholder = t.groups.length := by
  rw [withoutGroups_eq, groups_eq]
  have outside : ∀ piece ∈ pieces t, placeholder ∉ piece.text :=
    fun piece member h => absent (mem_of_mem_pieces member _ h)
  generalize pieces t = ps at outside
  -- Along the pieces: each leaves as many placeholders as it has groups.
  induction ps with
  | nil => rfl
  | cons piece ps ih =>
    obtain ⟨here, later⟩ := List.forall_mem_cons.1 outside
    rw [List.flatMap_cons, List.count_append, ih later]
    cases piece with
    | plain c =>
      have other : placeholder ≠ c := by simpa [Piece.text] using here
      simp [Piece.flattened, Piece.content?, List.filterMap_cons, Ne.symm other]
    | braced content =>
      have other : placeholder ∉ content := by
        intro h
        exact here (List.mem_cons_of_mem '{' (List.mem_append_left ['}'] h))
      by_cases several : 1 < content.countUnits
      · simp [Piece.flattened, Piece.content?, several, Nat.add_comm]
      · simp [Piece.flattened, Piece.content?, several, List.count_eq_zero_of_not_mem other]

/-! ## Normal forms -/

theorem decompose_placeholder : decompose placeholder = [placeholder] := by decide +kernel

/-- The signs that notation has for groups. -/
def groupSigns : Text := ['{', '}', placeholder]

theorem groupSigns_notMem_rows :
    (canonicalMappings.all fun page => page.2.all fun row => row.2.all fun n =>
      groupSigns.all fun sign => !Nat.beq n sign.toNat) = true := by
  decide +kernel

/-- No other character decomposes to one of these signs. -/
theorem eq_of_mem_decompose_of_mem_groupSigns {sign c : Char} (listed : sign ∈ groupSigns)
    (h : sign ∈ decompose c) : c = sign := by
  rcases mem_decompose_cases h with hangul | ⟨page, inPages, row, inPage, _, hn, _⟩ | same
  · have elsewhere : (groupSigns.all fun s => s.toNat / 256 != 0x11) = true := by decide
    exact absurd hangul (bne_iff_ne.1 (List.all_eq_true.1 elsewhere sign listed))
  · have absent := List.all_eq_true.1 (List.all_eq_true.1 (List.all_eq_true.1
      (List.all_eq_true.1 groupSigns_notMem_rows page inPages) row inPage) _ hn) sign listed
    simp at absent
  · exact same

theorem placeholder_mem_nfd_iff {t : Text} : placeholder ∈ t.nfd ↔ placeholder ∈ t := by
  rw [mem_nfd]
  constructor
  · rintro ⟨c, hc, decomposed⟩
    rwa [eq_of_mem_decompose_of_mem_groupSigns (by decide) decomposed] at hc
  · intro h
    exact ⟨placeholder, h, by simp [decompose_placeholder]⟩

theorem placeholder_mem_nfc_iff {t : Text} : placeholder ∈ t.nfc ↔ placeholder ∈ t := by
  rw [← placeholder_mem_nfd_iff, Text.nfd_nfc, placeholder_mem_nfd_iff]

/-! ## Folding -/

/-- What stands in a folded text and not in the text itself is a stand-in, and so an ordinary
    letter. -/
theorem mem_of_mem_fold_rules {c : Char} {t : Text} (special : isOrdinary c = false)
    (h : c ∈ t.fold DigraphTable.rules) : c ∈ t := by
  rw [fold_eq_flatMap_phoneme (by decide), List.mem_flatMap] at h
  obtain ⟨g, member, hc⟩ := h
  have listed := unlisted?_eq_none_of_mem_graphemes
    (DigraphTable.lists_of_isPlain DigraphTable.isPlain_rules t) member
  have head : c ∈ g.head := by
    rw [Grapheme.phoneme] at hc
    split at hc
    · next digraph =>
      -- Every digraph has a stand-in.
      cases found : DigraphTable.rules.standIn? g.head with
      | none => simp [Grapheme.unlisted?, digraph, found] at listed
      | some standIn =>
        obtain ⟨s, rfl, _, ordinary, _⟩ := standIn_rules found
        rw [found, Option.getD_some, List.mem_singleton] at hc
        rw [hc, ordinary] at special
        exact absurd special (by simp)
    · exact hc
  rw [← flatMap_text_graphemes DigraphTable.rules (fun _ => false) t, List.mem_flatMap]
  exact ⟨g, member, List.mem_append_left g.trail head⟩

/-- Preparing a segment brings no placeholder in. -/
theorem placeholder_mem_of_mem_prepared {segment : Text} (h : placeholder ∈ segment.prepared) :
    placeholder ∈ segment := by
  rw [Text.prepared, placeholder_mem_nfd_iff] at h
  exact placeholder_mem_nfc_iff.1 (mem_of_mem_fold_rules (by decide +kernel) h)

end SoundLaw
