/-
  SoundLaw.Proofs.Notation.Parsing

  What a segment is parsed to. The flattened segment is read as slots, one for each of its phonemes
  (`Form.IsReadFrom`). A segment without placeholders of its own has exactly as many groups as are
  asked for: all of them are used up, and none can be missing (`parse_cases`).
-/
import SoundLaw.Proofs.Notation.Groups

namespace SoundLaw

/-- White space in front is nothing that counts. -/
theorem countP_dropWhile_isBlank {p : Char → Bool} (visible : ∀ c, p c = true → isBlank c = false)
    (t : Text) : (t.dropWhile isBlank).countP p = t.countP p := by
  induction t with
  | nil => rfl
  | cons c t ih =>
    cases blank : isBlank c with
    | false => simp [blank]
    | true =>
      have passed : p c = false := by
        rw [← Bool.not_eq_true]
        intro counted
        rw [visible c counted] at blank
        exact absurd blank (by simp)
      simpa [blank, passed] using ih

/-- What a form says of the prepared segment that it is read from, where `ps` are the pieces of that
    segment. -/
structure Form.IsReadFrom (f : Form) (prepared : Text) (ps : List Piece) : Prop where
  /-- The segment is cut at its braces. -/
  braces : Braced prepared ps
  /-- The groups are the contents of the braces with several phonemes, in order. -/
  groups : f.groups =
    (ps.filterMap Piece.content?).filter fun content => 1 < content.countUnits
  /-- The flattened segment is read as the slots, after white space. -/
  reads : ReadsAs ((ps.flatMap Piece.flattened).dropWhile isBlank) f.groups f.slots
  /-- There is a slot for each phoneme of the flattened segment. -/
  length : f.slots.length = Text.countUnits (ps.flatMap Piece.flattened)
  /-- The groups of the slots are the groups of the form, in order. -/
  contents : f.slots.filterMap (·.symbol.content?) = f.groups

/-- A segment without placeholders asks for as many groups as it has. -/
theorem count_placeholder_prepared {segment : Text} (absent : placeholder ∉ segment) :
    (segment.prepared.withoutGroups.dropWhile isBlank).count placeholder =
      segment.prepared.groups.length := by
  rw [← count_placeholder_withoutGroups (mt placeholder_mem_of_mem_prepared absent)]
  refine countP_dropWhile_isBlank (fun c same => ?_) _
  rw [beq_iff_eq.1 same]
  decide +kernel

/-- If the braces of a segment pair up, then it is parsed as what is left without them is read. -/
theorem parse_of_paired {segment : Text}
    (paired : (pieces segment.prepared).any Piece.isStray = false) :
    Form.parse segment =
      (segmentSlots segment.prepared.groups segment.prepared.withoutGroups).map fun slots =>
        { slots, groups := segment.prepared.groups } := by
  rw [Form.parse]
  simp only [paired, Bool.false_eq_true, if_false]
  cases segmentSlots segment.prepared.groups segment.prepared.withoutGroups <;> rfl

theorem parse_of_stray {segment : Text}
    (stray : (pieces segment.prepared).any Piece.isStray = true) :
    Form.parse segment = .error (.malformed (.braces segment)) := by
  rw [Form.parse]
  simp only [stray, if_true]

theorem isReadFrom_of_parse {segment : Text} {form : Form} (absent : placeholder ∉ segment)
    (parsed : Form.parse segment = .ok form) :
    form.IsReadFrom segment.prepared (pieces segment.prepared) := by
  obtain ⟨paired, read, groups⟩ := read_of_parse parsed
  have reads := readsAs_of_segmentSlots read
  refine ⟨braced_pieces paired, groups ▸ groups_eq segment.prepared, ?_, ?_, ?_⟩
  · rwa [← withoutGroups_eq, groups]
  · rw [← withoutGroups_eq, reads.length_eq]
    exact countP_dropWhile_isBlank (fun c unit => (isUnit_iff.1 unit).1) _
  · rw [reads.contents.1, count_placeholder_prepared absent, List.take_length, groups]

/-- A segment is not parsed if its braces do not pair up, or an attachment comes before its first
    phoneme, or it has a placeholder of its own that no group is left for. -/
theorem parse_error_cases {segment : Text} {e : Error} (failed : Form.parse segment = .error e) :
    (e = .malformed (.braces segment) ∧ ¬∃ ps, Braced segment.prepared ps) ∨
      (∃ c ∈ (segment.prepared.withoutGroups.dropWhile isBlank).head?, isUnit c = false ∧
        e = .malformed (.dangling c segment.prepared.withoutGroups)) ∨
      (e = .missingGroup ∧ placeholder ∈ segment) := by
  cases paired : (pieces segment.prepared).any Piece.isStray with
  | true =>
    rw [parse_of_stray paired] at failed
    refine Or.inl ⟨(Except.error.inj failed).symm, ?_⟩
    rintro ⟨ps, braced⟩
    rw [(braced_iff.1 braced).2] at paired
    exact absurd paired (by simp)
  | false =>
    rw [parse_of_paired paired] at failed
    rcases segmentSlots_cases segment.prepared.groups segment.prepared.withoutGroups with
      (⟨slots, read, _⟩ | ⟨lacks, few⟩) | ⟨c, first, attached, dangling⟩
    · rw [read] at failed
      exact absurd failed (by simp [Except.map])
    · rw [lacks] at failed
      refine Or.inr (Or.inr ⟨(Except.error.inj failed).symm, ?_⟩)
      -- A segment without a placeholder asks for no more groups than it has.
      by_contra absent
      rw [count_placeholder_prepared absent] at few
      exact absurd few (Nat.lt_irrefl _)
    · rw [dangling] at failed
      exact Or.inr (Or.inl ⟨c, first, attached, (Except.error.inj failed).symm⟩)

/-- A segment is parsed to a form, or it is faulty, or it has a placeholder of its own. Without such
    a placeholder, the form says all that is written. -/
theorem parse_cases (segment : Text) :
    segment.nfc.fold? DigraphTable.rules = .ok (segment.nfc.fold DigraphTable.rules) ∧
      ((∃ form, Form.parse segment = .ok form ∧
          (placeholder ∉ segment → ∃ ps, form.IsReadFrom segment.prepared ps)) ∨
        (Form.parse segment = .error (.malformed (.braces segment)) ∧
          ¬∃ ps, Braced segment.prepared ps) ∨
        (∃ c ∈ (segment.prepared.withoutGroups.dropWhile isBlank).head?, isUnit c = false ∧
          Form.parse segment =
            .error (.malformed (.dangling c segment.prepared.withoutGroups))) ∨
        (Form.parse segment = .error .missingGroup ∧ placeholder ∈ segment)) := by
  refine ⟨Text.fold?_eq_ok (DigraphTable.lists_of_isPlain DigraphTable.isPlain_rules _), ?_⟩
  cases parsed : Form.parse segment with
  | ok form => exact Or.inl ⟨form, rfl, fun absent => ⟨_, isReadFrom_of_parse absent parsed⟩⟩
  | error e =>
    right
    rcases parse_error_cases parsed with ⟨rfl, stray⟩ | ⟨c, first, attached, rfl⟩ | ⟨rfl, foreign⟩
    · exact Or.inl ⟨rfl, stray⟩
    · exact Or.inr (Or.inl ⟨c, first, attached, rfl⟩)
    · exact Or.inr (Or.inr ⟨rfl, foreign⟩)

-- A group with a digraph, two marks and a digit on one slot, white space and braces around one
-- phoneme.
theorem parse_cases_of_groups :
    placeholder ∉ [' ', '{', 'p', 'k', 'h', '}', 'á', '\u0323', '₁', ' ', '{', 'e', '}', 'ø'] ∧
      ∃ form, Form.parse
          [' ', '{', 'p', 'k', 'h', '}', 'á', '\u0323', '₁', ' ', '{', 'e', '}', 'ø'] = .ok form ∧
        (∃ ps, form.IsReadFrom (Text.prepared
          [' ', '{', 'p', 'k', 'h', '}', 'á', '\u0323', '₁', ' ', '{', 'e', '}', 'ø']) ps) ∧
        form.groups = [['p', 'x']] ∧
        form.slots = [
          { symbol := .group ['p', 'x'] },
          { symbol := .literal 'a', mark := ['\u0323', '\u0301'], coindex := some 1 },
          { symbol := .literal 'e' }, { symbol := .deletion }] := by
  have absent : placeholder ∉
      [' ', '{', 'p', 'k', 'h', '}', 'á', '\u0323', '₁', ' ', '{', 'e', '}', 'ø'] := by decide
  have parsed : Form.parse
      [' ', '{', 'p', 'k', 'h', '}', 'á', '\u0323', '₁', ' ', '{', 'e', '}', 'ø'] = .ok {
        slots := [
          { symbol := .group ['p', 'x'] },
          { symbol := .literal 'a', mark := ['\u0323', '\u0301'], coindex := some 1 },
          { symbol := .literal 'e' }, { symbol := .deletion }],
        groups := [['p', 'x']] } := by
    apply eq_ok_of_toOption_eq_some
    decide +kernel
  refine ⟨absent, ?_⟩
  rcases (parse_cases
      [' ', '{', 'p', 'k', 'h', '}', 'á', '\u0323', '₁', ' ', '{', 'e', '}', 'ø']).2 with
    ⟨form, ok, reads⟩ | ⟨failed, _⟩ | ⟨c, _, _, failed⟩ | ⟨failed, _⟩
  · have same : form = _ := Except.ok.inj (ok.symm.trans parsed)
    exact ⟨form, ok, reads absent, by rw [same], by rw [same]⟩
  · exact absurd (failed.symm.trans parsed) (by simp)
  · exact absurd (failed.symm.trans parsed) (by simp)
  · exact absurd (failed.symm.trans parsed) (by simp)

/-- Of two subscript digits after one phoneme the first is lost: a slot has one coindex, and the
    second digit takes its place. -/
theorem parse_drops_first_digit :
    placeholder ∉ ['a', '₁', '₂'] ∧ '₁' ∈ Text.withoutGroups (Text.prepared ['a', '₁', '₂']) ∧
      subscriptValue? '₁' = some 1 ∧
      ∃ form, Form.parse ['a', '₁', '₂'] = .ok form ∧
        form.slots = [{ symbol := .literal 'a', coindex := some 2 }] ∧
        ∀ s ∈ form.slots, s.coindex ≠ some 1 := by
  refine ⟨by decide, by decide +kernel, rfl,
    { slots := [{ symbol := .literal 'a', coindex := some 2 }], groups := [] }, ?_, rfl, by simp⟩
  apply eq_ok_of_toOption_eq_some
  decide +kernel

end SoundLaw
