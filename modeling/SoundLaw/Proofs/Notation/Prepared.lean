/-
  SoundLaw.Proofs.Notation.Prepared

  What the slots of a parsed segment are made of. The segment is decomposed before it is read, so
  that no character of a literal, of a group or of its marks decomposes any further; and braces
  around less than two phonemes are dropped, so that a group has several. All of this holds of every
  form that `Form.parse` gives (`isPrepared_of_parse`, `final_of_mem_mark_of_parse`).
-/
import SoundLaw.Proofs.Notation.Reading
import SoundLaw.Proofs.Text.NormalForm

namespace SoundLaw

/-! ## Groups -/

/-- The content of a group: several phonemes, in characters that do not decompose. -/
structure Text.IsGroup (content : Text) : Prop where
  several : 1 < content.countUnits
  final : ∀ c ∈ content, decompose c = [c]

/-- The characters of a piece are those of the segment. -/
theorem mem_of_mem_pieces {t : Text} {piece : Piece} (h : piece ∈ pieces t) :
    ∀ c ∈ piece.text, c ∈ t := by
  intro c hc
  rw [← flatMap_text_pieces t, List.mem_flatMap]
  exact ⟨piece, h, hc⟩

theorem mem_of_mem_braced {t content : Text} (h : Piece.braced content ∈ pieces t) :
    ∀ c ∈ content, c ∈ t :=
  fun c hc => mem_of_mem_pieces h c (List.mem_cons_of_mem '{' (List.mem_append_left ['}'] hc))

/-- A group is what stands between braces, if it has several phonemes. -/
theorem mem_groups_iff {t content : Text} :
    content ∈ t.groups ↔ Piece.braced content ∈ pieces t ∧ 1 < content.countUnits := by
  rw [Text.groups, List.mem_filterMap]
  constructor
  · rintro ⟨piece, member, taken⟩
    cases piece with
    | plain c => exact absurd taken (by simp)
    | braced inside =>
      obtain ⟨several, same⟩ := Option.ite_none_right_eq_some.1 taken
      obtain rfl := Option.some.inj same
      exact ⟨member, several⟩
  · rintro ⟨member, several⟩
    exact ⟨_, member, if_pos several⟩

/-- Where groups give way to placeholders, a segment keeps what is not between braces, and what
    they have around a single phoneme. -/
theorem mem_withoutGroups_iff {t : Text} {c : Char} :
    c ∈ t.withoutGroups ↔ Piece.plain c ∈ pieces t ∨
      ∃ content, Piece.braced content ∈ pieces t ∧
        if 1 < content.countUnits then c = placeholder else c ∈ content := by
  have between (content : Text) :
      (c ∈ if 1 < content.countUnits then [placeholder] else content) ↔
        if 1 < content.countUnits then c = placeholder else c ∈ content := by
    split
    · exact List.mem_singleton
    · exact Iff.rfl
  rw [Text.withoutGroups, List.mem_flatMap]
  constructor
  · rintro ⟨piece, member, hc⟩
    cases piece with
    | plain d => exact .inl (List.mem_singleton.1 hc ▸ member)
    | braced content => exact .inr ⟨content, member, (between content).1 hc⟩
  · rintro (plain | ⟨content, member, hc⟩)
    · exact ⟨_, plain, List.mem_singleton_self c⟩
    · exact ⟨_, member, (between content).2 hc⟩

theorem isGroup_of_mem_groups {t content : Text} (final : ∀ c ∈ t, decompose c = [c])
    (h : content ∈ t.groups) : content.IsGroup := by
  obtain ⟨member, several⟩ := mem_groups_iff.1 h
  exact ⟨several, fun c hc => final c (mem_of_mem_braced member c hc)⟩

theorem final_of_mem_withoutGroups {t : Text} (final : ∀ c ∈ t, decompose c = [c]) {c : Char}
    (h : c ∈ t.withoutGroups) : decompose c = [c] := by
  rcases mem_withoutGroups_iff.1 h with plain | ⟨content, member, hc⟩
  · exact final c (mem_of_mem_pieces plain c (List.mem_singleton_self c))
  · split at hc
    · -- The placeholder itself does not decompose.
      rw [hc]
      decide +kernel
    · exact final c (mem_of_mem_braced member c hc)

/-! ## Slots -/

/-- What a symbol is made of, after a segment has been prepared. -/
def Symbol.IsPrepared : Symbol → Prop
  | literal c => decompose c = [c]
  | group content => content.IsGroup
  | vowel | wildcard | deletion => True

/-- The slots of a text are prepared if its characters and the groups are. -/
theorem ReadsAs.isPrepared {t : Text} {groups : List Text} {slots : List Slot}
    (h : ReadsAs t groups slots) (final : ∀ c ∈ t, decompose c = [c])
    (grouped : ∀ content ∈ groups, content.IsGroup) : ∀ s ∈ slots, s.symbol.IsPrepared := by
  induction h with
  | nil => simp
  | @cons s row t groups slots here later ih =>
    obtain ⟨inRow, inRest⟩ := List.forall_mem_append.1 final
    obtain ⟨taken, left⟩ := List.forall_mem_append.1 grouped
    refine List.forall_mem_cons.2 ⟨?_, ih inRest left⟩
    have opens := here.symbol
    cases opened : s.symbol with
    | literal c =>
      rw [opened] at opens
      exact opens.1 ▸ inRow row.phoneme List.mem_cons_self
    | group content => exact taken content (by simp [opened, Symbol.content?])
    | _ => trivial

/-- A segment is decomposed when its slots are read. -/
theorem final_of_mem_dropWhile_withoutGroups (segment : Text) :
    ∀ c ∈ segment.prepared.withoutGroups.dropWhile isBlank, decompose c = [c] := by
  intro c hc
  refine final_of_mem_withoutGroups (fun d hd => ?_) ((List.dropWhile_suffix isBlank).subset hc)
  exact decompose_eq_self_of_mem_nfd hd

/-- The slots of a parsed segment are prepared. -/
theorem isPrepared_of_parse {segment : Text} {form : Form} (h : Form.parse segment = .ok form) :
    ∀ s ∈ form.slots, s.symbol.IsPrepared := by
  obtain ⟨_, read, _⟩ := read_of_parse h
  refine (readsAs_of_segmentSlots read).isPrepared (final_of_mem_dropWhile_withoutGroups segment)
    fun content hc => isGroup_of_mem_groups (fun c hc => ?_) hc
  exact decompose_eq_self_of_mem_nfd hc

/-- The marks of the slots of a parsed segment do not decompose. -/
theorem final_of_mem_mark_of_parse {segment : Text} {form : Form}
    (h : Form.parse segment = .ok form) : ∀ s ∈ form.slots, ∀ m ∈ s.mark, decompose m = [m] := by
  intro s hs m hm
  obtain ⟨_, read, _⟩ := read_of_parse h
  refine final_of_mem_dropWhile_withoutGroups segment m ?_
  exact ((readsAs_of_segmentSlots read).isMark_of_mem_mark s hs m hm).1

end SoundLaw
