/-
  SoundLaw.Proofs.Substitution.WrittenMarks

  The marks of what a bound step writes. The letters that it writes have none, so that they are the
  marks of the literal or of the phoneme, and those of the slot of the new form (`marks_render`). A
  mark that comes from both of them is written twice.
-/
import SoundLaw.Proofs.Substitution.Coindex
import SoundLaw.Proofs.Text.CapitalMarks

namespace SoundLaw

/-! ## Capitals -/

/-- A capital keeps the marks of a text, but for the iota below its first letter. -/
theorem Text.marks_capitalize (t : Text) :
    (t.capitalize.marks.filter (· != subscriptIota)).Perm
      (t.marks.filter (· != subscriptIota)) := by
  have lasting (u : Text) : (u.marks.filter (· != subscriptIota)).Perm
      ((u.flatMap decompose).filter isLastingMark) := by
    refine ((Text.marks_perm u).filter _).trans (.of_eq ?_)
    rw [List.filter_filter]
    exact List.filter_congr fun c _ => Bool.and_comm _ _
  refine (lasting t.capitalize).trans (.trans (.of_eq ?_) (lasting t).symm)
  cases t with
  | nil => rfl
  | cons x rest =>
    rw [Text.capitalize, List.flatMap_append, List.flatMap_cons, List.filter_append,
      List.filter_append, filter_decompose_upperLetter]

/-! ## Letters -/

/-- Letters have no marks when digraphs of words are folded: each is kept, or is part of a digraph,
    whose stand-in is a letter. -/
theorem letters_of_fold? {t rendered : Text}
    (plain : ∀ c ∈ t, decompose c = [c] ∧ isMark c = false)
    (h : t.fold? DigraphTable.words = .ok rendered) :
    ∀ c ∈ rendered, decompose c = [c] ∧ isMark c = false := by
  have filled : ∀ d ∈ DigraphTable.words, d.1 ≠ [] := by decide
  have standIns : (DigraphTable.words.all fun d => d.2.all fun k =>
      decompose k == [k] && isMark k == false) = true := by decide +kernel
  rw [Text.fold?] at h
  split at h
  · exact absurd h (by simp)
  · next listed =>
    obtain rfl := Except.ok.inj h
    rw [fold_eq_flatMap_phoneme filled]
    intro c hc
    obtain ⟨g, hg, hc⟩ := List.mem_flatMap.1 hc
    rw [Grapheme.phoneme] at hc
    split at hc
    · next digraph =>
      -- The digraph is listed, so that its stand-in is one of the table.
      have found := List.findSome?_eq_none_iff.1 listed g hg
      cases standIn : DigraphTable.words.standIn? g.head with
      | none => simp [Grapheme.unlisted?, digraph, standIn] at found
      | some key =>
        rw [standIn, Option.getD_some] at hc
        obtain ⟨before, after, split, _⟩ := List.lookup_eq_some_iff.1 standIn
        have member : (g.head.lower, key) ∈ DigraphTable.words := by simp [split]
        have checked := List.all_eq_true.1 (List.all_eq_true.1 standIns _ member) c hc
        rwa [Bool.and_eq_true, beq_iff_eq, beq_iff_eq] at checked
    · refine plain c ?_
      rw [← flatMap_text_graphemes DigraphTable.words (fun _ => false) t, List.mem_flatMap]
      exact ⟨g, hg, List.mem_append_left g.trail hc⟩

/-- Letters have no marks in the spelling of a convention. -/
theorem Convention.letters_of_render {convention : Convention} {t rendered : Text}
    (plain : ∀ c ∈ t, decompose c = [c] ∧ isMark c = false)
    (h : convention.render t = .ok rendered) :
    ∀ c ∈ rendered, decompose c = [c] ∧ isMark c = false := by
  cases convention with
  | digraphs =>
    obtain rfl : t.spelledOut = rendered := Except.ok.inj h
    intro c hc
    obtain ⟨b, hb, hc⟩ := List.mem_flatMap.1 hc
    exact final_of_mem_spellOut (plain b hb).1 (plain b hb).2 c hc
  | single => exact letters_of_fold? plain h

/-- The letters that a bound step writes have no marks. -/
theorem Binding.marks_letters {b : Binding} {convention : Convention} {literal letters : Text}
    (h : b.letters convention literal = .ok letters) : letters.marks = [] := by
  rw [Binding.letters] at h
  split at h
  · next p _ =>
    obtain rfl := Except.ok.inj h
    exact marks_of_letters (letters_of_mem_base p.text)
  · exact marks_of_letters (Convention.letters_of_render (letters_of_mem_base literal) h)

/-- What is written after the letters has the marks of the whole. -/
theorem Binding.marks_letters_append {b : Binding} {convention : Convention}
    {literal letters : Text} (h : b.letters convention literal = .ok letters) (rest : Text) :
    (letters ++ rest).marks.Perm rest.marks := by
  refine (Text.marks_append letters rest).trans (.of_eq ?_)
  rw [Binding.marks_letters h, List.nil_append]

/-! ## Marks of a bound step -/

/-- Marks are no spacing forms. -/
theorem combining_of_marks {marks : Text} (marked : ∀ m ∈ marks, isMark m = true) :
    marks.combining = marks := by
  have forms : (spacingForms.all fun form => !isMark form.2) = true := by decide +kernel
  unfold Text.combining
  split
  · next s =>
    have none : spacingForms.find? (·.2 == s) = none := by
      refine List.find?_eq_none.2 fun form listed same => ?_
      have checked := List.all_eq_true.1 forms form listed
      rw [beq_iff_eq.1 same, marked s List.mem_cons_self] at checked
      exact absurd checked (by simp)
    rw [none, Option.map_none, Option.getD_none]
  · rfl

/-- Whether a mark stays if a bound step writes it. The iota below a letter becomes a letter in a
    capital. -/
def Binding.keepsMark (b : Binding) (m : Char) : Bool :=
  !b.phoneme.any Phoneme.isUpper || m != subscriptIota

theorem Binding.filter_keepsMark {b : Binding} {marks : Text}
    (noIota : b.phoneme.any Phoneme.isUpper = true → subscriptIota ∉ marks) :
    marks.filter b.keepsMark = marks := by
  refine List.filter_eq_self.2 fun m hm => ?_
  rw [Binding.keepsMark]
  cases capital : b.phoneme.any Phoneme.isUpper with
  | false => rfl
  | true => simpa using ne_of_mem_of_not_mem hm (noIota capital)

/-- A bound step keeps marks when it gives back a capital. -/
theorem Binding.marks_raised_perm (b : Binding) (t : Text) :
    ((Text.nfc (if b.phoneme.any Phoneme.isUpper then t.capitalize else t)).marks.filter
      b.keepsMark).Perm (t.marks.filter b.keepsMark) := by
  rw [Text.marks_nfc]
  cases capital : b.phoneme.any Phoneme.isUpper with
  | false => exact .of_eq rfl
  | true =>
    have keeps : b.keepsMark = (· != subscriptIota) := by
      funext m
      rw [Binding.keepsMark, capital, Bool.not_true, Bool.false_or]
    rw [keeps]
    exact Text.marks_capitalize t

/-- The marks of what a bound step writes, if the new form gives it marks. -/
theorem Binding.marks_render_perm {b : Binding} {captures : Captures} {convention : Convention}
    {literal letters : Text} (found : b.literal captures = .ok (some literal))
    (spelled : b.letters convention literal = .ok letters)
    (marked : ∀ m ∈ b.step.newMark, isMark m = true)
    (final : ∀ m ∈ b.step.newMark, decompose m = [m]) (filled : b.step.newMark ≠ [])
    (different : b.step.newMark ≠ b.step.oldMark) :
    ∃ rendered, b.render captures convention = .ok rendered ∧
      (rendered.marks.filter b.keepsMark).Perm
        (((b.writtenMarks literal).marks ++ b.step.newMark).filter b.keepsMark) := by
  refine ⟨_, Binding.render_eq_ok found spelled, ?_⟩
  have whole : (b.marked letters literal).marks.Perm
      ((b.writtenMarks literal).marks ++ b.step.newMark) := by
    rw [Binding.marked, if_neg (by simp [filled, different]), Text.withDiacritic, Text.marks_nfc,
      combining_of_marks marked]
    exact (Text.marks_append _ _).trans ((Binding.marks_letters_append spelled _).append
      (Text.marks_of_final_marks marked final))
  exact (b.marks_raised_perm (b.marked letters literal)).trans (whole.filter b.keepsMark)

/-- A text loses marks of vowels, and gets none. -/
theorem nodup_marks_withoutVowelMarks {marks : Text} (final : ∀ m ∈ marks, decompose m = [m])
    (once : marks.Nodup) : marks.withoutVowelMarks.marks.Nodup := by
  rw [Text.withoutVowelMarks, Text.marks_nfc]
  refine Text.nodup_marks (fun m hm => ?_) (.filter _ ?_)
  · exact decompose_eq_self_of_mem_nfd (List.mem_of_mem_filter hm)
  · refine (reorderMarks_perm _).nodup_iff.2 ?_
    rwa [flatMap_decompose_eq_self final]

/-- What a bound step writes without the marks of the new form has no mark twice, if neither the
    literal nor the phoneme has. -/
theorem Binding.nodup_writtenMarks {b : Binding} {literal : Text}
    (single : literal.literalMarks.Nodup)
    (own : ∀ p, b.phoneme = some p → p.marks.nfd = p.marks ∧ p.marks.Nodup) :
    (b.writtenMarks literal).marks.Nodup := by
  rw [Binding.writtenMarks]
  split
  · cases bound : b.phoneme with
    | none => exact List.nodup_nil
    | some p =>
      obtain ⟨decomposed, once⟩ := own p bound
      have final : ∀ m ∈ p.marks.filter fun m => !b.droppedMarks.contains m, decompose m = [m] :=
        fun m hm => decompose_eq_self_of_mem_nfd (decomposed ▸ List.mem_of_mem_filter hm)
      simp only [Binding.carriedMarks]
      split
      · exact Text.nodup_marks final (once.filter _)
      · exact nodup_marks_withoutVowelMarks final (once.filter _)
  · refine Text.nodup_marks (fun m hm => ?_) single
    exact decompose_eq_self_of_mem_nfd (List.mem_of_mem_filter hm)

/-! ## Matches -/

/-- The diacritic that a step puts on what it writes is decomposed. -/
theorem final_of_mem_newMark {notated : Text} {variants : List Variant}
    (compiled : compile notated = .ok variants) {v : Variant} (hv : v ∈ variants) {s : Step}
    (hs : s ∈ v.steps) : ∀ m ∈ s.newMark, decompose m = [m] := by
  obtain ⟨_, _, _, _, _, parsed, _, _, new, inForm, slots⟩ :=
    exists_slots_of_compile compiled hv hs
  exact fun m hm => final_of_mem_mark_of_parse parsed new inForm m (slots.newMark m hm)

/-- A step that gives marks to a literal writes them, together with those of the literal or of the
    phoneme; but for the iota below a letter that gets a capital. No mark is written twice exactly if
    the marks that it gives are none of the others. -/
theorem marks_render {notated : Text} {variants : List Variant}
    (compiled : compile notated = .ok variants) {v : Variant} (hv : v ∈ variants) (word : Text)
    (convention : Convention) {m : Match}
    (found : v.findMatch? (phonemes DigraphTable.rules word.nfc) = some m) {b : Binding}
    (hb : b ∈ m.bindings) {literal : Text} (writes : b.literal m.captures = .ok (some literal))
    (filled : b.step.newMark ≠ []) (different : b.step.newMark ≠ b.step.oldMark)
    (own : ∀ p ∈ phonemes DigraphTable.rules word.nfc, p.marks.Nodup)
    (single : literal.literalMarks.Nodup) (once : b.step.newMark.Nodup) :
    ∃ rendered, b.render m.captures convention = .ok rendered ∧
      (rendered.marks.filter b.keepsMark).Perm
        (((b.writtenMarks literal).marks ++ b.step.newMark).filter b.keepsMark) ∧
      (∀ c ∈ b.step.newMark, b.keepsMark c = true → c ∈ rendered.marks) ∧
      ((rendered.marks.filter b.keepsMark).Nodup ↔
        ∀ c ∈ b.step.newMark, b.keepsMark c = true → c ∉ (b.writtenMarks literal).marks) := by
  have binds := (binds_of_findMatch? found).2.2
  have wellFormed := wellFormed_of_compile compiled v hv
  have inRow : b.step ∈ v.steps := binds.row ▸ List.mem_map_of_mem hb
  obtain ⟨_, written, renderable⟩ := (isComplete_of_findMatch? wellFormed found).exists_literal hb
    (wellFormed.steps b.step inRow)
  obtain rfl := Except.ok.inj (writes.symm.trans written)
  obtain ⟨letters, spelled⟩ := b.exists_letters_eq_ok convention (renderable literal rfl)
  obtain ⟨rendered, renders, whole⟩ := Binding.marks_render_perm writes spelled
    (isMark_of_mem_newMark compiled hv inRow) (final_of_mem_newMark compiled hv inRow) filled
    different
  refine ⟨rendered, renders, whole, fun c hc keeps => ?_, ?_⟩
  · refine List.mem_of_mem_filter (whole.mem_iff.2 (List.mem_filter.2 ⟨?_, keeps⟩))
    exact List.mem_append_right _ hc
  · have others : (b.writtenMarks literal).marks.Nodup := by
      refine Binding.nodup_writtenMarks single fun p bound => ?_
      have inWord := List.mem_of_mem_drop (List.of_mem_zip (binds.mem_zip hb bound)).2
      exact ⟨nfd_marks_of_mem_phonemes inWord, own p inWord⟩
    rw [whole.nodup_iff, List.filter_append, List.nodup_append]
    simp only [List.mem_filter]
    constructor
    · rintro ⟨_, _, apart⟩ c hc keeps inOthers
      exact apart c ⟨inOthers, keeps⟩ c ⟨hc, keeps⟩ rfl
    · refine fun apart => ⟨others.filter _, once.filter _, ?_⟩
      rintro c ⟨inOthers, _⟩ _ ⟨hc, keeps⟩ rfl
      exact apart c hc keeps inOthers

-- The vowel has a capital and a dot below, and gets an acute.
theorem marks_render_of_capital_vowel :
    ∃ v m b rendered,
      compile ['[', 'a', ']', '>', '[', 'ó', ']'] = .ok [v] ∧
      v.findMatch? (phonemes DigraphTable.rules (Text.nfc ['Ạ'])) = some m ∧ b ∈ m.bindings ∧
      b.literal m.captures = .ok (some ['o']) ∧ b.step.newMark = ['\u0301'] ∧
      b.render m.captures .digraphs = .ok rendered ∧ '\u0301' ∈ rendered.marks ∧
      (rendered.marks.filter b.keepsMark).Nodup := by
  have compiled : compile ['[', 'a', ']', '>', '[', 'ó', ']'] = .ok [{
      steps := [{ find := [['a']], replace := [['o']], newMark := ['\u0301'] }] }] := by
    apply eq_ok_of_toOption_eq_some
    decide +kernel
  have found : Variant.findMatch?
      { steps := [{ find := [['a']], replace := [['o']], newMark := ['\u0301'] }] }
      (phonemes DigraphTable.rules (Text.nfc ['Ạ'])) = some {
        start := 0, stop := 1, captures := []
        bindings := [⟨{ find := [['a']], replace := [['o']], newMark := ['\u0301'] },
          some ⟨['Ạ'], ['a'], ['\u0323'], 0, 1⟩, 0⟩] } := by
    decide +kernel
  obtain ⟨rendered, renders, _, given, nodup⟩ := marks_render compiled List.mem_cons_self ['Ạ']
    .digraphs found List.mem_cons_self rfl (by decide) (by decide) (by decide +kernel)
    (by decide +kernel) (by decide)
  refine ⟨_, _, _, rendered, compiled, found, List.mem_cons_self, rfl, rfl, renders, ?_, ?_⟩
  · exact given '\u0301' List.mem_cons_self (by decide +kernel)
  · -- There is one new mark, and the vowel has only the dot.
    refine nodup.2 (List.forall_mem_singleton.2 fun _ => ?_)
    decide +kernel

/-- An acute is written twice if the phoneme has it already, and so it is if the literal of a group
    has. The iota below a capital is lost. -/
theorem mark_written_twice :
    (∃ v m b, compile ['[', 'a', ']', '>', '[', 'á', ']'] = .ok [v] ∧
        v.findMatch? (phonemes DigraphTable.rules (Text.nfc ['á'])) = some m ∧ b ∈ m.bindings ∧
        b.literal m.captures = .ok (some ['a']) ∧ b.step.newMark = ['\u0301'] ∧
        b.step.oldMark = [] ∧
        (phonemes DigraphTable.rules (Text.nfc ['á'])).map Phoneme.marks = [['\u0301']] ∧
        b.render m.captures .digraphs = .ok ['á', '\u0301'] ∧
        Text.marks ['á', '\u0301'] = ['\u0301', '\u0301']) ∧
      (∃ v m b, compile
          ['[', '{', 'a', ' ', 'e', '}', ']', '>', '[', '{', 'á', ' ', 'é', '}', '\u0301', ']'] =
            .ok [v] ∧
        v.findMatch? (phonemes DigraphTable.rules (Text.nfc ['a'])) = some m ∧ b ∈ m.bindings ∧
        b.literal m.captures = .ok (some ['á']) ∧ Text.literalMarks ['á'] = ['\u0301'] ∧
        b.step.newMark = ['\u0301'] ∧ b.step.oldMark = [] ∧
        b.render m.captures .digraphs = .ok ['á', '\u0301'] ∧
        Text.marks ['á', '\u0301'] = ['\u0301', '\u0301']) ∧
      ∃ v m b, compile ['[', 'α', ']', '>', '[', 'ᾳ', ']'] = .ok [v] ∧
        v.findMatch? (phonemes DigraphTable.rules (Text.nfc ['Α'])) = some m ∧ b ∈ m.bindings ∧
        b.literal m.captures = .ok (some ['α']) ∧ b.step.newMark = [subscriptIota] ∧
        b.step.oldMark = [] ∧ b.render m.captures .digraphs = .ok ['Α', 'Ι'] ∧
        Text.marks ['Α', 'Ι'] = [] := by
  refine ⟨⟨{ steps := [{ find := [['a']], replace := [['a']], newMark := ['\u0301'] }] }, {
      start := 0, stop := 1, captures := []
      bindings := [⟨{ find := [['a']], replace := [['a']], newMark := ['\u0301'] },
        some ⟨['á'], ['a'], ['\u0301'], 0, 1⟩, 0⟩] }, _, ?_, by decide +kernel,
    List.mem_cons_self, rfl, rfl, rfl, by decide +kernel, ?_, by decide +kernel⟩,
    ⟨{ steps := [{ find := [['a'], ['e']], replace := [['á'], ['é']], newMark := ['\u0301'] }] }, {
      start := 0, stop := 1, captures := []
      bindings := [⟨{ find := [['a'], ['e']], replace := [['á'], ['é']], newMark := ['\u0301'] },
        some ⟨['a'], ['a'], [], 0, 1⟩, 0⟩] }, _, ?_, by decide +kernel,
    List.mem_cons_self, rfl, by decide +kernel, rfl, rfl, ?_, by decide +kernel⟩,
    ⟨{ steps := [{ find := [['α']], replace := [['α']], newMark := [subscriptIota] }] }, {
      start := 0, stop := 1, captures := []
      bindings := [⟨{ find := [['α']], replace := [['α']], newMark := [subscriptIota] },
        some ⟨['Α'], ['α'], [], 0, 1⟩, 0⟩] }, _, ?_, by decide +kernel,
    List.mem_cons_self, rfl, rfl, rfl, ?_, by decide +kernel⟩⟩
  all_goals
    apply eq_ok_of_toOption_eq_some
    decide +kernel

end SoundLaw
