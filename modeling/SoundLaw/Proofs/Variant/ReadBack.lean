/-
  SoundLaw.Proofs.Variant.ReadBack

  Whether a literal that a rule writes is read back as the phoneme that it stands for. What is written
  is the base of the literal, spelled by a convention. A literal is made of a letter with marks, so
  that its base is this letter spelled out, and only finitely many spellings matter: a letter that
  stands in for nothing is a phoneme by itself, and of the digraphs each is checked.

  Two things go wrong (`literal_reads_back_iff`). A literal that has lost its digraph has a key that
  no phoneme has. And a literal is spelled out twice where the word follows digraphs, once when the
  rule is compiled and again when it is written: the digraph `ŋw` has itself a stand-in as a letter,
  and becomes `ngw`.
-/
import SoundLaw.Proofs.Spelling.Rendering
import SoundLaw.Proofs.Variant.LiteralKey
import SoundLaw.Proofs.Variant.WellFormed

namespace SoundLaw

/-! ## What a rule writes -/

/-- The literals that a step writes are those of a slot that has been parsed. -/
theorem exists_slot_of_mem_replace {notated : Text} {variants : List Variant}
    (compiled : compile notated = .ok variants) {v : Variant} (hv : v ∈ variants) {s : Step}
    (hs : s ∈ v.steps) {literal : Text} (written : literal ∈ s.replace) :
    ∃ segment form slot, Form.parse segment = .ok form ∧ slot ∈ form.slots ∧
      literal ∈ slot.symbol.literals := by
  obtain ⟨_, segment, _, form, _, parsed, _, _, new, inForm, slots⟩ :=
    exists_slots_of_compile compiled hv hs
  exact ⟨segment, form, new, parsed, inForm, slots.replace literal written⟩

/-- An alternative of a group is a character with marks. -/
theorem exists_marks_of_mem_alternativesFrom {o : Char} {opened t alternative : Text}
    (marked : ∀ m ∈ opened, isMark m = true) (h : alternative ∈ alternativesFrom (o :: opened) t) :
    ∃ c marks, alternative = c :: marks ∧ ∀ m ∈ marks, isMark m = true := by
  -- Along the text: only marks join the open alternative.
  induction t generalizing o opened with
  | nil =>
    rw [alternativesFrom, List.mem_singleton] at h
    exact ⟨o, opened, h, marked⟩
  | cons d t ih =>
    rw [alternativesFrom] at h
    split at h
    · exact ih marked h
    · split at h
      · next mark =>
        rw [List.cons_append] at h
        refine ih ?_ h
        intro m hm
        rcases List.mem_append.1 hm with before | last
        · exact marked m before
        · rw [List.mem_singleton.1 last, mark]
      · rcases List.mem_cons.1 h with rfl | h
        · exact ⟨o, opened, rfl, marked⟩
        · exact ih (List.forall_mem_nil _) h

/-- A literal is made of a character with marks, and all marks of it are written in the slot. -/
theorem Symbol.IsPrepared.exists_unit {symbol : Symbol} (h : symbol.IsPrepared) {literal : Text}
    (member : literal ∈ symbol.literals) :
    ∃ c marks, literal = Text.literal (c :: marks) ∧ decompose c = [c] ∧
      (∀ m ∈ marks, isMark m = true) ∧ ∀ m ∈ c :: marks, isMark m = true → m ∈ symbol.text := by
  cases symbol with
  | literal c =>
    rw [Symbol.literals, List.mem_singleton] at member
    exact ⟨c, [], member, h, by simp, fun _ hm _ => hm⟩
  | group content =>
    obtain ⟨alternative, inside, rfl⟩ := List.mem_map.1 member
    have final := (mem_alternatives inside).2
    rw [Text.alternatives] at inside
    split at inside
    · exact absurd inside (by simp)
    · obtain ⟨c, marks, rfl, marked⟩ := exists_marks_of_mem_alternativesFrom (by simp) inside
      exact ⟨c, marks, rfl, h.final c (final c List.mem_cons_self), marked, fun m hm _ => final m hm⟩
  | vowel =>
    have letters : ∀ literal ∈ vowelClass, literal.head?.any (fun c =>
        literal == Text.literal [c] && decompose c == [c] && !isMark c) = true := by decide +kernel
    obtain ⟨c, _, checked⟩ := (Option.any_eq_true _ _).1 (letters literal member)
    simp only [Bool.and_eq_true, beq_iff_eq, Bool.not_eq_true'] at checked
    obtain ⟨⟨whole, final⟩, letter⟩ := checked
    refine ⟨c, [], whole, final, by simp, fun m hm mark => ?_⟩
    rw [List.mem_singleton.1 hm, letter] at mark
    exact absurd mark (by simp)
  | wildcard => exact absurd member (by simp [Symbol.literals])
  | deletion => exact absurd member (by simp [Symbol.literals])

/-! ## Bases -/

/-- Marks without a letter are a literal of no phoneme. -/
theorem literal_of_marks {marks : Text} (marked : ∀ m ∈ marks, isMark m = true) :
    (Text.literal marks).base = [] ∧ (Text.literal marks).literalKey = [] := by
  have composed := isMark_of_mem_nfc marked
  have folded : Text.fold DigraphTable.rules marks.nfc = marks.nfc := by
    rw [← List.nil_append marks.nfc,
      fold_rules_append fun m hm => not_isBareLetter_of_isMark (composed m hm),
      fold_nil DigraphTable.ne_nil_rules]
  rw [Text.literalKey, Text.literal, spelledOut_of_marks marked, folded,
    base_of_marks_only composed]
  exact ⟨rfl, rfl⟩

/-- The letters of the digraphs are final. -/
theorem final_of_mem_words : ∀ d ∈ DigraphTable.words, ∀ k ∈ d.1,
    decompose k = [k] ∧ isMark k = false := by
  have each : (DigraphTable.words.all fun d => d.1.all fun k =>
      decompose k == [k] && isMark k == false) = true := by decide +kernel
  intro d hd k hk
  have checked := List.all_eq_true.1 (List.all_eq_true.1 each d hd) k hk
  rwa [Bool.and_eq_true, beq_iff_eq, beq_iff_eq] at checked

section Letters

variable {b : Char} (final : decompose b = [b]) (letter : isMark b = false)

include final letter

theorem final_of_mem_spellOut : ∀ k ∈ spellOut b, decompose k = [k] ∧ isMark k = false := by
  rcases spellOut_cases b with ⟨_, spelled⟩ | ⟨_, d, hd, _, spelled⟩
  · rw [spelled]
    exact List.forall_mem_singleton.2 ⟨final, letter⟩
  · rw [spelled]
    exact final_of_mem_words d hd

/-- The base of a literal is its letter, spelled out. -/
theorem base_literal {marks : Text} (marked : ∀ m ∈ marks, isMark m = true) :
    (Text.literal (b :: marks)).base = spellOut b := by
  have letters := final_of_mem_spellOut final letter
  have bare : ∀ k ∈ spellOut b, IsBareLetter k := by
    intro k hk
    exact ⟨(letters k hk).2, by rw [(letters k hk).1, List.length_singleton]⟩
  have whole : (Text.literal (b :: marks)).nfd = spellOut b ++ marks.nfd := by
    rw [literal_eq_nfc marked, Text.nfd_nfc, nfd_bareLetters_append bare,
      flatMap_decompose_eq_self fun k hk => (letters k hk).1]
  have own : (spellOut b).filter (fun c => !isMark c) = spellOut b := by
    rw [List.filter_eq_self]
    intro k hk
    simp [(letters k hk).2]
  have others : marks.nfd.filter (fun c => !isMark c) = [] := base_of_marks_only marked
  rw [Text.base, whole, List.filter_append, own, others, List.append_nil]

end Letters

/-! ## Reading -/

/-- A letter that does not decompose is a phoneme by itself. -/
theorem keys_of_letter {b : Char} (final : decompose b = [b]) (letter : isMark b = false) :
    Text.keys [b] = [Text.lower [b]] := by
  have unread : DigraphTable.rules.reach [b] = none :=
    DigraphTable.reach_singleton DigraphTable.two_le_length_rules b
  have base := (base_and_marks_singleton final letter).1
  have first : graphemes DigraphTable.rules isMark [b] = [Grapheme.single b] := by
    simp [graphemes_cons, firstGrapheme, afterFirst, DigraphTable.extent, unread, Grapheme.single]
  rw [Text.keys_eq, first, List.map_singleton,
    Grapheme.key_of_letter DigraphTable.ne_nil_rules rfl]
  show [(Text.base [b]).lower] = [Text.lower [b]]
  rw [base]

/-- A digraph of words that is one of rule notation is read as its stand-in in the single convention,
    and in that of digraphs unless it has a stand-in as a letter. In either convention, no key that
    is read has several letters. -/
theorem keys_words : ∀ d ∈ DigraphTable.words,
    (∀ k ∈ (d.1.fold DigraphTable.words).keys ++ d.1.spelledOut.keys, k.length = 1) ∧
      (d.1 ∈ DigraphTable.rules.map (·.1) →
        (d.1.fold DigraphTable.words).keys = [Text.lower d.2] ∧
          (d.1.spelledOut.keys = [Text.lower d.2] ↔ d.1 ≠ ['ŋ', 'w'])) := by
  decide +kernel

section Units

variable {b : Char} {marks : Text} (final : decompose b = [b]) (letter : isMark b = false)
  (marked : ∀ m ∈ marks, isMark m = true) (convention : Convention)

include final letter marked

/-- A literal of a letter is read back exactly if it keeps its digraph, and this is not spelled out
    once more. -/
theorem keys_spell_base_iff :
    (convention.spell (Text.literal (b :: marks)).base).keys =
        [(Text.literal (b :: marks)).literalKey] ↔
      (Text.literal (b :: marks)).literalKey.length = 1 ∧
        (convention = .digraphs → (Text.literal (b :: marks)).base ≠ ['ŋ', 'w']) := by
  rw [base_literal final letter marked]
  rcases spellOut_cases b with ⟨plain, spelled⟩ | ⟨isStandIn, d, hd, standIn, spelled⟩
  · -- The letter stands in for nothing, and is written as it is.
    have keeps : KeepsDigraph b marks := fun standIn => absurd (plain.symm.trans standIn) (by simp)
    have key := (literal_of_keepsDigraph final letter marked keeps).1
    have written : convention.spell [b] = [b] := by
      cases convention with
      | digraphs => simp [Convention.spell, Text.spelledOut, spelled]
      | single => exact fold_singleton (by decide) b
    rw [spelled, written, key, keys_of_letter final letter]
    simp [length_lower_of_final final]
  · obtain ⟨short, listed⟩ := keys_words d hd
    rw [spelled]
    by_cases keeps : KeepsDigraph b marks
    · -- The key is the stand-in, and the digraph is one of rule notation.
      have key := (literal_of_keepsDigraph final letter marked keeps).1
      obtain ⟨single, digraphs⟩ := listed (spelled ▸ (keeps isStandIn).1)
      rw [standIn] at single digraphs
      rw [key]
      cases convention with
      | digraphs => simp [Convention.spell, digraphs, length_lower_of_final final]
      | single => simp [Convention.spell, single, length_lower_of_final final]
    · -- No phoneme has the key, whatever is written.
      have two := (literalKey_of_not_keepsDigraph final letter marked keeps).1
      constructor
      · intro same
        have one : (Text.literal (b :: marks)).literalKey.length = 1 := by
          apply short
          cases convention with
          | digraphs => exact List.mem_append_right _ (same ▸ List.mem_singleton.2 rfl)
          | single => exact List.mem_append_left _ (same ▸ List.mem_singleton.2 rfl)
        omega
      · intro readable
        omega

end Units

theorem isRenderable_spellOut {b : Char} (final : decompose b = [b]) :
    (spellOut b).IsRenderable :=
  Or.inr fun _ hd => isLongS_of_mem_spellOut final hd

/-- Whatever a rule writes can be spelled by either convention and be read again. It is read back as
    the one phoneme that the literal stands for exactly if the key of the literal is a single
    letter, and if its base is not the digraph `ŋw` in the convention of digraphs. -/
theorem literal_reads_back_iff {notated : Text} {variants : List Variant}
    (compiled : compile notated = .ok variants) {v : Variant} (hv : v ∈ variants) {s : Step}
    (hs : s ∈ v.steps) {literal : Text} (written : literal ∈ s.replace) (convention : Convention) :
    ∃ rendered ps, convention.render literal.base = .ok rendered ∧
      phonemes? DigraphTable.rules rendered = .ok ps ∧
      ((∃ p, ps = [p] ∧ p.key = literal.literalKey) ↔
        literal.literalKey.length = 1 ∧ (convention = .digraphs → literal.base ≠ ['ŋ', 'w'])) := by
  obtain ⟨segment, form, slot, parsed, hslot, member⟩ := exists_slot_of_mem_replace compiled hv hs
    written
  obtain ⟨c, marks, rfl, final, marked, _⟩ :=
    (isPrepared_of_parse parsed slot hslot).exists_unit member
  have keys : ∀ (ps : List Phoneme) (key : Text),
      (∃ p, ps = [p] ∧ p.key = key) ↔ ps.map Phoneme.key = [key] := by
    intro ps key
    rw [List.map_eq_singleton_iff]
  have renderable : (Text.literal (c :: marks)).base.IsRenderable := by
    cases mark : isMark c with
    | false => exact base_literal final mark marked ▸ isRenderable_spellOut final
    | true =>
      rw [(literal_of_marks (List.forall_mem_cons.2 ⟨mark, marked⟩)).1]
      exact Or.inl (Nat.zero_le 1)
  refine ⟨_, _, convention.render_eq_ok renderable, phonemes?_eq_ok DigraphTable.isPlain_rules _, ?_⟩
  rw [keys]
  cases mark : isMark c with
  | false => exact keys_spell_base_iff final mark marked convention
  | true =>
    -- Marks without a letter have no base, and are not read as any phoneme.
    obtain ⟨base, key⟩ := literal_of_marks (List.forall_mem_cons.2 ⟨mark, marked⟩)
    rw [base, key]
    have nothing : ∀ convention : Convention, convention.spell [] = [] := by
      intro convention
      cases convention with
      | digraphs => rfl
      | single => decide +kernel
    simp [nothing, phonemes, phonemesFrom]

-- The digraph `th` is read back from the stand-in that replaces it.
theorem literal_reads_back_iff_of_fricative :
    ∃ variants v s, compile ['[', 't', ']', '>', '[', 't', 'h', ']'] = .ok variants ∧
      v ∈ variants ∧ s ∈ v.steps ∧ ['t', 'h'] ∈ s.replace ∧
      ∃ rendered p, Convention.single.render (Text.base ['t', 'h']) = .ok rendered ∧
        phonemes? DigraphTable.rules rendered = .ok [p] ∧ p.key = ['θ'] := by
  have compiled : compile ['[', 't', ']', '>', '[', 't', 'h', ']'] =
      .ok [{ steps := [{ find := [['t']], replace := [['t', 'h']] }] }] := by
    apply eq_ok_of_toOption_eq_some
    decide +kernel
  have key : Text.literalKey ['t', 'h'] = ['θ'] := by decide +kernel
  obtain ⟨rendered, ps, spelled, read, back⟩ := literal_reads_back_iff compiled
    List.mem_cons_self List.mem_cons_self (List.mem_cons_self (a := ['t', 'h'])) .single
  obtain ⟨p, rfl, same⟩ := back.2 ⟨by rw [key]; rfl, by simp⟩
  exact ⟨_, _, _, compiled, List.mem_cons_self, List.mem_cons_self, List.mem_cons_self, rendered, p,
    spelled, read, same.trans key⟩

/-- The digraph `ŋw` is written `ngw` by the convention of digraphs, and read as two phonemes. -/
theorem literal_is_spelled_out_twice :
    ∃ variants v s, compile ['[', 'k', ']', '>', '[', 'ŋ', 'w', ']'] = .ok variants ∧
      v ∈ variants ∧ s ∈ v.steps ∧ ['ŋ', 'w'] ∈ s.replace ∧
      Text.literalKey ['ŋ', 'w'] = ['ꞑ'] ∧
      Convention.digraphs.render (Text.base ['ŋ', 'w']) = .ok ['n', 'g', 'w'] ∧
      (phonemes? DigraphTable.rules ['n', 'g', 'w']).toOption.map (·.map Phoneme.key) =
        some [['ŋ'], ['w']] := by
  have compiled : compile ['[', 'k', ']', '>', '[', 'ŋ', 'w', ']'] =
      .ok [{ steps := [{ find := [['k']], replace := [['ŋ', 'w']] }] }] := by
    apply eq_ok_of_toOption_eq_some
    decide +kernel
  have spelled : Convention.digraphs.render (Text.base ['ŋ', 'w']) = .ok ['n', 'g', 'w'] := by
    apply eq_ok_of_toOption_eq_some
    decide +kernel
  exact ⟨_, _, _, compiled, List.mem_cons_self, List.mem_cons_self, List.mem_cons_self,
    by decide +kernel, spelled, by decide +kernel⟩

end SoundLaw
