/-
  SoundLaw.Proofs.Substitution.Coindex

  What a step writes that has a coindex in the new form: the letters of the captured key, with the
  marks that go over to them, and a capital in place of a capital. It is read back as one phoneme
  with this key, except in two cases (`render_coindexed`). A mark can join the last letter of a
  digraph, as in `tḥ`; and a capital can have two letters, as that of `ß` has.
-/
import SoundLaw.Proofs.Match.Fitting
import SoundLaw.Proofs.Phoneme.Capitals
import SoundLaw.Proofs.Substitution.Total

namespace SoundLaw

/-! ## Letters of a key -/

/-- How letters spell a key: it is empty, or it is the lower case of a letter or the stand-in of a
    digraph. -/
inductive SpellsKey (key : Text) : Text → Prop
  | nothing (empty : key = []) : SpellsKey key []
  | letter {c : Char} (plain : isMark c = false) (final : decompose c = [c])
      (small : Text.lower [c] = key) : SpellsKey key [c]
  | digraph {d : Text × Text} {letters : Text} (listed : d ∈ DigraphTable.rules)
      (standIn : d.2 = key) (opening : DigraphTable.opens d.1 letters = true)
      (length : letters.length = d.1.length) (final : ∀ c ∈ letters, decompose c = [c]) :
      SpellsKey key letters

/-- In a composed word, the letters of a digraph do not decompose, and they spell its stand-in. -/
theorem spellsKey_firstGrapheme_of_reach {word before t : Text} {c : Char}
    (whole : before ++ c :: t = word.nfc) {n : Nat}
    (reached : DigraphTable.rules.reach (c :: t) = some n) :
    SpellsKey ((firstGrapheme DigraphTable.rules c t).key DigraphTable.rules)
      (firstGrapheme DigraphTable.rules c t).text.base := by
  obtain ⟨digraph, head⟩ := firstGrapheme_of_reach reached
  have bare := isBareLetter_of_reach reached
  obtain ⟨⟨d, hd, opening, rfl⟩, _⟩ := DigraphTable.reach_eq_some_iff.1 reached
  have listed := (DigraphTable.mem_of_mem_readable hd).1
  have length : ((c :: t).take d.1.length).length = d.1.length := by
    rw [List.length_take, Nat.min_eq_left (DigraphTable.length_le_of_opens opening)]
  have opens : DigraphTable.opens d.1 ((c :: t).take d.1.length) = true :=
    (DigraphTable.opens_iff_append ((c :: t).drop d.1.length)).2
      ⟨by rwa [List.take_append_drop], Nat.le_of_eq length.symm⟩
  have final : ∀ x ∈ (c :: t).take d.1.length, decompose x = [x] := by
    intro x hx
    have inWord : x ∈ word.nfc := whole ▸ List.mem_append_right before (List.mem_of_mem_take hx)
    exact decompose_eq_self_of_mem_nfc inWord (bare x hx).2
  have decomposed : (firstGrapheme DigraphTable.rules c t).text.nfd = (c :: t).take d.1.length ++
      (firstGrapheme DigraphTable.rules c t).trail.nfd := by
    rw [Grapheme.text, head, nfd_bareLetters_append bare, flatMap_decompose_eq_self final]
  have base := (base_and_marks_of_nfd_eq_append decomposed (fun x hx => (bare x hx).1)
    (isMark_of_mem_nfd (isMark_of_mem_trail DigraphTable.rules c t))).1
  have key : (firstGrapheme DigraphTable.rules c t).key DigraphTable.rules = d.2 := by
    rw [Grapheme.key, if_pos digraph, Grapheme.phoneme, if_pos digraph, head,
      standIn?_of_opens listed opens length, Option.getD_some]
  rw [base]
  exact .digraph listed key.symm opens length final

/-- A letter that is read by itself spells its own lower case. -/
theorem spellsKey_firstGrapheme_of_letter {t : Text} {c : Char}
    (short : ((firstGrapheme DigraphTable.rules c t).key DigraphTable.rules).IsLetterKey)
    (letter : (firstGrapheme DigraphTable.rules c t).isDigraph = false) :
    SpellsKey ((firstGrapheme DigraphTable.rules c t).key DigraphTable.rules)
      (firstGrapheme DigraphTable.rules c t).text.base := by
  obtain ⟨letters, marks, decomposed, lettered, marked, shape⟩ :=
    exists_nfd_text_firstGrapheme DigraphTable.sharesLetters_rules c t
  have base := (base_and_marks_of_nfd_eq_append decomposed lettered marked).1
  rw [Grapheme.key_of_letter DigraphTable.ne_nil_rules letter, base] at short ⊢
  rcases shape letter with rfl | ⟨b, rfl⟩ | ⟨several, page⟩
  · exact .nothing rfl
  · have final : decompose b = [b] := decompose_eq_self_of_mem_nfd
      (decomposed ▸ List.mem_append_left marks List.mem_cons_self)
    exact .letter (lettered b List.mem_cons_self) final rfl
  · -- A Hangul syllable has a key of several letters.
    rw [lower_of_hangulPage page] at short
    rcases short with empty | ⟨k, single, _⟩
    · rw [empty] at several
      exact absurd several (by simp)
    · rw [single] at several
      exact absurd several (by simp)

/-- The letters of a phoneme spell its key. -/
theorem spellsKey_base {word : Text} {p : Phoneme} (hp : p ∈ phonemes DigraphTable.rules word.nfc)
    (short : p.key.IsLetterKey) : SpellsKey p.key p.text.base := by
  obtain ⟨before, c, t, whole, _, rfl⟩ :=
    exists_firstGrapheme_of_mem DigraphTable.rules [] word.nfc p hp
  cases reached : DigraphTable.rules.reach (c :: t) with
  | some n => exact spellsKey_firstGrapheme_of_reach whole reached
  | none =>
    exact spellsKey_firstGrapheme_of_letter short (firstGrapheme_of_reach_eq_none reached).1

/-- A key is spelled by either convention, unless it is the long `ſ`, whose digraph is none of rule
    notation. -/
theorem exists_render_eq_ok_spellsKey (convention : Convention) {key : Text}
    (short : key.IsLetterKey) (listed : key ≠ ['ſ']) :
    ∃ letters, convention.render key = .ok letters ∧ SpellsKey key letters := by
  rcases short with rfl | ⟨k, rfl, letter, final, small⟩
  · refine ⟨[], ?_, .nothing rfl⟩
    cases convention with
    | digraphs => rfl
    | single =>
      apply eq_ok_of_toOption_eq_some
      decide +kernel
  · have single : SpellsKey [k] [k] := .letter letter final small
    rw [convention.render_eq_ok (t := [k]) (Or.inl (Nat.le_refl 1))]
    cases convention with
    | single => exact ⟨[k], congrArg Except.ok (fold_singleton (by decide) k), single⟩
    | digraphs =>
      have spelled : Convention.digraphs.spell [k] = spellOut k := by
        simp [Convention.spell, Text.spelledOut]
      rw [spelled]
      rcases spellOut_cases k with ⟨_, same⟩ | ⟨_, d, hd, standIn, same⟩
      · exact ⟨[k], by rw [same], single⟩
      · have others : (DigraphTable.words.all fun d => d.1 != ['s', 's'] || d.2 == ['ſ']) = true := by
          decide
        have member := List.all_eq_true.1 others d hd
        rw [standIn, beq_eq_false_iff_ne.2 listed, Bool.or_false] at member
        refine ⟨d.1, by rw [same], .digraph (List.mem_filter.2 ⟨hd, member⟩) standIn
          (DigraphTable.opens_self d.1) rfl fun c hc => (final_of_mem_words d hd c hc).1⟩

/-! ## Marks -/

/-- The mark that a mark is the spacing form of, or else the mark itself. -/
theorem isMark_of_mem_combining {marks : Text} (marked : ∀ m ∈ marks, isMark m = true) :
    ∀ m ∈ marks.combining, isMark m = true := by
  unfold Text.combining
  split
  · next s =>
    intro m hm
    rw [List.mem_singleton.1 hm]
    cases found : spacingForms.find? (·.2 == s) with
    | none => exact marked s List.mem_cons_self
    | some form =>
      have forms : (spacingForms.all fun form => isMark form.1) = true := by decide +kernel
      exact List.all_eq_true.1 forms form (List.mem_of_find?_eq_some found)
  · exact marked

section Marks

variable {b : Binding} (own : ∀ p, b.phoneme = some p → ∀ m ∈ p.marks, isMark m = true)
  {literal : Text} (bare : literal.literalMarks = [])

include own bare

/-- For a literal without marks, only marks of the phoneme are written. -/
theorem isMark_of_mem_writtenMarks : ∀ m ∈ b.writtenMarks literal, isMark m = true := by
  rw [Binding.writtenMarks, bare, List.isEmpty_nil, if_pos rfl]
  cases bound : b.phoneme with
  | none => simp
  | some p =>
    have carried : ∀ m ∈ p.marks.filter fun m => !b.droppedMarks.contains m, isMark m = true :=
      fun m hm => own p bound m (List.mem_of_mem_filter hm)
    simp only [Binding.carriedMarks]
    split
    · exact carried
    · exact isMark_of_mem_nfc fun m hm => isMark_of_mem_nfd carried m (List.mem_of_mem_filter hm)

end Marks

/-- What a bound step writes for a literal before it gives back a capital. -/
def Binding.marked (b : Binding) (letters literal : Text) : Text :=
  let written := letters ++ b.writtenMarks literal
  if b.step.newMark.isEmpty || b.step.newMark == b.step.oldMark then written
  else written.withDiacritic b.step.newMark

theorem Binding.marked_cases {b : Binding} (letters : Text) {literal : Text}
    (written : ∀ m ∈ b.writtenMarks literal, isMark m = true)
    (diacritic : ∀ m ∈ b.step.newMark, isMark m = true) :
    ∃ marks, (∀ m ∈ marks, isMark m = true) ∧ (b.marked letters literal = letters ++ marks ∨
      b.marked letters literal = Text.nfc (letters ++ marks)) := by
  rw [Binding.marked]
  split
  · exact ⟨b.writtenMarks literal, written, Or.inl rfl⟩
  · refine ⟨b.writtenMarks literal ++ b.step.newMark.combining,
      List.forall_mem_append.2 ⟨written, isMark_of_mem_combining diacritic⟩, Or.inr ?_⟩
    rw [Text.withDiacritic, List.append_assoc]

theorem Binding.render_eq_ok {b : Binding} {captures : Captures} {convention : Convention}
    {literal letters : Text} (found : b.literal captures = .ok (some literal))
    (spelled : b.letters convention literal = .ok letters) :
    b.render captures convention = .ok (Text.nfc (if b.phoneme.any Phoneme.isUpper
      then (b.marked letters literal).capitalize else b.marked letters literal)) := by
  rw [Binding.render, found]
  simp only [bind, Except.bind, spelled]
  rfl

/-! ## Reading -/

/-- A character with marks is read as one phoneme, unless its capital is not. -/
theorem keys_raised_iff {x : Char} {rest : Text} (free : hangulLetters? x = none)
    (marked : ∀ m ∈ rest, isMark m = true) (capital : Bool) :
    (Text.nfc (if capital then Text.capitalize (x :: rest) else x :: rest)).keys =
        [(Text.base [x]).lower] ↔
      (capital = true → (upperLetter x).keys = [(Text.base [x]).lower]) := by
  cases capital with
  | false => simp [keys_nfc_cons_marks marked free]
  | true => simp [Text.capitalize, keys_nfc_upperLetter_append free marked]

/-- Where a text begins with letters and goes on with what the last letter and marks compose to, it
    begins with all the letters exactly if no mark has joined the last one. -/
theorem prefix_nfc_iff {first last : Char} {others marks t : Text}
    (whole : t.nfc = first :: others ++ Text.nfc (last :: marks)) :
    first :: others ++ [last] <+: t.nfc ↔ (Text.nfc (last :: marks)).head? = some last := by
  rw [whole, List.prefix_append_right_inj]
  cases Text.nfc (last :: marks) <;> simp [List.cons_prefix_cons, eq_comm]

/-- A digraph with marks is read as its stand-in, whether it has a capital or not, unless a mark
    joins its last letter. -/
theorem keys_raised_digraph_iff {d : Text × Text} (hd : d ∈ DigraphTable.rules) {letters : Text}
    (opening : DigraphTable.opens d.1 letters = true) (length : letters.length = d.1.length)
    (final : ∀ c ∈ letters, decompose c = [c]) {marks t : Text}
    (marked : ∀ m ∈ marks, isMark m = true)
    (written : t = letters ++ marks ∨ t = (letters ++ marks).nfc) (capital : Bool) :
    (Text.nfc (if capital then t.capitalize else t)).keys = [d.2] ↔ letters <+: t.nfc := by
  have simple := isSimpleLetter_of_opens hd opening length final
  -- The last letter stands after others, of which the first one may have a capital.
  obtain ⟨first, others, last, rfl⟩ :=
    exists_first_last (length ▸ DigraphTable.two_le_length_rules d hd)
  have simpleFirst := simple first (by simp)
  obtain ⟨u, raised, opensRaised, simpleRaised⟩ :=
    exists_capitalize_of_opens hd opening simpleFirst.final
  have raisedLetters : ∀ c ∈ u :: others ++ [last], IsSimpleLetter c :=
    List.forall_mem_cons.2 ⟨simpleRaised, fun c hc => simple c (List.mem_cons_of_mem first hc)⟩
  have composed := nfc_simpleLetters_last simple marks
  rw [List.append_assoc, List.singleton_append] at written
  have whole : t.nfc = Text.nfc (first :: others ++ last :: marks) := by
    rcases written with rfl | rfl
    · rfl
    · rw [Text.nfc_nfc]
  rw [prefix_nfc_iff (whole.trans composed)]
  cases capital with
  | false =>
    rw [if_neg (by simp), whole]
    exact keys_nfc_of_opens hd opening length simple marked
  | true =>
    have capitalized : Text.nfc t.capitalize = Text.nfc (u :: others ++ last :: marks) := by
      rcases written with rfl | rfl
      · rw [List.cons_append, Text.capitalize, raised]
        rfl
      · rw [composed, List.cons_append, Text.capitalize, raised, List.singleton_append,
          ← List.cons_append, ← nfc_simpleLetters_last raisedLetters, Text.nfc_nfc]
    rw [if_pos rfl, capitalized]
    exact keys_nfc_of_opens hd opensRaised (by simpa using length) raisedLetters marked

/-! ## Bound steps -/

/-- Whether a bound step that spells a key with these letters writes it. The marks leave a digraph
    as it is spelled; and where a single character gets a capital, this is read as the key. -/
def Binding.KeepsKey (b : Binding) (key letters : Text) : Prop :=
  if 1 < letters.length then letters <+: (b.marked letters key).nfc
  else ∃ x ∈ (b.marked letters key).head?,
    b.phoneme.any Phoneme.isUpper = true → (upperLetter x).keys = [key]

theorem keys_marked_iff {b : Binding} {key letters : Text} (spells : SpellsKey key letters)
    (written : ∀ m ∈ b.writtenMarks key, isMark m = true)
    (diacritic : ∀ m ∈ b.step.newMark, isMark m = true) (capital : Bool)
    (raised : b.phoneme.any Phoneme.isUpper = capital) :
    (Text.nfc (if capital then (b.marked letters key).capitalize else b.marked letters key)).keys =
      [key] ↔ b.KeepsKey key letters := by
  obtain ⟨marks, marked, parts⟩ := Binding.marked_cases letters written diacritic
  rw [Binding.KeepsKey, raised]
  -- All but the digraphs: what is written is one character with marks, if it is anything.
  have one {x : Char} {rest : Text} (free : hangulLetters? x = none)
      (restMarked : ∀ m ∈ rest, isMark m = true) (base : (Text.base [x]).lower = key) :
      (Text.nfc (if capital then Text.capitalize (x :: rest) else x :: rest)).keys = [key] ↔
        ∃ y ∈ (x :: rest).head?, capital = true → (upperLetter y).keys = [key] := by
    have read := keys_raised_iff free restMarked capital
    rw [base] at read
    simpa using read
  generalize b.marked letters key = t at parts ⊢
  cases spells with
  | nothing empty =>
    rw [if_neg (show ¬1 < ([] : Text).length by simp)]
    have allMarks : ∀ m ∈ t, isMark m = true := by
      rcases parts with rfl | rfl
      · exact marked
      · exact isMark_of_mem_nfc marked
    cases t with
    | nil => cases capital <;> simp [Text.capitalize, Text.keys, phonemes, phonemesFrom]
    | cons x rest =>
      obtain ⟨mark, restMarked⟩ := List.forall_mem_cons.1 allMarks
      refine one (hangulLetters?_eq_none_of_isMark mark) restMarked ?_
      rw [base_of_marks_only (List.forall_mem_singleton.2 mark), empty, Text.lower_nil]
  | @letter c plain final small =>
    rw [if_neg (show ¬1 < [c].length by simp)]
    have base := (base_and_marks_singleton final plain).1
    have free := hangulLetters?_eq_none_of_nfd (nfd_cons_of_final final plain []) (by simp)
    rcases parts with rfl | rfl
    · exact one free marked (by rw [base, small])
    · obtain ⟨x, rest, composed, _, xFree, same, restMarked⟩ := exists_nfc_eq_cons_marks marked free
      rw [List.singleton_append, composed]
      exact one xFree restMarked (by rw [same, base, small])
  | @digraph d letters listed standIn opening length final =>
    have several := DigraphTable.two_le_length_rules d listed
    rw [if_pos (show 1 < letters.length by omega), ← standIn]
    exact keys_raised_digraph_iff listed opening length final marked parts capital

/-- Letters that spell a key are there for every phoneme that the key replaces. -/
theorem Binding.exists_letters_spellsKey {b : Binding} {word : Text}
    (inWord : ∀ p, b.phoneme = some p → p ∈ phonemes DigraphTable.rules word.nfc) {key : Text}
    (short : key.IsLetterKey) (listed : key ≠ ['ſ']) (convention : Convention) :
    ∃ letters, b.letters convention key = .ok letters ∧ SpellsKey key letters := by
  obtain ⟨literalKey, _, base⟩ := literalKey_of_isLetterKey short
  rw [Binding.letters, literalKey]
  cases kept : b.phoneme.filter (·.key == key) with
  | none =>
    show ∃ letters, convention.render key.base = .ok letters ∧ SpellsKey key letters
    rw [base]
    exact exists_render_eq_ok_spellsKey convention short listed
  | some p =>
    obtain ⟨bound, same⟩ := Option.filter_eq_some_iff.1 kept
    obtain rfl := beq_iff_eq.1 same
    exact ⟨p.text.base, rfl, spellsKey_base (inWord p bound) short⟩

/-! ## Matches -/

section Compiled

variable {notated : Text} {variants : List Variant} (compiled : compile notated = .ok variants)
  {v : Variant} (hv : v ∈ variants)

include compiled hv

/-- The diacritic that a step puts on what it writes is made of marks. -/
theorem isMark_of_mem_newMark {s : Step} (hs : s ∈ v.steps) : ∀ m ∈ s.newMark, isMark m = true := by
  obtain ⟨_, _, _, _, _, parsed, _, _, new, inForm, slots⟩ :=
    exists_slots_of_compile compiled hv hs
  exact fun m hm => isMark_of_mem_mark_of_parse parsed new inForm m (slots.newMark m hm)

/-- A key that is captured is one that letters spell. -/
theorem isLetterKey_of_captured {word : Text} {m : Match}
    (binds : m.Binds v (phonemes DigraphTable.rules word)) {n : Int} {key : Text}
    (held : m.captures.lookup n = some key) : key.IsLetterKey ∧ key ≠ ['ſ'] := by
  obtain ⟨pair, inZip, _, rfl⟩ := (binds.captured n key).1 held
  have hp := List.mem_of_mem_drop (List.of_mem_zip inZip).2
  rw [← binds.paired] at inZip
  obtain ⟨b, hb, mapped⟩ := List.mem_filterMap.1 inZip
  obtain ⟨p, bound, rfl⟩ := Option.map_eq_some_iff.1 mapped
  obtain ⟨literal, found, fits, _⟩ := binds.chosen b hb p bound
  obtain ⟨_, _, _, _, parsed, _, old, inForm, _, _, slots⟩ :=
    exists_slots_of_compile compiled hv (binds.row ▸ List.mem_map_of_mem hb)
  have prepared := isPrepared_of_parse parsed old inForm
  have member := slots.find literal (List.mem_of_getElem? found)
  exact ⟨isLetterKey_of_fits hp prepared member fits, key_ne_longS_of_fits hp prepared member fits⟩

end Compiled

/-- A step with a coindex in the new form writes the key that the coindex captures, which is the key
    of every phoneme that is bound under it. What it writes can be read, and is read as one phoneme
    with this key exactly if its marks and its capital keep the key. -/
theorem render_coindexed {notated : Text} {variants : List Variant}
    (compiled : compile notated = .ok variants) {v : Variant} (hv : v ∈ variants) (word : Text)
    (convention : Option Convention) {m : Match}
    (found : v.findMatch? (phonemes DigraphTable.rules word.nfc) = some m) {b : Binding}
    (hb : b ∈ m.bindings) {n : Int} (coindexed : b.step.newCoindex = some n) :
    ∃ key letters rendered ps,
      m.captures.lookup n = some key ∧
      (∃ c ∈ m.bindings, c.step.oldCoindex = some n ∧ c.phoneme.isSome = true) ∧
      (∀ c ∈ m.bindings, c.step.oldCoindex = some n → ∀ p, c.phoneme = some p → p.key = key) ∧
      b.letters (convention.getD (Convention.detect word.nfc)) key = .ok letters ∧
      b.render m.captures (convention.getD (Convention.detect word.nfc)) = .ok rendered ∧
      phonemes? DigraphTable.rules rendered = .ok ps ∧
      ((∃ p, ps = [p] ∧ p.key = key) ↔ b.KeepsKey key letters) := by
  obtain ⟨_, _, binds⟩ := binds_of_findMatch? found
  have complete := isComplete_of_findMatch? (wellFormed_of_compile compiled v hv) found
  obtain ⟨p, _, held⟩ := complete.captured b hb n coindexed
  obtain ⟨short, listed⟩ := isLetterKey_of_captured compiled hv binds held
  generalize p.key = key at held short listed
  -- The key was captured where a step with this coindex in the old form holds a phoneme.
  obtain ⟨pair, inZip, coindex, _⟩ := (binds.captured n key).1 held
  rw [← binds.paired] at inZip
  obtain ⟨c, hc, mapped⟩ := List.mem_filterMap.1 inZip
  obtain ⟨q, bound, rfl⟩ := Option.map_eq_some_iff.1 mapped
  have agrees : ∀ c ∈ m.bindings, c.step.oldCoindex = some n →
      ∀ p, c.phoneme = some p → p.key = key := by
    intro c hc coindex p bound
    have captured := (binds.captured n p.key).2 ⟨_, binds.mem_zip hc bound, coindex, rfl⟩
    exact Option.some.inj (captured.symm.trans held)
  have inWord : ∀ p, b.phoneme = some p → p ∈ phonemes DigraphTable.rules word.nfc :=
    fun p bound => List.mem_of_mem_drop (List.of_mem_zip (binds.mem_zip hb bound)).2
  obtain ⟨letters, spelled, spells⟩ := Binding.exists_letters_spellsKey inWord short listed
    (convention.getD (Convention.detect word.nfc))
  have literal : b.literal m.captures = .ok (some key) := by
    rw [Binding.literal, coindexed]
    simp only [held]
  have written := isMark_of_mem_writtenMarks
    (fun p bound => isMark_of_mem_marks_phonemes (inWord p bound))
    (literalKey_of_isLetterKey short).2.1
  have diacritic := isMark_of_mem_newMark compiled hv (binds.row ▸ List.mem_map_of_mem hb)
  refine ⟨key, letters, _, _, held, ⟨c, hc, coindex, by simp [bound]⟩, agrees, spelled,
    Binding.render_eq_ok literal spelled, phonemes?_eq_ok DigraphTable.isPlain_rules _, ?_⟩
  rw [← keys_marked_iff spells written diacritic _ rfl, Text.keys, List.map_eq_singleton_iff]

/-- A vowel becomes the phoneme that is captured after it. -/
def takesOver (literal : Text) : Step :=
  { find := vowelClass, replace := [literal], newCoindex := some 1 }

/-- The phoneme is captured, and deleted. -/
def givesUp (literal : Text) : Step := { find := [literal], replace := [], oldCoindex := some 1 }

-- A digraph takes the place of a vowel with a capital and an acute.
theorem render_coindexed_of_capital_vowel :
    ∃ v m b rendered p,
      compile ['[', 'V', 't', 'h', '₁', ']', '>', '[', 't', 'h', '₁', 'ø', ']'] = .ok [v] ∧
      v.findMatch? (phonemes DigraphTable.rules (Text.nfc ['Ó', 't', 'h'])) = some m ∧
      b ∈ m.bindings ∧ b.step.newCoindex = some 1 ∧
      b.render m.captures (Convention.detect (Text.nfc ['Ó', 't', 'h'])) = .ok rendered ∧
      phonemes? DigraphTable.rules rendered = .ok [p] ∧ p.key = ['θ'] := by
  have compiled : compile ['[', 'V', 't', 'h', '₁', ']', '>', '[', 't', 'h', '₁', 'ø', ']'] =
      .ok [{ steps := [takesOver ['t', 'h'], givesUp ['t', 'h']] }] := by
    apply eq_ok_of_toOption_eq_some
    decide +kernel
  have found : Variant.findMatch? { steps := [takesOver ['t', 'h'], givesUp ['t', 'h']] }
      (phonemes DigraphTable.rules (Text.nfc ['Ó', 't', 'h'])) = some {
        start := 0, stop := 2, captures := [(1, ['θ'])]
        bindings := [
          ⟨takesOver ['t', 'h'], some ⟨['Ó'], ['o'], ['\u0301'], 0, 1⟩, 3⟩,
          ⟨givesUp ['t', 'h'], some ⟨['t', 'h'], ['θ'], [], 1, 3⟩, 0⟩] } := by
    decide +kernel
  have digraph : Binding.letters ⟨takesOver ['t', 'h'], some ⟨['Ó'], ['o'], ['\u0301'], 0, 1⟩, 3⟩
      (Convention.detect (Text.nfc ['Ó', 't', 'h'])) ['θ'] = .ok ['t', 'h'] := by
    apply eq_ok_of_toOption_eq_some
    decide +kernel
  obtain ⟨key, letters, rendered, ps, held, _, _, spelled, written, read, keeps⟩ :=
    render_coindexed compiled List.mem_cons_self ['Ó', 't', 'h'] none found List.mem_cons_self rfl
  obtain rfl : ['θ'] = key := Option.some.inj held
  obtain rfl : ['t', 'h'] = letters := Except.ok.inj (digraph.symm.trans spelled)
  obtain ⟨p, rfl, key⟩ := keeps.2 (by
    rw [Binding.KeepsKey, if_pos (by decide)]
    decide +kernel)
  exact ⟨_, _, _, rendered, p, compiled, found, List.mem_cons_self, rfl, written, read, key⟩

/-- The capital of `ß` is `SS`, and the dot below `ạ` joins the last letter of `th`. In both cases,
    what a step writes for a captured phoneme is read as two. -/
theorem coindexed_step_loses_key :
    (∃ v m b, compile ['[', 'V', 'ß', '₁', ']', '>', '[', 'ß', '₁', 'ø', ']'] = .ok [v] ∧
        v.findMatch? (phonemes DigraphTable.rules (Text.nfc ['A', 'ß'])) = some m ∧
        b ∈ m.bindings ∧ b.step.newCoindex = some 1 ∧ m.captures.lookup 1 = some ['ß'] ∧
        b.render m.captures .digraphs = .ok ['S', 'S'] ∧ Text.keys ['S', 'S'] = [['s'], ['s']]) ∧
      ∃ v m b, compile ['[', 'V', 't', 'h', '₁', ']', '>', '[', 't', 'h', '₁', 'ø', ']'] = .ok [v] ∧
        v.findMatch? (phonemes DigraphTable.rules (Text.nfc ['ạ', 't', 'h'])) = some m ∧
        b ∈ m.bindings ∧ b.step.newCoindex = some 1 ∧ m.captures.lookup 1 = some ['θ'] ∧
        b.render m.captures .digraphs = .ok ['t', 'ḥ'] ∧ Text.keys ['t', 'ḥ'] = [['t'], ['h']] := by
  refine ⟨⟨{ steps := [takesOver ['ß'], givesUp ['ß']] }, {
      start := 0, stop := 2, captures := [(1, ['ß'])]
      bindings := [
        ⟨takesOver ['ß'], some ⟨['A'], ['a'], [], 0, 1⟩, 0⟩,
        ⟨givesUp ['ß'], some ⟨['ß'], ['ß'], [], 1, 2⟩, 0⟩] }, _, ?_, by decide +kernel,
    List.mem_cons_self, rfl, rfl, ?_, by decide +kernel⟩,
    ⟨{ steps := [takesOver ['t', 'h'], givesUp ['t', 'h']] }, {
      start := 0, stop := 2, captures := [(1, ['θ'])]
      bindings := [
        ⟨takesOver ['t', 'h'], some ⟨['ạ'], ['a'], ['\u0323'], 0, 1⟩, 0⟩,
        ⟨givesUp ['t', 'h'], some ⟨['t', 'h'], ['θ'], [], 1, 3⟩, 0⟩] }, _, ?_, by decide +kernel,
    List.mem_cons_self, rfl, rfl, ?_, by decide +kernel⟩⟩
  all_goals
    apply eq_ok_of_toOption_eq_some
    decide +kernel

end SoundLaw
