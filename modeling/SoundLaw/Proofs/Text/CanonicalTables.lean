/-
  SoundLaw.Proofs.Text.CanonicalTables

  What the tables of the canonical forms say as a whole. Each table is gone through once, by code
  points, and the result is stated for characters: what a character decomposes to does not
  decompose any further, a mark decomposes to marks, and a composite decomposes to what its two
  parts decompose to. The Hangul syllables follow by arithmetic.
-/
import SoundLaw.Diacritic

namespace SoundLaw

/-! ## Look-up by code point

`probe` compares a code point once with each row that it passes, and is written by the recursor of
lists, which keeps the checks of whole tables short. -/

/-- What a map holds for a code point. -/
noncomputable def CodeMap.probe {α : Type} (rows : CodeMap α) (code : Nat) : Option α :=
  List.rec none
    (fun row _ later =>
      bif Nat.ble code row.1 then bif Nat.beq code row.1 then some row.2 else none else later)
    rows

theorem CodeMap.probe_eq_find? {α : Type} (rows : CodeMap α) (code : Nat) :
    CodeMap.probe rows code = CodeMap.find? rows code := by
  induction rows with
  | nil => rfl
  | cons row rows ih =>
    obtain ⟨n, x⟩ := row
    show (bif Nat.ble code n then bif Nat.beq code n then some x else none
      else CodeMap.probe rows code) = _
    rw [CodeMap.find?, ih]
    by_cases before : code < n
    · have hle : Nat.ble code n = true := by
        rw [Nat.ble_eq]
        omega
      have hne : Nat.beq code n = false := by
        rw [← Bool.not_eq_true, Nat.beq_eq]
        omega
      simp [before, hle, hne]
    · by_cases same : code = n
      · have hle : Nat.ble n n = true := Nat.ble_self_eq_true n
        simp [same, hle]
      · have hle : Nat.ble code n = false := by
          rw [← Bool.not_eq_true, Nat.ble_eq]
          omega
        simp [before, same, hle]

/-- What a paged map holds for a code point. -/
noncomputable def CodePages.probe {α : Type} (pages : CodePages α) (code : Nat) : Option α :=
  (CodeMap.probe pages (code / 256)).bind fun page => CodeMap.probe page (code % 256)

theorem CodePages.find?_eq_probe {α : Type} (pages : CodePages α) (c : Char) :
    pages.find? c = pages.probe c.toNat := by
  simp only [CodePages.find?, CodePages.probe, CodeMap.probe_eq_find?]

/-- What a paged map holds stands in a row of a page, and the two give the code point. -/
theorem CodePages.exists_row_of_find? {α : Type} {pages : CodePages α} {c : Char} {x : α}
    (h : pages.find? c = some x) :
    ∃ page ∈ pages, ∃ row ∈ page.2, 256 * page.1 + row.1 = c.toNat ∧ row.2 = x := by
  obtain ⟨page, found, held⟩ := Option.bind_eq_some_iff.1 h
  refine ⟨_, CodeMap.mem_of_find? found, _, CodeMap.mem_of_find? held, ?_, rfl⟩
  exact Nat.div_add_mod c.toNat 256

/-! ## Hangul letters -/

theorem toNat_ofNat_of_isValidChar {n : Nat} (h : n.isValidChar) : (Char.ofNat n).toNat = n := by
  rw [Char.ofNat, dif_pos h]
  rfl

/-- The letters of Hangul syllables stand between the code points `0x1100` and `0x1200`. -/
theorem toNat_of_mem_hangulLetters? {c d : Char} {letters : Text}
    (h : hangulLetters? c = some letters) (member : d ∈ letters) : d.toNat / 256 = 0x11 := by
  have page : ∀ n, 0x1100 ≤ n → n < 0x1200 → (Char.ofNat n).toNat / 256 = 0x11 := by
    intro n hlow hhigh
    rw [toNat_ofNat_of_isValidChar (Or.inl (by omega))]
    omega
  unfold hangulLetters? at h
  split at h
  · next bounds =>
    simp only [Bool.and_eq_true, decide_eq_true_eq] at bounds
    have hs : c.toNat - 0xAC00 < 11172 := by omega
    clear bounds
    dsimp only at h
    generalize c.toNat - 0xAC00 = s at h hs
    split at h
    · rw [Option.some.injEq] at h
      subst h
      simp only [List.mem_cons, List.not_mem_nil, or_false] at member
      rcases member with rfl | rfl
      · exact page _ (by omega) (by omega)
      · exact page _ (by omega) (by omega)
    · rw [Option.some.injEq] at h
      subst h
      simp only [List.mem_cons, List.not_mem_nil, or_false] at member
      rcases member with rfl | rfl | rfl
      · exact page _ (by omega) (by omega)
      · exact page _ (by omega) (by omega)
      · exact page _ (by omega) (by omega)
  · exact absurd h (by simp)

/-- No page of the tables holds Hangul letters. -/
theorem decompose_eq_self_of_hangulPage {c : Char} (h : c.toNat / 256 = 0x11) :
    decompose c = [c] := by
  have hnone : CodeMap.find? canonicalMappings 0x11 = none := rfl
  have hletters : hangulLetters? c = none := by
    rw [hangulLetters?, if_neg]
    simp only [Bool.and_eq_true, decide_eq_true_eq]
    omega
  simp [decompose, hletters, canonicalMapping?, CodePages.find?, h, hnone]

/-! ## Decompositions

A row of the tables gives the code points of a full decomposition. A code point is listable if it
belongs to a character and not to a Hangul syllable, and final if no row is about it either. -/

/-- Whether a code point belongs to a character that is no Hangul syllable. -/
def isListable (n : Nat) : Bool :=
  (Nat.blt n 0xD800 || Nat.blt 0xDFFF n && Nat.blt n 0x110000)
    && !(Nat.ble 0xAC00 n && Nat.blt n 0xD7A4)

/-- Whether a code point belongs to a character that does not decompose. -/
noncomputable def isFinal (n : Nat) : Bool := isListable n && (canonicalMappings.probe n).isNone

/-- The code points that a listable code point decomposes to. -/
noncomputable def decomposedCodes (n : Nat) : List Nat := (canonicalMappings.probe n).getD [n]

theorem toNat_ofNat_of_isListable {n : Nat} (h : isListable n = true) :
    (Char.ofNat n).toNat = n ∧ hangulLetters? (Char.ofNat n) = none := by
  simp only [isListable, Bool.and_eq_true, Bool.or_eq_true, Nat.blt_eq, Bool.not_eq_true',
    ← Bool.not_eq_true, Nat.ble_eq] at h
  have same := toNat_ofNat_of_isValidChar (n := n) h.1
  refine ⟨same, ?_⟩
  rw [hangulLetters?, same, if_neg]
  simp only [Bool.and_eq_true, decide_eq_true_eq]
  omega

theorem decompose_ofNat {n : Nat} (h : isListable n = true) :
    decompose (Char.ofNat n) = (decomposedCodes n).map Char.ofNat := by
  obtain ⟨same, noHangul⟩ := toNat_ofNat_of_isListable h
  rw [decompose, noHangul, canonicalMapping?, CodePages.find?_eq_probe, same, decomposedCodes]
  cases canonicalMappings.probe n with
  | none => rfl
  | some codes => rfl

theorem decompose_ofNat_of_isFinal {n : Nat} (h : isFinal n = true) :
    decompose (Char.ofNat n) = [Char.ofNat n] := by
  rw [isFinal, Bool.and_eq_true, Option.isNone_iff_eq_none] at h
  rw [decompose_ofNat h.1, decomposedCodes, h.2]
  rfl

/-- A character decomposes to the letters of its Hangul syllable, as a row of the tables says, or
    not at all. -/
theorem decompose_cases (c : Char) :
    hangulLetters? c = some (decompose c) ∨
      (∃ page ∈ canonicalMappings, ∃ row ∈ page.2, 256 * page.1 + row.1 = c.toNat ∧
        decompose c = row.2.map Char.ofNat) ∨ decompose c = [c] := by
  cases hangul : hangulLetters? c with
  | some letters => exact Or.inl (by simp [decompose, hangul])
  | none =>
    cases mapped : CodePages.find? canonicalMappings c with
    | none => exact Or.inr (Or.inr (by simp [decompose, hangul, canonicalMapping?, mapped]))
    | some codes =>
      obtain ⟨page, inPages, row, inPage, code, rfl⟩ := CodePages.exists_row_of_find? mapped
      refine Or.inr (Or.inl ⟨page, inPages, row, inPage, code, ?_⟩)
      simp [decompose, hangul, canonicalMapping?, mapped]

theorem isFinal_mappings :
    (canonicalMappings.all fun page => page.2.all fun row =>
      !row.2.isEmpty && row.2.all isFinal) = true := by
  decide +kernel

theorem isFinal_of_mem_row {page : Nat × CodeMap (List Nat)} (inPages : page ∈ canonicalMappings)
    {row : Nat × List Nat} (inPage : row ∈ page.2) :
    row.2 ≠ [] ∧ ∀ n ∈ row.2, isFinal n = true := by
  have checked := List.all_eq_true.1 (List.all_eq_true.1 isFinal_mappings page inPages) row inPage
  rw [Bool.and_eq_true, Bool.not_eq_true', List.isEmpty_eq_false_iff, List.all_eq_true] at checked
  exact checked

/-- Where a character comes from when another one decomposes: from a Hangul syllable, from a row of
    the tables, or from itself. -/
theorem mem_decompose_cases {c d : Char} (h : d ∈ decompose c) :
    d.toNat / 256 = 0x11 ∨
      (∃ page ∈ canonicalMappings, ∃ row ∈ page.2, 256 * page.1 + row.1 = c.toNat ∧
        d.toNat ∈ row.2 ∧ decompose c = row.2.map Char.ofNat) ∨ c = d := by
  rcases decompose_cases c with hangul | ⟨page, inPages, row, inPage, source, mapped⟩ | same
  · exact Or.inl (toNat_of_mem_hangulLetters? hangul h)
  · have member := h
    rw [mapped] at member
    obtain ⟨n, hn, rfl⟩ := List.mem_map.1 member
    have code := (isFinal_of_mem_row inPages inPage).2 n hn
    rw [isFinal, Bool.and_eq_true] at code
    rw [(toNat_ofNat_of_isListable code.1).1]
    exact Or.inr (Or.inl ⟨page, inPages, row, inPage, source, hn, mapped⟩)
  · rw [same, List.mem_singleton] at h
    exact Or.inr (Or.inr h.symm)

/-- What a character decomposes to does not decompose any further. -/
theorem decompose_eq_self_of_mem_decompose {c d : Char} (h : d ∈ decompose c) :
    decompose d = [d] := by
  rcases decompose_cases c with hangul | ⟨page, inPages, row, inPage, _, mapped⟩ | same
  · exact decompose_eq_self_of_hangulPage (toNat_of_mem_hangulLetters? hangul h)
  · rw [mapped] at h
    obtain ⟨n, listed, rfl⟩ := List.mem_map.1 h
    exact decompose_ofNat_of_isFinal ((isFinal_of_mem_row inPages inPage).2 n listed)
  · rw [same] at h
    rw [List.mem_singleton.1 h, same]

theorem decompose_ne_nil (c : Char) : decompose c ≠ [] := by
  intro empty
  rcases decompose_cases c with hangul | ⟨page, inPages, row, inPage, _, mapped⟩ | same
  · rw [empty, hangulLetters?] at hangul
    split at hangul
    · dsimp only at hangul
      split at hangul
      · simp at hangul
      · simp at hangul
    · simp at hangul
  · rw [empty] at mapped
    exact (isFinal_of_mem_row inPages inPage).1 (List.map_eq_nil_iff.1 mapped.symm)
  · simp [same] at empty

/-! ## Marks -/

/-- The ranges of marks that meet a page. -/
def marksOfPage (page : Nat) : CodeRanges :=
  (basicMarks ++ supplementaryMarks).filter fun r =>
    Nat.ble (256 * page) r.2 && Nat.blt r.1 (256 * (page + 1))

theorem exists_mem_marksOfPage {c : Char} {page n : Nat} (h : isMark c = true) (hn : n < 256)
    (code : 256 * page + n = c.toNat) :
    ∃ r ∈ marksOfPage page, r.1 ≤ 256 * page + n ∧ 256 * page + n ≤ r.2 := by
  obtain ⟨r, member, first, last⟩ := isMark_iff.1 h
  refine ⟨r, List.mem_filter.2 ⟨member, ?_⟩, code ▸ first, code ▸ last⟩
  rw [Bool.and_eq_true, Nat.ble_eq, Nat.blt_eq]
  omega

-- Most pages have no marks, so the rows of the others are few.
theorem isMark_mappings :
    (canonicalMappings.all fun page => (page.2.all fun row => Nat.blt row.1 256)
      && ((marksOfPage page.1).isEmpty || page.2.all fun row =>
        !(marksOfPage page.1).any (fun r =>
          Nat.ble r.1 (256 * page.1 + row.1) && Nat.ble (256 * page.1 + row.1) r.2)
        || row.2.all fun n => isMark (Char.ofNat n))) = true := by
  decide +kernel

/-- Whether a code point belongs to a block without marks: one of Hangul letters, of Hangul syllables
    or of ideographs. -/
def isUnmarkedCode (n : Nat) : Bool :=
  Nat.ble 0x1100 n && Nat.blt n 0x1200 || Nat.ble 0x3400 n && Nat.blt n 0xA000
    || Nat.ble 0xAC00 n && Nat.blt n 0xD7A4 || Nat.ble 0x20000 n && Nat.blt n 0x30000

theorem not_isMark_of_isUnmarkedCode {c : Char} (h : isUnmarkedCode c.toNat = true) :
    isMark c = false := by
  have apart : ((basicMarks ++ supplementaryMarks).all fun m =>
      (Nat.blt m.2 0x1100 || Nat.ble 0x1200 m.1) && (Nat.blt m.2 0x3400 || Nat.ble 0xA000 m.1)
        && (Nat.blt m.2 0xAC00 || Nat.ble 0xD7A4 m.1)
        && (Nat.blt m.2 0x20000 || Nat.ble 0x30000 m.1)) = true := by decide +kernel
  rw [← Bool.not_eq_true, isMark_iff]
  rintro ⟨m, member, first, last⟩
  have outside := List.all_eq_true.1 apart m member
  simp only [isUnmarkedCode, Bool.and_eq_true, Bool.or_eq_true, Nat.ble_eq, Nat.blt_eq]
    at h outside
  omega

/-- No Hangul syllable is a mark. -/
theorem hangulLetters?_eq_none_of_isMark {c : Char} (h : isMark c = true) :
    hangulLetters? c = none := by
  rw [hangulLetters?, if_neg]
  intro syllable
  simp only [Bool.and_eq_true, decide_eq_true_eq] at syllable
  have unmarked : isUnmarkedCode c.toNat = true := by
    simp only [isUnmarkedCode, Bool.or_eq_true, Bool.and_eq_true, Nat.ble_eq, Nat.blt_eq]
    omega
  rw [not_isMark_of_isUnmarkedCode unmarked] at h
  exact absurd h Bool.false_ne_true

/-- A mark decomposes to marks. -/
theorem isMark_of_mem_decompose {c d : Char} (mark : isMark c = true) (h : d ∈ decompose c) :
    isMark d = true := by
  rcases decompose_cases c with hangul | ⟨page, inPages, row, inPage, code, mapped⟩ | same
  · rw [hangulLetters?_eq_none_of_isMark mark] at hangul
    exact absurd hangul (by simp)
  · have checked := List.all_eq_true.1 isMark_mappings page inPages
    rw [Bool.and_eq_true] at checked
    have hn := List.all_eq_true.1 checked.1 row inPage
    rw [Nat.blt_eq] at hn
    obtain ⟨r, member, first, last⟩ := exists_mem_marksOfPage mark hn code
    have filled : (marksOfPage page.1).isEmpty = false :=
      List.isEmpty_eq_false_iff_exists_mem.2 ⟨r, member⟩
    have listed : (marksOfPage page.1).any (fun r =>
        Nat.ble r.1 (256 * page.1 + row.1) && Nat.ble (256 * page.1 + row.1) r.2) = true := by
      rw [List.any_eq_true]
      exact ⟨r, member, by rw [Bool.and_eq_true, Nat.ble_eq, Nat.ble_eq]; exact ⟨first, last⟩⟩
    rw [filled, Bool.false_or] at checked
    have checked := List.all_eq_true.1 checked.2 row inPage
    rw [listed, Bool.not_true, Bool.false_or] at checked
    rw [mapped] at h
    obtain ⟨n, member, rfl⟩ := List.mem_map.1 h
    exact List.all_eq_true.1 checked n member
  · rw [same] at h
    rwa [List.mem_singleton.1 h]

/-! ## Composites -/

theorem decomposedCodes_composites :
    (composites.all fun entry => isListable entry.1 && entry.2.all fun row =>
      isListable row.1 && isListable row.2
        && decomposedCodes row.2 == decomposedCodes row.1 ++ decomposedCodes entry.1) = true := by
  decide +kernel

theorem decompose_of_primaryComposite? {first second joined : Char}
    (h : primaryComposite? first second = some joined) :
    decompose joined = decompose first ++ decompose second := by
  obtain ⟨entry, found, held⟩ := Option.bind_eq_some_iff.1 h
  obtain ⟨n, found', rfl⟩ := Option.map_eq_some_iff.1 held
  have checked := List.all_eq_true.1 decomposedCodes_composites _ (CodeMap.mem_of_find? found)
  rw [Bool.and_eq_true] at checked
  have row := List.all_eq_true.1 checked.2 _ (CodeMap.mem_of_find? found')
  simp only [Bool.and_eq_true, beq_iff_eq] at row
  have hfirst := decompose_ofNat row.1.1
  have hsecond := decompose_ofNat checked.1
  rw [Char.ofNat_toNat] at hfirst hsecond
  rw [decompose_ofNat row.1.2, hfirst, hsecond, row.2, List.map_append]

/-- The syllable of the leading consonant `a`, the vowel `b` and the trailing consonant `t`. -/
theorem decompose_syllable {a b t : Nat} (ha : a < 19) (hb : b < 21) (ht : t < 28) :
    decompose (Char.ofNat (0xAC00 + (a * 21 + b) * 28 + t)) =
      [Char.ofNat (0x1100 + a), Char.ofNat (0x1161 + b)]
        ++ if t = 0 then [] else [Char.ofNat (0x11A7 + t)] := by
  have code := toNat_ofNat_of_isValidChar (n := 0xAC00 + (a * 21 + b) * 28 + t)
    (Or.inl (by omega))
  have hlead : ((a * 21 + b) * 28 + t) / (21 * 28) = a := by omega
  have hvowel : ((a * 21 + b) * 28 + t) % (21 * 28) / 28 = b := by omega
  have htrail : ((a * 21 + b) * 28 + t) % 28 = t := by omega
  have inside : 0xAC00 + (a * 21 + b) * 28 + t - 0xAC00 = (a * 21 + b) * 28 + t := by omega
  have letters : hangulLetters? (Char.ofNat (0xAC00 + (a * 21 + b) * 28 + t)) =
      some ([Char.ofNat (0x1100 + a), Char.ofNat (0x1161 + b)]
        ++ if t = 0 then [] else [Char.ofNat (0x11A7 + t)]) := by
    rw [hangulLetters?, code, if_pos (by simp only [Bool.and_eq_true, decide_eq_true_eq]; omega)]
    dsimp only
    rw [inside, hlead, hvowel, htrail]
    split <;> rfl
  rw [decompose, letters]
  rfl

/-- A Hangul syllable decomposes to what its two parts decompose to. -/
theorem decompose_of_hangulSyllable? {first second joined : Char}
    (h : hangulSyllable? first second = some joined) :
    decompose joined = decompose first ++ decompose second := by
  unfold hangulSyllable? at h
  dsimp only at h
  split at h
  · next bounds =>
    -- A leading consonant and a vowel.
    simp only [Bool.and_eq_true, decide_eq_true_eq] at bounds
    have hfirst : decompose first = [first] := decompose_eq_self_of_hangulPage (by omega)
    have hsecond : decompose second = [second] := decompose_eq_self_of_hangulPage (by omega)
    have syllable := decompose_syllable (a := first.toNat - 0x1100) (b := second.toNat - 0x1161)
      (t := 0) (by omega) (by omega) (by omega)
    have lead : 0x1100 + (first.toNat - 0x1100) = first.toNat := by omega
    have vowel : 0x1161 + (second.toNat - 0x1161) = second.toNat := by omega
    rw [lead, vowel, Char.ofNat_toNat, Char.ofNat_toNat, Nat.add_zero, Option.some.inj h] at syllable
    rw [syllable, hfirst, hsecond]
    rfl
  · split at h
    · next bounds =>
      -- An open syllable and a trailing consonant.
      simp only [Bool.and_eq_true, decide_eq_true_eq, beq_iff_eq] at bounds
      have hsecond : decompose second = [second] := decompose_eq_self_of_hangulPage (by omega)
      obtain ⟨q, hq⟩ : ∃ q, first.toNat = 0xAC00 + q * 28 :=
        ⟨(first.toNat - 0xAC00) / 28, by omega⟩
      have lead : q / 21 < 19 := by omega
      have vowel : q % 21 < 21 := Nat.mod_lt _ (by omega)
      have parts : q / 21 * 21 + q % 21 = q := by omega
      have opened := decompose_syllable (t := 0) lead vowel (by omega)
      have closed := decompose_syllable (t := second.toNat - 0x11A7) lead vowel (by omega)
      have hopen : 0xAC00 + (q / 21 * 21 + q % 21) * 28 + 0 = first.toNat := by omega
      have hclosed : 0xAC00 + (q / 21 * 21 + q % 21) * 28 + (second.toNat - 0x11A7)
          = first.toNat + (second.toNat - 0x11A7) := by omega
      have trail : 0x11A7 + (second.toNat - 0x11A7) = second.toNat := by omega
      rw [hopen, Char.ofNat_toNat] at opened
      rw [hclosed, Option.some.inj h, if_neg (by omega), trail, Char.ofNat_toNat] at closed
      rw [closed, opened, hsecond]
      rfl
    · exact absurd h (by simp)

/-- A composite decomposes to what its two parts decompose to. -/
theorem decompose_of_composite? {first second joined : Char}
    (h : composite? first second = some joined) :
    decompose joined = decompose first ++ decompose second := by
  rw [composite?, Option.or_eq_some_iff] at h
  rcases h with hangul | ⟨_, primary⟩
  · exact decompose_of_hangulSyllable? hangul
  · exact decompose_of_primaryComposite? primary

-- The letter below a macron and the macron come apart as they were composed.
example : composite? 'a' '\u0304' = some 'ā' ∧ decompose 'ā' = ['a', '\u0304'] := by
  decide +kernel

end SoundLaw
