/-
  SoundLaw.Proofs.Variant.VowelClass

  The class of the vowels is the group of the five. Forms whose slots are alike pair up in the same
  way and make the same steps, so they make the same variant (`agree_ofForms`). A notation and the
  one with groups for its vowels are cut into segments that are parsed to such forms, under the same
  position, and so both compile to the same variants.
-/
import SoundLaw.Proofs.Notation.VowelGroup
import SoundLaw.Proofs.Variant.Alignment

namespace SoundLaw

/-! ## Alike slots -/

theorem Slot.Alike.symm {a b : Slot} (h : a.Alike b) : b.Alike a where
  symbol := ⟨h.symbol.literals.symm, h.symbol.wildcard.symm, h.symbol.deletion.symm⟩
  mark := h.mark.symm
  coindex := h.coindex.symm

section Slots

variable {row row' : List Slot} {old old' new new' : Slot}

theorem Slot.PairsWith.of_alike (h : old.PairsWith row new)
    (rows : List.Forall₂ Slot.Alike row row') (olds : old.Alike old') (news : new.Alike new') :
    old'.PairsWith row' new' where
  oldBare := by
    rw [← olds.symbol.wildcard, ← olds.symbol.deletion, ← olds.coindex]
    exact h.oldBare
  newBare := by
    rw [← news.symbol.wildcard, ← news.symbol.deletion, ← news.coindex]
    exact h.newBare
  wildcards := olds.symbol.wildcard.symm.trans (h.wildcards.trans news.symbol.wildcard)
  declared := by
    intro other n written
    obtain ⟨s, listed, declared⟩ :=
      h.declared (mt olds.symbol.wildcard.1 other) n (news.coindex.trans written)
    obtain ⟨s', listed', alike⟩ := exists_of_forall₂ rows listed
    exact ⟨s', listed', alike.coindex.symm.trans declared⟩
  sizes := by
    intro other
    rw [← olds.symbol.literals, ← news.symbol.literals]
    exact h.sizes (mt olds.symbol.wildcard.1 other)

theorem between_eq_of_alike (olds : old.Alike old') (news : new.Alike new') :
    Step.between old new = Step.between old' new' := by
  simp only [Step.between, olds.symbol.wildcard, olds.symbol.literals, news.symbol.literals,
    olds.coindex, news.coindex, olds.mark, news.mark]

end Slots

/-! ## Alike forms -/

theorem Form.Alike.symm {f g : Form} (h : f.Alike g) : g.Alike f :=
  List.Forall₂.flip (h.imp fun _ _ alike => alike.symm)

section Forms

variable {old old' new new' : Form}

theorem Form.AlignsWith.of_alike (h : old.AlignsWith new) (olds : old.Alike old')
    (news : new.Alike new') : old'.AlignsWith new' where
  lengths := by rw [← olds.length_eq, ← news.length_eq, h.lengths]
  pairs := by
    intro pair listed
    obtain ⟨p, member, former, latter⟩ :=
      exists_of_forall₂ (forall₂_zip_zip olds.symm news.symm) listed
    exact (h.pairs p member).of_alike olds former.symm latter.symm

theorem stepsBetween_eq_of_alike (olds : old.Alike old') (news : new.Alike new') :
    stepsBetween old new = stepsBetween old' new' := by
  have steps := (forall₂_zip_zip olds news).imp fun _ _ h => between_eq_of_alike h.1 h.2
  rw [stepsBetween, stepsBetween, ← List.forall₂_eq_eq_eq, List.forall₂_map_left_iff,
    List.forall₂_map_right_iff]
  exact steps

/-- Alike forms make the same variant, or none. -/
theorem agree_ofForms (position : Position) (olds : old.Alike old') (news : new.Alike new') :
    Agree (· = ·) (Variant.ofForms position old new) (Variant.ofForms position old' new') := by
  rcases ofForms_cases position old new with ⟨made, aligned⟩ | ⟨⟨fault, refused⟩, unaligned⟩
  · -- If one pair of forms aligns, so does the other.
    rcases ofForms_cases position old' new' with ⟨made', _⟩ | ⟨_, unaligned⟩
    · rw [made, made', stepsBetween_eq_of_alike olds news]
      exact .ok rfl
    · exact absurd (aligned.of_alike olds news) unaligned
  · rcases ofForms_cases position old' new' with ⟨_, aligned⟩ | ⟨⟨fault', refused'⟩, _⟩
    · exact absurd (aligned.of_alike olds.symm news.symm) unaligned
    · rw [refused, refused']
      exact .error

end Forms

/-! ## Groups for the vowels of a notation -/

/-- The wildcards at the ends of a half are where they were. -/
theorem ofHalf_withVowelGroups (half : Text) :
    Position.ofHalf half.withVowelGroups = Position.ofHalf half := by
  have foreign : '-' ∉ 'V' :: spellVowels 'V' := by decide
  rw [Position.ofHalf, Position.ofHalf, stripBrackets_withVowelGroups]
  generalize half.stripBrackets = t
  have leading := head?_withVowelGroups_eq_some_iff foreign t
  have trailing := getLast?_withVowelGroups_eq_some_iff foreign t
  -- A wildcard alone is at both ends of its half, so the length counts as well.
  have longer : t.head? = some '-' → (1 < List.length t.withVowelGroups ↔ 1 < List.length t) := by
    intro leads
    obtain ⟨u, rfl⟩ := List.head?_eq_some_iff.1 leads
    rw [withVowelGroups_cons, spellVowels_of_ne (by decide), List.singleton_append,
      List.length_cons, List.length_cons, Nat.lt_add_left_iff_pos, Nat.lt_add_left_iff_pos,
      List.length_pos_iff, List.length_pos_iff, ne_eq, withVowelGroups_eq_nil_iff]
  by_cases leads : t.head? = some '-'
  · simp only [beq_eq_decide, leading, trailing, longer leads]
  · simp only [beq_eq_decide, leading, trailing, leads, decide_false, Bool.false_and]

/-- The halves of a notation are cut out as before. -/
theorem agree_splitHalves (notated : Text) :
    Agree (fun halves halves' => halves' = halves.map Text.withVowelGroups Text.withVowelGroups ∧
        halves.1 <:+: notated ∧ halves.2 <:+: notated)
      (splitHalves notated) (splitHalves notated.withVowelGroups) := by
  rw [splitHalves, splitHalves, split_withVowelGroups (by decide)]
  have parts := (Text.isInfix_of_mem_split '>' notated).2
  generalize notated.split '>' = halves at parts
  rcases halves with _ | ⟨old, _ | ⟨new, _ | ⟨third, more⟩⟩⟩
  · exact .error
  · exact .error
  · refine .ok ⟨?_, ?_, ?_⟩
    · rw [stripBrackets_withVowelGroups, stripBrackets_withVowelGroups]
      rfl
    · exact old.stripBrackets_isInfix.trans (parts old (by simp))
    · exact new.stripBrackets_isInfix.trans (parts new (by simp))
  · exact .error

/-- The options of a notation are cut out as before. -/
theorem agree_splitOptions (notated : Text) :
    Agree (fun options options' =>
        options' = options.map (List.map Text.withVowelGroups) (List.map Text.withVowelGroups) ∧
          ∀ segment ∈ options.1 ++ options.2, segment <:+: notated)
      (splitOptions notated) (splitOptions notated.withVowelGroups) := by
  rw [splitOptions, splitOptions]
  refine (agree_splitHalves notated).bind ?_
  rintro ⟨old, new⟩ _ ⟨rfl, inOld, inNew⟩
  simp only [Prod.map, options_withVowelGroups, List.length_map]
  split
  · exact .error
  · refine .ok ⟨rfl, fun segment listed => ?_⟩
    rcases List.mem_append.1 listed with listed | listed
    · exact (Text.isInfix_of_mem_options listed).trans inOld
    · exact (Text.isInfix_of_mem_options listed).trans inNew

/-- A notation compiles to the same variants as the one with the group of the five vowels for each
    `V`, and one of them fails if the other does, where no `V` is between braces. -/
theorem compile_withVowelGroups {notated : Text} (absent : placeholder ∉ notated)
    (outside : notated.KeepsVowelsOutside) (variants : List Variant) :
    compile notated.withVowelGroups = .ok variants ↔ compile notated = .ok variants := by
  have parsed {segment : Text} (part : segment <:+: notated) :
      Agree Form.Alike (Form.parse segment) (Form.parse segment.withVowelGroups) :=
    agree_parse (fun inside => absent (part.subset inside)) (outside.mono part)
  suffices same :
      Agree (List.Forall₂ (· = ·)) (compile notated) (compile notated.withVowelGroups) by
    rw [List.forall₂_eq_eq_eq] at same
    exact (same.ok_iff variants).symm
  rw [compile, compile]
  refine (agree_splitHalves notated).bind ?_
  rintro ⟨oldHalf, _⟩ _ ⟨rfl, -⟩
  refine (agree_splitOptions notated).bind ?_
  rintro ⟨old, new⟩ _ ⟨rfl, parts⟩
  simp only [Prod.map, ofHalf_withVowelGroups, List.zip_map]
  have pairs : List.Forall₂ (fun p q => q = p.map Text.withVowelGroups Text.withVowelGroups ∧
      p ∈ old.zip new) (old.zip new)
      ((old.zip new).map (Prod.map Text.withVowelGroups Text.withVowelGroups)) :=
    List.forall₂_map_right_iff.2 (List.forall₂_same.2 fun p listed => ⟨rfl, listed⟩)
  refine .mapM pairs ?_
  rintro ⟨o, n⟩ _ ⟨rfl, listed⟩
  obtain ⟨inOld, inNew⟩ := List.of_mem_zip listed
  have olds := parsed (parts o (List.mem_append_left _ inOld))
  have news := parsed (parts n (List.mem_append_right _ inNew))
  exact olds.bind fun _ _ olds => news.bind fun _ _ news => agree_ofForms _ olds news

-- Two options, with marks and a coindex on a vowel, a wildcard before it and a group after it.
theorem compile_withVowelGroups_of_marked :
    ∃ (notated : Text) (variants : List Variant),
      notated = ['-', 'V', '\u0304', '₁', '{', 'b', 'd', '}', '|', 's', 'V', '>',
        '-', 'V', '\u0306', '₁', 'ø', '|', 'z', 'V'] ∧
      placeholder ∉ notated ∧ notated.KeepsVowelsOutside ∧
      compile notated = .ok variants ∧ compile notated.withVowelGroups = .ok variants ∧
      variants.map (fun v => v.steps.map Step.find) =
        [[[], vowelClass, [['b'], ['d']]], [[['s']], vowelClass]] := by
  let notated : Text := ['-', 'V', '\u0304', '₁', '{', 'b', 'd', '}', '|', 's', 'V', '>',
    '-', 'V', '\u0306', '₁', 'ø', '|', 'z', 'V']
  have absent : placeholder ∉ notated := by decide
  have outside : notated.KeepsVowelsOutside := by decide +kernel
  have finds : (compile notated).toOption.map (fun variants => variants.map fun v =>
      v.steps.map Step.find) = some [[[], vowelClass, [['b'], ['d']]], [[['s']], vowelClass]] := by
    decide +kernel
  obtain ⟨variants, compiled, finds⟩ := Option.map_eq_some_iff.1 finds
  have compiled := eq_ok_of_toOption_eq_some compiled
  exact ⟨notated, variants, rfl, absent, outside, compiled,
    (compile_withVowelGroups absent outside variants).2 compiled, finds⟩

end SoundLaw
