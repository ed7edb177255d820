/-
  SoundLaw.Proofs.Substitution.Options

  The two ways of applying the options of a rule to a word. A rule takes the first variant that
  matches, and the command that applies a notation takes the first variant that changes the word. A
  variant can match and leave the word as it is, and then a later one can still change it: this is
  the only case in which the two ways differ (`command_agrees_with_rule_iff`).

  Both go through the variants from first to last, so the two results are compared along the list,
  by what the first variant does: it does not match, it changes the word, or it leaves it alone.
-/
import SoundLaw.CommandLine.Run
import SoundLaw.Proofs.Substitution.Total

namespace SoundLaw

/-! ## Overtaken matches -/

/-- A variant matches a word and leaves it as it is, no variant before it matches, and one after it
    changes the word. -/
def IsOvertaken (variants : List Variant) (word : Text) : Prop :=
  ∃ before v after, variants = before ++ v :: after ∧
    (∀ u ∈ before, u.substitute word none = .ok none) ∧ v.substitute word none = .ok (some word) ∧
    ∃ u ∈ after, ∃ result, u.substitute word none = .ok (some result) ∧ result ≠ word

variable {v : Variant} {variants : List Variant} {word : Text}

theorem not_isOvertaken_nil : ¬IsOvertaken [] word := by
  rintro ⟨before, v, after, whole, _⟩
  exact absurd whole (by simp)

theorem isOvertaken_cons_of_misses (misses : v.substitute word none = .ok none) :
    IsOvertaken (v :: variants) word ↔ IsOvertaken variants word := by
  constructor
  · rintro ⟨before, w, after, whole, silent, keeps, changes⟩
    cases before with
    | nil =>
      obtain ⟨rfl, rfl⟩ := List.cons.inj whole
      exact absurd (misses.symm.trans keeps) (by simp)
    | cons u before =>
      obtain ⟨rfl, rfl⟩ := List.cons.inj whole
      exact ⟨before, w, after, rfl, fun t ht => silent t (List.mem_cons_of_mem v ht), keeps, changes⟩
  · rintro ⟨before, w, after, rfl, silent, keeps, changes⟩
    exact ⟨v :: before, w, after, rfl, List.forall_mem_cons.2 ⟨misses, silent⟩, keeps, changes⟩

/-- Where the first variant matches, it is the one that can be overtaken. -/
theorem isOvertaken_cons_of_matches {result : Text}
    (matched : v.substitute word none = .ok (some result)) :
    IsOvertaken (v :: variants) word ↔ result = word ∧
      ∃ u ∈ variants, ∃ other, u.substitute word none = .ok (some other) ∧ other ≠ word := by
  constructor
  · rintro ⟨before, w, after, whole, silent, keeps, changes⟩
    cases before with
    | nil =>
      obtain ⟨rfl, rfl⟩ := List.cons.inj whole
      have same : result = word := by simpa using matched.symm.trans keeps
      exact ⟨same, changes⟩
    | cons u before =>
      obtain ⟨rfl, _⟩ := List.cons.inj whole
      exact absurd (matched.symm.trans (silent v List.mem_cons_self)) (by simp)
  · rintro ⟨rfl, changes⟩
    exact ⟨[], v, variants, rfl, by simp, matched, changes⟩

/-! ## One variant after the other -/

theorem apply_eq_ok_of_substitute {outcome : Option Text}
    (substituted : v.substitute word none = .ok outcome) :
    v.apply word none = .ok (outcome.getD word) := by
  rw [Variant.apply, substituted]
  rfl

/-- The first variant that changes a word is looked for as long as the word stays as it is. -/
theorem applyUntilChanged_cons {outcome : Option Text}
    (substituted : v.substitute word none = .ok outcome) :
    applyUntilChanged word none (v :: variants) =
      if outcome.getD word = word then applyUntilChanged word none variants
      else .ok (outcome.getD word) := by
  rw [applyUntilChanged, apply_eq_ok_of_substitute substituted]
  rfl

/-- A word comes back as it is if no variant changes it. -/
theorem exists_applyUntilChanged_eq_ok (total : ∀ v ∈ variants, ∃ outcome,
    v.substitute word none = .ok outcome) :
    ∃ result, applyUntilChanged word none variants = .ok result ∧
      (result = word ↔
        ¬∃ v ∈ variants, ∃ other, v.substitute word none = .ok (some other) ∧ other ≠ word) := by
  induction variants with
  | nil => exact ⟨word, rfl, by simp⟩
  | cons v variants ih =>
    obtain ⟨⟨outcome, substituted⟩, total⟩ := List.forall_mem_cons.1 total
    obtain ⟨result, applied, unchanged⟩ := ih total
    rw [applyUntilChanged_cons substituted]
    simp only [List.exists_mem_cons_iff, substituted, not_or, Except.ok.injEq]
    cases outcome with
    | none =>
      refine ⟨result, ?_, ?_⟩
      · rw [Option.getD_none, if_pos rfl, applied]
      · rw [unchanged]
        simp
    | some other =>
      rw [Option.getD_some]
      by_cases same : other = word
      · refine ⟨result, ?_, ?_⟩
        · rw [if_pos same, applied]
        · rw [unchanged]
          simp [same]
      · exact ⟨other, if_neg same, by simp [same]⟩

/-- Variants that can all be tried on a word give a result in both ways, and the same one exactly if
    no match is overtaken. -/
theorem changed_eq_matched_iff (total : ∀ v ∈ variants, ∃ outcome,
    v.substitute word none = .ok outcome) :
    ∃ changed matched, applyUntilChanged word none variants = .ok changed ∧
      substituteFirst word none variants = .ok matched ∧
      (changed = matched.getD word ↔ ¬IsOvertaken variants word) := by
  induction variants with
  | nil => exact ⟨word, none, rfl, rfl, by simp [not_isOvertaken_nil]⟩
  | cons v variants ih =>
    obtain ⟨⟨outcome, substituted⟩, total⟩ := List.forall_mem_cons.1 total
    rw [applyUntilChanged_cons substituted, substituteFirst, substituted]
    cases outcome with
    | none =>
      -- Both ways go on with the other variants.
      obtain ⟨changed, matched, applied, first, agree⟩ := ih total
      refine ⟨changed, matched, by simpa using applied, first, ?_⟩
      rw [agree, isOvertaken_cons_of_misses substituted]
    | some result =>
      -- A rule stops here, and the command only if the word has changed.
      obtain ⟨changed, applied, unchanged⟩ := exists_applyUntilChanged_eq_ok total
      rw [isOvertaken_cons_of_matches substituted, Option.getD_some]
      by_cases same : result = word
      · refine ⟨changed, some result, by simpa [same] using applied, rfl, ?_⟩
        simpa [same] using unchanged
      · exact ⟨result, some result, by simp [same], rfl, by simp [same]⟩

/-! ## The command and the rule -/

/-- A rule without a condition gives what its variants make of the word. -/
theorem Rule.apply_of_free {rule : Rule} (free : rule.condition = .null) {matched : Option Text}
    {convention : Option Convention}
    (first : substituteFirst word convention rule.variants = .ok matched) (vowels : VowelSystem)
    (compound : Bool) : rule.apply word convention vowels compound = .ok (matched.getD word) := by
  rw [Rule.apply, Rule.appliesTo, free]
  simp only [bind, Except.bind, if_true, first]
  rfl

open CommandLine in
/-- The command that applies a notation to words shows for each of them what the rule of this
    notation makes of it, if the rule has no condition, exactly where no match is overtaken. -/
theorem command_agrees_with_rule_iff {rule : Rule}
    (compiled : SoundLaw.compile rule.notated = .ok rule.variants) (free : rule.condition = .null)
    (w : Workspace) (vowels : VowelSystem) (compound : Bool) :
    ∃ shown : Text → Text,
      (∀ words, Command.run w vowels (.apply rule.notated words) =
        .ok { lines := words.map fun word => outcome word (shown word) }) ∧
      ∀ word, ∃ result, rule.apply word none vowels compound = .ok result ∧
        (shown word = result ↔ ¬IsOvertaken rule.variants word) := by
  have total : ∀ word, ∀ v ∈ rule.variants, ∃ outcome, v.substitute word none = .ok outcome :=
    fun word v hv => exists_substitute_eq_ok (wellFormed_of_compile compiled v hv) word none
  choose changed matched applied first agree using
    fun word => changed_eq_matched_iff (total word)
  refine ⟨changed, fun words => ?_, fun word => ?_⟩
  · have lines : words.mapM (applyLine rule.variants) =
        .ok (words.map fun word => outcome word (changed word)) := by
      refine mapM_eq_ok_map fun word _ => ?_
      rw [applyLine, applied]
      rfl
    rw [Command.run, compileArgument, compiled]
    simp only [bind, Except.bind, lines]
    rfl
  · exact ⟨_, Rule.apply_of_free free (first word) vowels compound, agree word⟩

open CommandLine in
-- The first vowel of `ab` becomes an `e`, with the command as with the rule.
theorem command_agrees_with_rule_of_fronting :
    ∃ rule : Rule, rule.notated = ['[', 'a', '|', 'b', ']', '>', '[', 'e', '|', 'p', ']'] ∧
      SoundLaw.compile rule.notated = .ok rule.variants ∧ rule.condition = .null ∧
      ¬IsOvertaken rule.variants ['a', 'b'] ∧
      ∃ shown, Command.run [] ⟨false, false⟩ (.apply rule.notated [['a', 'b']]) =
          .ok { lines := [outcome ['a', 'b'] shown] } ∧
        rule.apply ['a', 'b'] none ⟨false, false⟩ false = .ok shown := by
  have results : (SoundLaw.compile ['[', 'a', '|', 'b', ']', '>', '[', 'e', '|', 'p', ']']).toOption.map
      (·.map fun v => (v.substitute ['a', 'b'] none).toOption) =
        some [some (some ['e', 'b']), some (some ['a', 'p'])] := by decide +kernel
  obtain ⟨variants, compiled, each⟩ := Option.map_eq_some_iff.1 results
  obtain ⟨v, others, rfl, first, _⟩ := List.map_eq_cons_iff.1 each
  have compiled := eq_ok_of_toOption_eq_some compiled
  have apart : ¬IsOvertaken (v :: others) ['a', 'b'] := by
    rw [isOvertaken_cons_of_matches (eq_ok_of_toOption_eq_some first)]
    exact fun overtaken => absurd overtaken.1 (by decide)
  obtain ⟨shown, ran, agree⟩ := @command_agrees_with_rule_iff
    { name := ['r'], notated := _, variants := v :: others } compiled rfl [] ⟨false, false⟩ false
  obtain ⟨result, applied, same⟩ := agree ['a', 'b']
  exact ⟨_, rfl, compiled, rfl, apart, shown ['a', 'b'], ran [['a', 'b']], same.2 apart ▸ applied⟩

open CommandLine in
/-- The first option matches `ab` and leaves it as it is: the rule stops there, and the command goes
    on to the second one. -/
theorem command_overtakes_match :
    ∃ rule : Rule, rule.notated = ['[', 'a', '|', 'b', ']', '>', '[', 'a', '|', 'c', ']'] ∧
      SoundLaw.compile rule.notated = .ok rule.variants ∧ rule.condition = .null ∧
      Command.run [] ⟨false, false⟩ (.apply rule.notated [['a', 'b']]) =
        .ok { lines := [outcome ['a', 'b'] ['a', 'c']] } ∧
      rule.apply ['a', 'b'] none ⟨false, false⟩ false = .ok ['a', 'b'] := by
  have results : (SoundLaw.compile ['[', 'a', '|', 'b', ']', '>', '[', 'a', '|', 'c', ']']).toOption.map
      (fun variants => ((applyUntilChanged ['a', 'b'] none variants).toOption,
        (substituteFirst ['a', 'b'] none variants).toOption)) =
          some (some ['a', 'c'], some (some ['a', 'b'])) := by decide +kernel
  obtain ⟨variants, compiled, both⟩ := Option.map_eq_some_iff.1 results
  obtain ⟨changed, matched⟩ := Prod.mk.inj both
  have compiled := eq_ok_of_toOption_eq_some compiled
  have applied := eq_ok_of_toOption_eq_some changed
  have first := eq_ok_of_toOption_eq_some matched
  refine ⟨{ name := ['r'], notated := _, variants }, rfl, compiled, rfl, ?_, ?_⟩
  · rw [Command.run, compileArgument, compiled]
    simp only [bind, Except.bind, List.mapM_cons, List.mapM_nil, applyLine, applied]
    rfl
  · rw [Rule.apply_of_free rfl first]
    rfl

end SoundLaw
