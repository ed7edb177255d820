/-
  SoundLaw.Proofs.RuleSet.Singleton

  A rule set of one rule, against the rule. The set reads the spelling convention off the word as it
  is given, and the rule off the composed word. For every other purpose the two are the same, so they
  give one result wherever the two forms of the word follow one convention, and for a word that hides
  its stand-ins the set spells by the single convention and the rule by that of digraphs.
-/
import SoundLaw.Proofs.RuleSet.Pass
import SoundLaw.Proofs.Spelling.Detection
import SoundLaw.Proofs.Substitution.Options

namespace SoundLaw

/-! ## A rule without a given convention -/

/-- A word is substituted by the convention of its composed form if none is given. -/
theorem substituteFirst_none (word : Text) (variants : List Variant) :
    substituteFirst word none variants =
      substituteFirst word (some (Convention.detect word.nfc)) variants := by
  induction variants with
  | nil => rfl
  | cons v variants ih =>
    have first : v.substitute word none =
        v.substitute word (some (Convention.detect word.nfc)) := rfl
    rw [substituteFirst, substituteFirst, first, ih]

theorem Rule.apply_none (r : Rule) (word : Text) (vowels : VowelSystem) (compound : Bool) :
    r.apply word none vowels compound =
      r.apply word (some (Convention.detect word.nfc)) vowels compound := by
  rw [Rule.apply, Rule.apply, substituteFirst_none]

/-- A compiled rule without a condition gives a word. -/
theorem Rule.IsCompiled.exists_apply_eq_ok {r : Rule} (compiled : r.IsCompiled)
    (free : r.condition = .null) (word : Text) (convention : Option Convention)
    (vowels : VowelSystem) (compound : Bool) :
    ∃ after, r.apply word convention vowels compound = .ok after := by
  obtain ⟨matched, first⟩ :=
    exists_substituteFirst_eq_ok (wellFormed_of_compile compiled) word convention
  exact ⟨matched.getD word, Rule.apply_of_free free first vowels compound⟩

namespace RuleSet

/-! ## The set of one rule -/

theorem ofCandidates_singleton (name : Text) (r : Rule) :
    ofCandidates name [.rule r] = .ok { name, entries := [{ rule := r }] } := by
  have fits : isSortable [r] = true := by simp [isSortable]
  simp [ofCandidates, addAll, add, Candidate.toRule, insertFault?, insert, hasRule, rules,
    insertEntry, fits]

/-- The result of a set of one rule that is on is that of the rule by the convention of the word. -/
theorem apply_singleton {r : Rule} (on : r.isOnByDefault = true) (name : Text) {word after : Text}
    {vowels : VowelSystem} {compound : Bool}
    (applied : r.apply word (some (Convention.detect word)) vowels compound = .ok after) :
    ∃ changes, ({ name, entries := [{ rule := r }] } : RuleSet).apply word vowels compound =
      .ok (after, changes) := by
  have active : ([{ rule := r }] : List Entry).filter Entry.isOn = [{ rule := r }] := by
    simp [Entry.isOn, on]
  rw [apply, active, List.map_singleton, pass, applied]
  simp only [bind, Except.bind, pass]
  split
  · exact ⟨_, rfl⟩
  · exact ⟨_, rfl⟩

/-- A set of one rule that is on and has no condition gives every word the result that the rule
    gives it, unless the word hides its stand-ins. Then the set gives the result of the single
    convention, and the rule that of digraphs. No composed word does this. -/
theorem singleton_agrees_with_rule {r : Rule} (compiled : r.IsCompiled)
    (on : r.isOnByDefault = true) (free : r.condition = .null) (name word : Text)
    (vowels : VowelSystem) (compound : Bool) :
    ∃ s result changes alone,
      ofCandidates name [.rule r] = .ok s ∧
      s.apply word vowels compound = .ok (result, changes) ∧
      r.apply word none vowels compound = .ok alone ∧
      (¬word.HidesStandIns → result = alone) ∧
      (word.HidesStandIns →
        r.apply word (some .single) vowels compound = .ok result ∧
        r.apply word (some .digraphs) vowels compound = .ok alone) ∧
      (word.nfc = word → result = alone) := by
  obtain ⟨alone, byItself⟩ := compiled.exists_apply_eq_ok free word none vowels compound
  obtain ⟨result, inSet⟩ :=
    compiled.exists_apply_eq_ok free word (some (Convention.detect word)) vowels compound
  obtain ⟨changes, passed⟩ := apply_singleton on name inSet
  have agree : ¬word.HidesStandIns → result = alone := by
    intro shows
    rcases detect_nfc_cases word with ⟨_, same⟩ | ⟨hides, _⟩
    · rw [Rule.apply_none, same, inSet] at byItself
      exact Except.ok.inj byItself
    · exact absurd hides shows
  refine ⟨_, result, changes, alone, ofCandidates_singleton name r, passed, byItself, agree,
    fun hides => ?_, fun composed => agree (Text.not_hidesStandIns_of_composed composed)⟩
  rcases detect_nfc_cases word with ⟨shows, _⟩ | ⟨_, written, composed⟩
  · exact absurd hides shows
  · rw [written] at inSet
    rw [Rule.apply_none, composed] at byItself
    exact ⟨inSet, byItself⟩

/-- The notation of a rule that turns `a` into the dental fricative. -/
def fricativeNotation : Text := ['[', 'a', ']', '>', '[', 'θ', ']']

-- A composed `ẋ` hides nothing, and a decomposed one would hide the stand-in `x`.
theorem singleton_agrees_with_rule_of_composed_word :
    ∃ r : Rule, r.notated = fricativeNotation ∧ r.IsCompiled ∧ r.isOnByDefault = true ∧
      r.condition = .null ∧ Text.nfc ['ẋ', 'a'] = ['ẋ', 'a'] ∧
      ∃ s changes, ofCandidates ['s'] [.rule r] = .ok s ∧
        s.apply ['ẋ', 'a'] ⟨false, false⟩ false = .ok (['ẋ', 't', 'h'], changes) ∧
        r.apply ['ẋ', 'a'] none ⟨false, false⟩ false = .ok ['ẋ', 't', 'h'] := by
  have results : (SoundLaw.compile fricativeNotation).toOption.map
      (fun variants => (substituteFirst ['ẋ', 'a'] none variants).toOption) =
        some (some (some ['ẋ', 't', 'h'])) := by decide +kernel
  obtain ⟨variants, made, first⟩ := Option.map_eq_some_iff.1 results
  let r : Rule := { name := ['r'], notated := fricativeNotation, variants }
  have compiled : r.IsCompiled := eq_ok_of_toOption_eq_some made
  have first : substituteFirst ['ẋ', 'a'] none r.variants = .ok (some ['ẋ', 't', 'h']) :=
    eq_ok_of_toOption_eq_some first
  have applied := Rule.apply_of_free (show r.condition = .null from rfl) first ⟨false, false⟩ false
  have composed : Text.nfc ['ẋ', 'a'] = ['ẋ', 'a'] := by decide +kernel
  obtain ⟨s, result, changes, alone, gathered, passed, byItself, _, _, agree⟩ :=
    singleton_agrees_with_rule compiled rfl rfl ['s'] ['ẋ', 'a'] ⟨false, false⟩ false
  have spelled : alone = ['ẋ', 't', 'h'] := Except.ok.inj (byItself.symm.trans applied)
  rw [agree composed, spelled] at passed
  exact ⟨r, rfl, compiled, rfl, rfl, composed, s, changes, gathered, passed, applied⟩

/-- Of a decomposed `aẍ` the set makes `θẍ`, and the rule makes `thẍ`. -/
theorem singleton_hides_standIn :
    ∃ r : Rule, r.notated = fricativeNotation ∧ r.IsCompiled ∧ r.isOnByDefault = true ∧
      r.condition = .null ∧
      ∃ s changes, ofCandidates ['s'] [.rule r] = .ok s ∧
        s.apply ['a', 'x', '\u0308'] ⟨false, false⟩ false = .ok (['θ', 'ẍ'], changes) ∧
        r.apply ['a', 'x', '\u0308'] none ⟨false, false⟩ false = .ok ['t', 'h', 'ẍ'] := by
  have results : (SoundLaw.compile fricativeNotation).toOption.map (fun variants =>
      ((substituteFirst ['a', 'x', '\u0308'] (some .single) variants).toOption,
        (substituteFirst ['a', 'x', '\u0308'] none variants).toOption)) =
          some (some (some ['θ', 'ẍ']), some (some ['t', 'h', 'ẍ'])) := by decide +kernel
  obtain ⟨variants, made, both⟩ := Option.map_eq_some_iff.1 results
  obtain ⟨single, digraphs⟩ := Prod.mk.inj both
  let r : Rule := { name := ['r'], notated := fricativeNotation, variants }
  have compiled : r.IsCompiled := eq_ok_of_toOption_eq_some made
  have single : substituteFirst ['a', 'x', '\u0308'] (some .single) r.variants =
      .ok (some ['θ', 'ẍ']) := eq_ok_of_toOption_eq_some single
  have digraphs : substituteFirst ['a', 'x', '\u0308'] none r.variants =
      .ok (some ['t', 'h', 'ẍ']) := eq_ok_of_toOption_eq_some digraphs
  have free : r.condition = .null := rfl
  have written : Convention.detect ['a', 'x', '\u0308'] = .single := by decide
  have inSet := Rule.apply_of_free free single ⟨false, false⟩ false
  rw [← written] at inSet
  obtain ⟨changes, passed⟩ := apply_singleton (r := r) rfl ['s'] inSet
  exact ⟨r, rfl, compiled, rfl, free, _, changes, ofCandidates_singleton ['s'] r, passed,
    Rule.apply_of_free free digraphs ⟨false, false⟩ false⟩

end RuleSet

end SoundLaw
