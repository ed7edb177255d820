/-
  SoundLaw.Proofs.RuleSet.Pass

  A pass of a rule set over a word. It is a path of stages, one for each rule that is on: the rule is
  applied to what the one before it left (`Passes`). The log of the pass is read off the path, and
  leaves out the stages that change nothing; since these do not move the word either, what is
  recorded is a chain from the word to the result.

  A stage never fails but by its condition. For this the rules must be compiled, which every rule of a
  set is, whatever calls have made the set (`IsCompiled.run`).
-/
import SoundLaw.Proofs.RuleSet.Calls
import SoundLaw.Proofs.Substitution.Total

namespace SoundLaw

/-! ## Compiled rules -/

/-- A rule whose variants are those of its notation. -/
def Rule.IsCompiled (r : Rule) : Prop := compile r.notated = .ok r.variants

theorem Rule.isCompiled_of_ofRecord {record : Record} {r : Rule}
    (h : Rule.ofRecord record = .ok r) : r.IsCompiled :=
  (Rule.eq_of_ofRecord h).1

/-- Options that are all well formed can be tried on every word. -/
theorem exists_substituteFirst_eq_ok {variants : List Variant}
    (wellFormed : ∀ v ∈ variants, v.WellFormed) (word : Text) (convention : Option Convention) :
    ∃ matched, substituteFirst word convention variants = .ok matched := by
  induction variants with
  | nil => exact ⟨none, rfl⟩
  | cons v variants ih =>
    obtain ⟨first, others⟩ := List.forall_mem_cons.1 wellFormed
    obtain ⟨outcome, substituted⟩ := exists_substitute_eq_ok first word convention
    rw [substituteFirst, substituted]
    cases outcome with
    | some result => exact ⟨some result, rfl⟩
    | none => exact ih others

/-- A compiled rule gives a word, unless it has a condition that cannot be asked. -/
theorem Rule.IsCompiled.apply_cases {r : Rule} (compiled : r.IsCompiled) (word : Text)
    (convention : Option Convention) (vowels : VowelSystem) (compound : Bool) :
    r.apply word convention vowels compound = .error .notACondition ∨
      ∃ after, r.apply word convention vowels compound = .ok after := by
  obtain ⟨matched, first⟩ :=
    exists_substituteFirst_eq_ok (wellFormed_of_compile compiled) word convention
  have asked : r.appliesTo word vowels compound = .error .notACondition ∨
      ∃ holds, r.appliesTo word vowels compound = .ok holds := by
    rw [Rule.appliesTo]
    cases r.condition with
    | null => exact Or.inr ⟨true, rfl⟩
    | condition c => exact Or.inr ⟨_, rfl⟩
    | _ => exact Or.inl rfl
  rw [Rule.apply]
  rcases asked with refused | ⟨holds, answered⟩
  · rw [refused]
    exact Or.inl rfl
  · rw [answered]
    cases holds with
    | true =>
      simp only [bind, Except.bind, if_true, first]
      exact Or.inr ⟨_, rfl⟩
    | false => exact Or.inr ⟨word, rfl⟩

/-- A candidate that is a compiled rule, if it is a rule. -/
def Candidate.IsCompiled : Candidate → Prop
  | .rule r => r.IsCompiled
  | .record _ => True
  | .other => True

theorem Candidate.IsCompiled.of_toRule {c : Candidate} (compiled : c.IsCompiled) {r : Rule}
    (h : c.toRule = .ok r) : r.IsCompiled := by
  cases c with
  | rule q =>
    obtain rfl := Except.ok.inj h
    exact compiled
  | record fields =>
    rw [Candidate.toRule] at h
    split at h
    · exact Rule.isCompiled_of_ofRecord h
    · simp at h
  | other => simp [Candidate.toRule] at h

namespace RuleSet

/-- A set of compiled rules. -/
def IsCompiled (s : RuleSet) : Prop := ∀ r ∈ s.rules, r.IsCompiled

/-- Whether all candidates of a call are compiled. -/
def Call.IsCompiled : Call → Prop
  | .add c => c.IsCompiled
  | .addAll candidates => ∀ c ∈ candidates, c.IsCompiled
  | .toggle _ _ => True

theorem Call.isCompiled_iff {c : Call} : c.IsCompiled ↔ ∀ k ∈ c.candidates, k.IsCompiled := by
  cases c <;> simp [Call.IsCompiled, Call.candidates]

theorem IsCompiled.insert {s : RuleSet} (h : s.IsCompiled) {r : Rule} (compiled : r.IsCompiled) :
    (s.insert r).IsCompiled := by
  intro q hq
  rcases mem_rules_insert hq with before | ⟨rfl, _⟩
  · exact h q before
  · exact compiled

/-- The rules of a set stay compiled through any calls. -/
theorem IsCompiled.run {s : RuleSet} (h : s.IsCompiled) {calls : List Call}
    (compiled : ∀ c ∈ calls, c.IsCompiled) : (s.run calls).IsCompiled := by
  refine run_induction (fun c hc r hr s h => ?_) (fun s t _ _ toggled h => ?_) h
  · obtain ⟨k, member, made⟩ := Call.exists_candidate hr
    exact h.insert ((Call.isCompiled_iff.1 (compiled c hc) k member).of_toRule made)
  · intro r hr
    rw [rules_of_toggle toggled] at hr
    exact h r hr

/-! ## Stages -/

/-- What a rule makes of a word in a pass. -/
structure Stage where
  rule : Rule
  before : Text
  after : Text

/-- Whether the rule of a stage changes the word. -/
def Stage.isChange (stage : Stage) : Bool := stage.after != stage.before

/-- A stage as it is recorded. -/
def Stage.change (stage : Stage) : Change where
  rule := stage.rule.name
  orderId := stage.rule.orderId
  description := stage.rule.description
  before := stage.before
  after := stage.after

/-- The changes of a pass: its stages, without those that change nothing. -/
def changesOf (stages : List Stage) : List Change :=
  (stages.filter Stage.isChange).map Stage.change

theorem changesOf_cons (stage : Stage) (stages : List Stage) :
    changesOf (stage :: stages) =
      if stage.after = stage.before then changesOf stages
      else stage.change :: changesOf stages := by
  by_cases same : stage.after = stage.before
  · rw [if_pos same, changesOf, List.filter_cons_of_neg (by simp [Stage.isChange, same]), changesOf]
  · rw [if_neg same, changesOf, List.filter_cons_of_pos (by simp [Stage.isChange, same]), changesOf,
      List.map_cons]

/-- A path of stages from a word to a result, where each rule is applied to what the one before it
    left. -/
inductive Passes (apply : Rule → Text → Except Error Text) : Text → List Stage → Text → Prop
  | nil {word : Text} : Passes apply word [] word
  | cons {rule : Rule} {word after result : Text} {stages : List Stage}
      (applied : apply rule word = .ok after) (later : Passes apply after stages result) :
      Passes apply word (⟨rule, word, after⟩ :: stages) result

namespace Passes

variable {apply : Rule → Text → Except Error Text} {word result : Text} {stages : List Stage}
  (path : Passes apply word stages result)

include path

/-- The result of a pass is the fold of its rules over the word. -/
theorem foldlM : (stages.map Stage.rule).foldlM (fun w r => apply r w) word = .ok result := by
  induction path with
  | nil => rfl
  | cons applied _ ih =>
    rw [List.map_cons, List.foldlM_cons, applied]
    exact ih

/-- The changes of a pass are a chain from the word to the result: what changes nothing leaves no
    gap. -/
theorem chain_changes :
    (changesOf stages).map Change.before ++ [result] = word :: (changesOf stages).map Change.after := by
  induction path with
  | nil => rfl
  | @cons rule word after result stages _ _ ih =>
    rw [changesOf_cons]
    by_cases same : after = word
    · rw [if_pos same, ih, same]
    · rw [if_neg same, List.map_cons, List.map_cons, List.cons_append, ih]
      rfl

end Passes

/-! ## The pass of a rule set -/

/-- Compiled rules pass over a word, and the log holds the changes of the path, unless one of them
    has a condition that cannot be asked. -/
theorem pass_cases {rules : List Rule} (compiled : ∀ r ∈ rules, r.IsCompiled)
    (convention : Convention) (vowels : VowelSystem) (compound : Bool) (word : Text) :
    pass convention vowels compound word rules = .error .notACondition ∨
      ∃ stages result,
        Passes (fun r w => r.apply w (some convention) vowels compound) word stages result ∧
        stages.map Stage.rule = rules ∧
        pass convention vowels compound word rules = .ok (result, changesOf stages) := by
  induction rules generalizing word with
  | nil => exact Or.inr ⟨[], word, .nil, rfl, rfl⟩
  | cons r rules ih =>
    obtain ⟨first, others⟩ := List.forall_mem_cons.1 compiled
    rw [pass]
    rcases first.apply_cases word (some convention) vowels compound with refused | ⟨after, applied⟩
    · rw [refused]
      exact Or.inl rfl
    rw [applied]
    rcases ih others after with refused | ⟨stages, result, path, names, passed⟩
    · left
      simp only [bind, Except.bind, refused]
    · right
      refine ⟨⟨r, word, after⟩ :: stages, result, .cons applied path, ?_, ?_⟩
      · rw [List.map_cons, names]
      · rw [changesOf_cons]
        simp only [bind, Except.bind, passed]
        by_cases same : after = word
        · rw [if_pos same, if_pos same]
          rfl
        · rw [if_neg same, if_neg same]
          rfl

/-- The rules of a set that are on, in order. -/
def enabled (s : RuleSet) : List Rule := (s.entries.filter Entry.isOn).map Entry.rule

theorem IsCompiled.enabled {s : RuleSet} (h : s.IsCompiled) : ∀ r ∈ s.enabled, r.IsCompiled := by
  intro r hr
  obtain ⟨e, he, rfl⟩ := List.mem_map.1 hr
  exact h e.rule (List.mem_map_of_mem (List.mem_of_mem_filter he))

/-- If no condition refuses to be asked, a pass gives the fold of the rules that are on, each applied
    to the result of the one before it by the convention of the word, and a log of it. The log
    names some of these rules, in their order; a rule that it does not record leaves the word exactly
    as it is, and one that it records does not. The first change starts from the word, each other
    one from the result of the change before it, and the last one ends in the result. -/
theorem pass_folds_and_logs {s : RuleSet} (compiled : s.IsCompiled) (word : Text)
    (vowels : VowelSystem) (compound : Bool)
    (asked : s.apply word vowels compound ≠ .error .notACondition) :
    ∃ result changes stages,
      s.apply word vowels compound = .ok (result, changes) ∧
      s.enabled.foldlM
        (fun w r => r.apply w (some (Convention.detect word)) vowels compound) word = .ok result ∧
      Passes (fun r w => r.apply w (some (Convention.detect word)) vowels compound) word stages
        result ∧
      stages.map Stage.rule = s.enabled ∧
      changes = changesOf stages ∧
      (changes.map Change.rule).Sublist (s.enabled.map Rule.name) ∧
      (∀ stage ∈ stages, stage.change ∈ changes ∨ stage.after = stage.before) ∧
      (∀ c ∈ changes, c.before ≠ c.after) ∧
      changes.map Change.before ++ [result] = word :: changes.map Change.after ∧
      (changes = [] → result = word) := by
  rcases pass_cases compiled.enabled (Convention.detect word) vowels compound word with
    refused | ⟨stages, result, path, rules, passed⟩
  · exact absurd refused asked
  have chain := path.chain_changes
  refine ⟨result, changesOf stages, stages, passed, rules ▸ path.foldlM, path, rules,
    rfl, ?_, fun stage hs => ?_, fun c hc => ?_, chain, fun empty => ?_⟩
  · have names : (changesOf stages).map Change.rule =
        (stages.filter Stage.isChange).map fun stage => stage.rule.name := by
      rw [changesOf, List.map_map]
      rfl
    rw [names, ← rules, List.map_map]
    exact List.filter_sublist.map _
  · by_cases changes : stage.isChange = true
    · exact Or.inl (List.mem_map_of_mem (List.mem_filter.2 ⟨hs, changes⟩))
    · exact Or.inr (by simpa [Stage.isChange] using changes)
  · obtain ⟨stage, hs, rfl⟩ := List.mem_map.1 hc
    have changes : stage.after ≠ stage.before := by
      simpa [Stage.isChange] using (List.mem_filter.1 hs).2
    exact changes.symm
  · rw [empty] at chain
    simpa using chain

/-- Calls that add a rule with nothing to match in `olna`, one that assimilates, one for words of
    several syllables, and one that is off. -/
def assimilationCalls : List Call :=
  let record (name notated : Text) (condition : Value) (off : Bool) : Candidate := .record [
    (Field.key .name, .text name),
    (Field.key .notated, .text notated),
    (Field.key .orderId, .text name),
    (Field.key .skip, .flag off),
    (Field.key .condition, condition)]
  [.addAll [
    record ['1'] ['[', 't', ']', '>', '[', 'd', ']'] .null false,
    record ['2'] ['[', 'l', 'n', ']', '>', '[', 'l', 'l', ']'] .null false,
    record ['3'] ['[', 'a', '-', ']', '>', '[', 'e', '-', ']'] .null true,
    record ['4'] ['[', 'a', ']', '>', '[', 'e', ']'] (.condition .polysyllabic) false]]

theorem pass_folds_and_logs_of_assimilation :
    (run { name := ['s'] } assimilationCalls).IsCompiled ∧
      (run { name := ['s'] } assimilationCalls).apply ['o', 'l', 'n', 'a'] ⟨false, false⟩ false ≠
        .error .notACondition ∧
      ∃ changes, (run { name := ['s'] } assimilationCalls).apply ['o', 'l', 'n', 'a']
          ⟨false, false⟩ false = .ok (['o', 'l', 'l', 'e'], changes) ∧
        changes.map Change.rule = [['2'], ['4']] ∧
        changes.map Change.before ++ [['o', 'l', 'l', 'e']] =
          ['o', 'l', 'n', 'a'] :: changes.map Change.after := by
  have compiled : (run { name := ['s'] } assimilationCalls).IsCompiled := by
    refine IsCompiled.run (s := { name := ['s'] }) (by simp [IsCompiled, rules]) ?_
    simp [assimilationCalls, Call.IsCompiled, Candidate.IsCompiled]
  have passed : ((run { name := ['s'] } assimilationCalls).apply ['o', 'l', 'n', 'a']
      ⟨false, false⟩ false).toOption.map (fun pass => (pass.1, pass.2.map Change.rule)) =
        some (['o', 'l', 'l', 'e'], [['2'], ['4']]) := by decide +kernel
  obtain ⟨⟨word, log⟩, applied, same⟩ := Option.map_eq_some_iff.1 passed
  obtain ⟨rfl, names⟩ := Prod.mk.inj same
  have applied := eq_ok_of_toOption_eq_some applied
  have asked : (run { name := ['s'] } assimilationCalls).apply ['o', 'l', 'n', 'a'] ⟨false, false⟩
      false ≠ .error .notACondition := by simp [applied]
  obtain ⟨result, changes, stages, passed, _, _, _, _, _, _, _, chain, _⟩ :=
    pass_folds_and_logs compiled _ _ _ asked
  obtain ⟨rfl, rfl⟩ := Prod.mk.inj (Except.ok.inj (passed.symm.trans applied))
  exact ⟨compiled, asked, changes, passed, names, chain⟩

end RuleSet

end SoundLaw
