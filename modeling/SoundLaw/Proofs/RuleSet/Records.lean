/-
  SoundLaw.Proofs.RuleSet.Records

  Rule sets and their records. A valid record of a compiled rule is read back as the rule itself
  (`ofRecord_of_toRecord`). The rules of a set that has a record are plain, and stand in order under
  different names (`InOrder.run`), so that each of them is valid, is not there yet, and goes behind
  those before it when the record is read: nothing is lost, and nothing changes its place.
-/
import SoundLaw.Proofs.RuleSet.Pass

namespace SoundLaw

/-! ## Records of rules -/

/-- The value of a rule for a field. -/
def Rule.value (r : Rule) : Field → Value
  | .name => .text r.name
  | .notated => .text r.notated
  | .orderId => r.orderId
  | .description => r.description
  | .url => r.url
  | .skip => r.skip
  | .condition => r.condition

theorem Rule.fields_eq (r : Rule) : r.fields = Field.all.map fun f => (f.key, r.value f) := rfl

theorem Rule.get?_fields (r : Rule) (f : Field) : r.fields.get? f = some (r.value f) := by
  cases f <;> rfl

/-- The record of a compiled rule, if it is valid, is read back as this rule. -/
theorem Rule.IsCompiled.ofRecord_of_toRecord {r : Rule} (compiled : r.IsCompiled) {record : Record}
    (written : r.toRecord = .ok record) : Rule.ofRecord record = .ok r := by
  rw [Rule.toRecord] at written
  split at written
  · next valid =>
    obtain rfl := Except.ok.inj written
    have known : (r.fields.all fun entry => (Field.ofKey? entry.1).isSome) = true := by
      rw [Rule.fields_eq, List.all_map, List.all_eq_true]
      intro f _
      rw [Function.comp, Field.ofKey?_key, Option.isSome_some]
    rw [Rule.ofRecord, if_pos valid, Rule.ofFields]
    simp only [Rule.get?_fields, Rule.value, known, Value.isText, Value.asText, Option.getD_some,
      Bool.not_true, Bool.false_eq_true, if_false]
    rw [compiled]
    rfl
  · exact absurd written (by simp)

theorem Rule.toRecord_eq_ok_iff {r : Rule} {record : Record} :
    r.toRecord = .ok record ↔ r.fields.isValid = true ∧ r.fields = record := by
  rw [Rule.toRecord]
  split
  · next valid => simp [valid]
  · next invalid => simp [invalid]

namespace RuleSet

/-! ## Rules in order -/

/-- A set whose rules have different names and stand in the order of their keys. Only plain rules
    have keys that can be put in order. -/
structure InOrder (s : RuleSet) : Prop where
  names : (s.rules.map Rule.name).Nodup
  sorted : (∀ r ∈ s.rules, r.IsPlain) → s.rules.Pairwise fun a b => a.mayPrecede b = true

theorem inOrder_of_new (name : Text) : InOrder { name } where
  names := List.nodup_nil
  sorted _ := List.Pairwise.nil

theorem InOrder.insert {s : RuleSet} (h : s.InOrder) (r : Rule) : (s.insert r).InOrder := by
  by_cases there : s.hasRule r.name = true
  · rwa [insert_of_hasRule there]
  have new : s.hasRule r.name = false := by simpa using there
  obtain ⟨before, after, whole, inserted⟩ := insert_splits new
  have rules : s.rules = before.map Entry.rule ++ after.map Entry.rule := by
    rw [RuleSet.rules, whole, List.map_append]
  have rules' : (s.insert r).rules = before.map Entry.rule ++ r :: after.map Entry.rule := by
    rw [RuleSet.rules, inserted, List.map_append, List.map_cons]
  constructor
  · rw [rules', (List.perm_middle.map Rule.name).nodup_iff, ← rules, List.map_cons,
      List.nodup_cons]
    exact ⟨fun known => there (hasRule_iff.2 known), h.names⟩
  · intro plain
    have own : r.IsPlain := plain r (by simp [rules'])
    have others : ∀ q ∈ s.rules, q.IsPlain := by
      intro q hq
      apply plain q
      rw [rules, List.mem_append] at hq
      rw [rules', List.mem_append, List.mem_cons]
      exact hq.imp_right Or.inr
    have sortable : isSortable (s.rules ++ [r]) = true := by
      apply isSortable_of_isPlain
      exact List.forall_mem_append.2 ⟨others, List.forall_mem_singleton.2 own⟩
    -- An insertion into a sorted list is the sort of the list with the rule at its end.
    have sort : (s.insert r).rules = (s.rules ++ [r]).mergeSort Rule.mayPrecede := by
      rw [mergeSort_append_singleton Rule.mayPrecede_trans Rule.mayPrecede_total,
        List.mergeSort_of_pairwise (h.sorted others), RuleSet.insert, if_neg there,
        if_pos sortable]
      exact map_rule_insertEntry own fun d hd => others d.rule (List.mem_map_of_mem hd)
    rw [sort]
    exact List.pairwise_mergeSort Rule.mayPrecede_trans Rule.mayPrecede_total _

/-- The rules of a set stay in order through any calls. -/
theorem InOrder.run {s : RuleSet} (h : s.InOrder) (calls : List Call) : (s.run calls).InOrder := by
  refine run_induction (fun c _ r _ s h => h.insert r) (fun s t _ _ toggled h => ?_) h
  have rules := rules_of_toggle toggled
  exact ⟨by rw [rules]; exact h.names, by rw [rules]; exact h.sorted⟩

/-! ## Records of sets -/

/-- The set of some rules, each with its default. -/
def ofRules (name : Text) (rules : List Rule) : RuleSet where
  name := name
  entries := rules.map fun rule => { rule }

theorem rules_ofRules (name : Text) (rules : List Rule) : (ofRules name rules).rules = rules := by
  rw [RuleSet.rules, ofRules, List.map_map]
  exact List.map_id rules

theorem insertEntry_of_last {e : Entry} {entries : List Entry}
    (last : ∀ d ∈ entries, precedes e.rule d.rule = false) :
    insertEntry e entries = entries ++ [e] := by
  induction entries with
  | nil => rfl
  | cons d entries ih =>
    obtain ⟨here, later⟩ := List.forall_mem_cons.1 last
    rw [insertEntry, here, if_neg Bool.false_ne_true, ih later, List.cons_append]

section

variable {name : Text} {rules : List Rule} {r : Rule} (plain : ∀ q ∈ rules ++ [r], q.IsPlain)

include plain

theorem insert_ofRules (new : r.name ∉ rules.map Rule.name)
    (last : ∀ q ∈ rules, q.mayPrecede r = true) :
    (ofRules name rules).insert r = ofRules name (rules ++ [r]) := by
  have unknown : ¬(ofRules name rules).hasRule r.name = true := by
    rwa [hasRule_iff, rules_ofRules]
  have behind : ∀ d ∈ (ofRules name rules).entries, precedes r d.rule = false := by
    intro d hd
    obtain ⟨q, hq, rfl⟩ := List.mem_map.1 hd
    rw [precedes_eq_not_mayPrecede (plain r (by simp)) (plain q (List.mem_append_left [r] hq)),
      last q hq, Bool.not_true]
  rw [RuleSet.insert, if_neg unknown, rules_ofRules, if_pos (isSortable_of_isPlain plain),
    insertEntry_of_last behind, ofRules, ofRules, List.map_append, List.map_singleton]

theorem insertFault?_ofRules : (ofRules name rules).insertFault? r = none := by
  rw [insertFault?, rules_ofRules, isSortable_of_isPlain plain, Bool.or_true, if_pos rfl]

end

/-- The records of rules that go behind those of a set, in order and under new names, are added as
    they come. -/
theorem addAll_records {name : Text} {before later : List Rule}
    (compiled : ∀ r ∈ later, r.IsCompiled) (valid : ∀ r ∈ later, r.fields.isValid = true)
    (plain : ∀ r ∈ before ++ later, r.IsPlain) (names : ((before ++ later).map Rule.name).Nodup)
    (sorted : (before ++ later).Pairwise fun a b => a.mayPrecede b = true) :
    (ofRules name before).addAll (later.map fun r => .record r.fields) =
      (ofRules name (before ++ later), none) := by
  -- Along the records: the rule of the one that is read goes over to the set.
  induction later generalizing before with
  | nil => rw [List.append_nil]; rfl
  | cons r later ih =>
    obtain ⟨compiledHere, compiledLater⟩ := List.forall_mem_cons.1 compiled
    obtain ⟨validHere, validLater⟩ := List.forall_mem_cons.1 valid
    have made : Candidate.toRule (.record r.fields) = .ok r := by
      rw [Candidate.toRule, if_pos validHere]
      exact compiledHere.ofRecord_of_toRecord (Rule.toRecord_eq_ok_iff.2 ⟨validHere, rfl⟩)
    have split : before ++ r :: later = before ++ [r] ++ later := by simp
    rw [split] at plain names sorted
    have plainHere : ∀ q ∈ before ++ [r], q.IsPlain := (List.forall_mem_append.1 plain).1
    have new : r.name ∉ before.map Rule.name := by
      rw [List.map_append, List.map_append, List.nodup_append, List.nodup_append] at names
      intro known
      exact names.1.2.2 r.name known r.name (by simp) rfl
    have last : ∀ q ∈ before, q.mayPrecede r = true := fun q hq =>
      (List.pairwise_append.1 (List.pairwise_append.1 sorted).1).2.2 q hq r (by simp)
    rw [List.map_cons, addAll, add, made]
    simp only [insert_ofRules plainHere new last, insertFault?_ofRules plainHere]
    rw [split]
    exact ih compiledLater validLater plain names sorted

/-- A set whose rules are in order and compiled is read back from its record with its rules. -/
theorem ofRecord_of_toRecord {s : RuleSet} (ordered : s.InOrder) (compiled : s.IsCompiled)
    {record : SetRecord} (written : s.toRecord = .ok record) :
    ofRecord record = .ok (ofRules s.name s.rules) := by
  obtain ⟨records, each, made⟩ := bind_eq_ok_iff.1 written
  have each := mapM_eq_ok_iff.1 each
  have valid : ∀ r ∈ s.rules, r.fields.isValid = true := by
    intro r hr
    obtain ⟨fields, _, made⟩ := exists_of_forall₂ each hr
    exact (Rule.toRecord_eq_ok_iff.1 made).1
  have plain : ∀ r ∈ s.rules, r.IsPlain := by
    intro r hr
    have read := Rule.toRecord_eq_ok_iff.2 ⟨valid r hr, rfl⟩
    exact Rule.isPlain_of_ofRecord ((compiled r hr).ofRecord_of_toRecord read)
  have fields : s.rules.map Rule.fields = records := by
    rw [← List.forall₂_eq_eq_eq, List.forall₂_map_left_iff]
    exact each.imp fun _ _ made => (Rule.toRecord_eq_ok_iff.1 made).2
  dsimp only at made
  split at made
  · obtain rfl := Except.ok.inj made
    have added : (ofRules s.name []).addAll (s.rules.map (Candidate.record ∘ Rule.fields)) =
        (ofRules s.name ([] ++ s.rules), none) :=
      addAll_records compiled valid plain ordered.names (ordered.sorted plain)
    have empty : ofRules s.name [] = { name := s.name } := rfl
    rw [empty, List.nil_append] at added
    rw [ofRecord, ofCandidates, ← fields, List.map_map, added]
  · exact absurd made (by simp)

/-- A set with all its rules as they are by default. -/
def IsDefault (s : RuleSet) : Prop := ∀ e ∈ s.entries, e.isOn = e.rule.isOnByDefault

theorem isDefault_ofRules (name : Text) (rules : List Rule) : (ofRules name rules).IsDefault := by
  intro e he
  obtain ⟨r, _, rfl⟩ := List.mem_map.1 he
  rfl

theorem IsDefault.enabled {s : RuleSet} (h : s.IsDefault) :
    s.enabled = s.rules.filter Rule.isOnByDefault := by
  rw [RuleSet.enabled, RuleSet.rules, List.filter_map, List.filter_congr h]
  rfl

/-- A set that any calls have made, if it has a record, is read back from this with the same name and
    the same rules in the same order. If no rule is switched, the two sets make the same changes to
    every word. -/
theorem run_reads_back (name : Text) {calls : List Call} (compiled : ∀ c ∈ calls, c.IsCompiled)
    {record : SetRecord} (written : (run { name } calls).toRecord = .ok record) :
    ∃ t, ofRecord record = .ok t ∧ t.name = (run { name } calls).name ∧
      t.rules = (run { name } calls).rules ∧
      ((run { name } calls).IsDefault → ∀ word vowels compound,
        t.apply word vowels compound = (run { name } calls).apply word vowels compound) := by
  have ordered := (inOrder_of_new name).run calls
  have compiled : (run { name } calls).IsCompiled :=
    IsCompiled.run (fun r hr => absurd hr (by simp [rules])) compiled
  refine ⟨_, ofRecord_of_toRecord ordered compiled written, rfl, rules_ofRules _ _,
    fun default word vowels compound => ?_⟩
  have same : (ofRules (run { name } calls).name (run { name } calls).rules).enabled =
      (run { name } calls).enabled := by
    rw [default.enabled, (isDefault_ofRules _ _).enabled, rules_ofRules]
  rw [apply, apply, ← RuleSet.enabled, ← RuleSet.enabled, same]

/-- Calls that add a rule without an order key, something that is no rule, and a rule of two options
    with a key and a condition, and then switch the first rule over twice. -/
def twiceSwitchedCalls : List Call := [
  .add (.record [
    (Field.key .name, .text ['a']),
    (Field.key .notated, .text "[a] > [e]".toList)]),
  .addAll [.other, .record [
    (Field.key .name, .text ['b']),
    (Field.key .notated, .text "[l|r] > [r|l]".toList),
    (Field.key .orderId, .text ['1']),
    (Field.key .condition, .condition .polysyllabic)]],
  .toggle ['a'] none, .toggle ['a'] none]

theorem run_reads_back_of_twiceSwitchedCalls :
    (∀ c ∈ twiceSwitchedCalls, c.IsCompiled) ∧
      ∃ record t, (run { name := ['s'] } twiceSwitchedCalls).toRecord = .ok record ∧
        ofRecord record = .ok t ∧ t.rules.map Rule.name = [['b'], ['a']] ∧
        t.apply ['a', 'l', 'a'] ⟨false, false⟩ false =
          (run { name := ['s'] } twiceSwitchedCalls).apply ['a', 'l', 'a'] ⟨false, false⟩ false := by
  have compiled : ∀ c ∈ twiceSwitchedCalls, c.IsCompiled := by
    simp [twiceSwitchedCalls, Call.IsCompiled, Candidate.IsCompiled]
  have recorded : ((run { name := ['s'] } twiceSwitchedCalls).toRecord).toOption.isSome = true := by
    decide +kernel
  obtain ⟨record, written⟩ := Option.isSome_iff_exists.1 recorded
  have written := eq_ok_of_toOption_eq_some written
  have names : (run { name := ['s'] } twiceSwitchedCalls).rules.map Rule.name = [['b'], ['a']] := by
    decide +kernel
  have default : (run { name := ['s'] } twiceSwitchedCalls).IsDefault := by
    have checked : ((run { name := ['s'] } twiceSwitchedCalls).entries.all fun e =>
        e.isOn == e.rule.isOnByDefault) = true := by decide +kernel
    exact fun e he => beq_iff_eq.1 (List.all_eq_true.1 checked e he)
  obtain ⟨t, read, _, rules, agree⟩ := run_reads_back ['s'] compiled written
  exact ⟨compiled, record, t, written, read, by rw [rules, names], agree default _ _ _⟩

end RuleSet

end SoundLaw
