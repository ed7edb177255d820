/-
  SoundLaw.Proofs.RuleSet.Calls

  A rule set through any sequence of calls that add and toggle rules. At every time its rules are
  the sorted first ones of those that were accepted; toggling leaves the rules alone, adding rules
  leaves the others switched as they are, and a call that fails leaves the set as it was.

  A call inserts the rules that it accepts one after the other (`Sorts.call_of_adds`), so what
  holds of a call follows from what holds of insertions, and what holds of a run from what holds of
  a call.
-/
import SoundLaw.Proofs.RuleSet.Order

namespace SoundLaw

/-! ## Rules of records -/

theorem Field.ofKey?_key (f : Field) : Field.ofKey? f.key = some f := by
  cases f <;> decide

/-- Every field of a valid record has a value that it admits. -/
theorem Record.admits_of_get? {r : Record} (valid : r.isValid = true) {f : Field} {v : Value}
    (given : r.get? f = some v) : f.admits v = true := by
  rw [Record.isValid, Bool.and_eq_true] at valid
  obtain ⟨before, after, whole, _⟩ := List.lookup_eq_some_iff.1 given
  have member : (f.key, v) ∈ r := by
    rw [whole]
    exact List.mem_append_right before List.mem_cons_self
  have admitted : (Field.ofKey? f.key).any (·.admits v) = true :=
    List.all_eq_true.1 valid.2 _ member
  rwa [Field.ofKey?_key, Option.any_some] at admitted

/-- A field of a record, or its default. -/
def Record.getOrDefault (r : Record) (f : Field) (default : Value) : Value :=
  (r.get? f).getD default

theorem Record.admits_getOrDefault {r : Record} (valid : r.isValid = true) {f : Field}
    {default : Value} (admitted : f.admits default = true) :
    f.admits (r.getOrDefault f default) = true := by
  rw [Record.getOrDefault]
  cases given : r.get? f with
  | none => exact admitted
  | some v => exact Record.admits_of_get? valid given

theorem Record.exists_text_of_isValid {r : Record} (valid : r.isValid = true) {f : Field}
    (required : f.isRequired = true) : ∃ t, r.get? f = some (.text t) := by
  have given : (r.get? f).isSome = true := by
    rw [Record.isValid, Bool.and_eq_true] at valid
    have each := List.all_eq_true.1 valid.1 f (by cases f <;> decide)
    simpa [required] using each
  obtain ⟨v, found⟩ := Option.isSome_iff_exists.1 given
  have admitted := Record.admits_of_get? valid found
  cases f <;> simp only [Field.isRequired, Bool.false_eq_true] at required <;>
    cases v <;> simp_all [Field.admits]

/-- The rule of a valid record has the fields of the record, and is compiled from its notation. -/
theorem Rule.ofRecord_of_isValid {record : Record} (valid : record.isValid = true) :
    ∃ name notated, record.get? .name = some (.text name) ∧
      record.get? .notated = some (.text notated) ∧
      Rule.ofRecord record = (compile notated).map fun variants =>
        { name
          notated
          orderId := record.getOrDefault .orderId .null
          description := record.getOrDefault .description (.text [])
          url := record.getOrDefault .url .null
          skip := record.getOrDefault .skip (.flag false)
          condition := record.getOrDefault .condition .null
          variants } := by
  obtain ⟨name, named⟩ := Record.exists_text_of_isValid valid (f := .name) rfl
  obtain ⟨notated, written⟩ := Record.exists_text_of_isValid valid (f := .notated) rfl
  refine ⟨name, notated, named, written, ?_⟩
  have known : (record.all fun entry => (Field.ofKey? entry.1).isSome) = true := by
    rw [Record.isValid, Bool.and_eq_true] at valid
    refine List.all_eq_true.2 fun entry member => ?_
    have admitted := List.all_eq_true.1 valid.2 entry member
    exact (Option.any_eq_true_iff_get _ _ |>.1 admitted).1
  rw [Rule.ofRecord, if_pos valid, Rule.ofFields]
  simp only [named, written, known, Value.isText, Value.asText, Bool.not_true, Bool.false_eq_true,
    if_false]
  cases compile notated <;> rfl

/-- Only valid records have rules. -/
theorem Rule.isValid_of_ofRecord {record : Record} {r : Rule} (h : Rule.ofRecord record = .ok r) :
    record.isValid = true := by
  rw [Rule.ofRecord] at h
  split at h
  · assumption
  · exact absurd h (by simp)

theorem Rule.eq_of_ofRecord {record : Record} {r : Rule} (h : Rule.ofRecord record = .ok r) :
    compile r.notated = .ok r.variants ∧ r.orderId = record.getOrDefault .orderId .null ∧
      r.skip = record.getOrDefault .skip (.flag false) := by
  obtain ⟨name, notated, _, _, whole⟩ := Rule.ofRecord_of_isValid (Rule.isValid_of_ofRecord h)
  rw [whole] at h
  cases compiled : compile notated with
  | error e =>
    rw [compiled] at h
    exact absurd h (by simp [Except.map])
  | ok variants =>
    rw [compiled] at h
    obtain rfl := Except.ok.inj h
    exact ⟨compiled, rfl, rfl⟩

theorem Field.admits_orderId_iff {v : Value} :
    Field.orderId.admits v = true ↔ v = .null ∨ ∃ t, v = .text t := by
  cases v <;> simp [Field.admits]

theorem Field.admits_skip_iff {v : Value} :
    Field.skip.admits v = true ↔ ∃ off, v = .flag off := by
  cases v <;> simp [Field.admits]

/-- The rule of a valid record is plain: its order key, if given, is a text, and its default, if
    given, is a truth value. -/
theorem Rule.isPlain_of_ofRecord {record : Record} {r : Rule} (h : Rule.ofRecord record = .ok r) :
    r.IsPlain := by
  have valid := Rule.isValid_of_ofRecord h
  obtain ⟨_, orderId, skip⟩ := Rule.eq_of_ofRecord h
  constructor
  · rw [orderId, ← Field.admits_orderId_iff]
    exact Record.admits_getOrDefault valid rfl
  · rw [skip, ← Field.admits_skip_iff]
    exact Record.admits_getOrDefault valid rfl

theorem Rule.IsPlain.isOnByDefault_iff {r : Rule} (h : r.IsPlain) :
    r.isOnByDefault = true ↔ r.skip = .flag false := by
  obtain ⟨off, default⟩ := h.skip
  rw [Rule.isOnByDefault, default]
  cases off <;> simp [Value.isTrue]

/-- A candidate that is a plain rule, if it is a rule. -/
def Candidate.IsPlain : Candidate → Prop
  | .rule r => r.IsPlain
  | .record _ => True
  | .other => True

theorem Candidate.IsPlain.of_toRule {c : Candidate} (plain : c.IsPlain) {r : Rule}
    (h : c.toRule = .ok r) : r.IsPlain := by
  cases c with
  | rule q =>
    obtain rfl := Except.ok.inj h
    exact plain
  | record fields =>
    rw [Candidate.toRule] at h
    split at h
    · exact Rule.isPlain_of_ofRecord h
    · simp at h
  | other => simp [Candidate.toRule] at h

namespace RuleSet

/-! ## Calls -/

/-- A call that changes a rule set. -/
inductive Call
  /-- Adds a candidate. -/
  | add (c : Candidate)
  /-- Adds candidates and leaves out those that are no valid rules. -/
  | addAll (candidates : List Candidate)
  /-- Switches a rule on or off, or over if it is not said which. -/
  | toggle (name : Text) (on : Option Bool)

/-- The set after a call, and what went wrong in it. -/
def call (s : RuleSet) : Call → RuleSet × Option Error
  | .add c => s.add c
  | .addAll candidates => s.addAll candidates
  | .toggle name on =>
    match s.toggle name on with
    | .ok toggled => (toggled, none)
    | .error e => (s, some e)

/-- The set after some calls, of which each goes on with the set that the one before it left. -/
def run (s : RuleSet) (calls : List Call) : RuleSet := calls.foldl (fun s c => (s.call c).1) s

/-- The rules among candidates, up to one that stops the adding. -/
def accepted : List Candidate → List Rule
  | [] => []
  | c :: candidates =>
    match c.toRule with
    | .ok r => r :: accepted candidates
    | .error e => if isPassedOver e then accepted candidates else []

/-- The rules that a call accepts, in order. -/
def Call.accepted : Call → List Rule
  | .add c => c.toRule.toOption.toList
  | .addAll candidates => RuleSet.accepted candidates
  | .toggle _ _ => []

/-- Whether all candidates of a call are plain. -/
def Call.IsPlain : Call → Prop
  | .add c => c.IsPlain
  | .addAll candidates => ∀ c ∈ candidates, c.IsPlain
  | .toggle _ _ => True

/-- The candidates of a call. -/
def Call.candidates : Call → List Candidate
  | .add c => [c]
  | .addAll candidates => candidates
  | .toggle _ _ => []

theorem exists_of_mem_accepted {candidates : List Candidate} {r : Rule}
    (h : r ∈ accepted candidates) : ∃ c ∈ candidates, c.toRule = .ok r := by
  induction candidates with
  | nil => simp [accepted] at h
  | cons c candidates ih =>
    rw [accepted] at h
    split at h
    · next q made =>
      rcases List.mem_cons.1 h with rfl | later
      · exact ⟨c, List.mem_cons_self, made⟩
      · obtain ⟨d, member, made⟩ := ih later
        exact ⟨d, List.mem_cons_of_mem c member, made⟩
    · split at h
      · obtain ⟨d, member, made⟩ := ih h
        exact ⟨d, List.mem_cons_of_mem c member, made⟩
      · simp at h

/-- A rule that a call accepts is that of one of its candidates. -/
theorem Call.exists_candidate {c : Call} {r : Rule} (h : r ∈ c.accepted) :
    ∃ k ∈ c.candidates, k.toRule = .ok r := by
  cases c with
  | add k =>
    rw [Call.accepted, Option.mem_toList] at h
    exact ⟨k, List.mem_singleton_self k, eq_ok_of_toOption_eq_some h⟩
  | addAll candidates => exact exists_of_mem_accepted h
  | toggle name on => simp [Call.accepted] at h

theorem Call.isPlain_iff {c : Call} : c.IsPlain ↔ ∀ k ∈ c.candidates, k.IsPlain := by
  cases c <;> simp [Call.IsPlain, Call.candidates]

theorem Call.IsPlain.of_mem_accepted {c : Call} (plain : c.IsPlain) :
    ∀ r ∈ c.accepted, r.IsPlain := by
  intro r hr
  obtain ⟨k, member, made⟩ := Call.exists_candidate hr
  exact (Call.isPlain_iff.1 plain k member).of_toRule made

/-- Whether a call adds rules. -/
def Call.adds : Call → Bool
  | .add _ | .addAll _ => true
  | .toggle _ _ => false

/-- Whether a call is about one rule, so that it fails if that is not found or is no valid rule. -/
def Call.isSingle : Call → Bool
  | .add _ | .toggle _ _ => true
  | .addAll _ => false

/-! ## One call -/

section

variable {s : RuleSet} {known : List Rule}

theorem Sorts.add (h : s.Sorts known) {c : Candidate} (plain : c.IsPlain) :
    s.add c = match c.toRule with
      | .ok r => (s.insert r, none)
      | .error e => (s, some e) := by
  rw [RuleSet.add]
  cases made : c.toRule with
  | ok r =>
    show (s.insert r, s.insertFault? r) = (s.insert r, none)
    rw [h.insertFault?_eq_none (plain.of_toRule made)]
  | error e => rfl

/-- Candidates are added by inserting those that are rules. -/
theorem Sorts.addAll (h : s.Sorts known) {candidates : List Candidate}
    (plain : ∀ c ∈ candidates, c.IsPlain) :
    (s.addAll candidates).1 = (accepted candidates).foldl RuleSet.insert s := by
  induction candidates generalizing s known with
  | nil => rfl
  | cons c candidates ih =>
    obtain ⟨first, others⟩ := List.forall_mem_cons.1 plain
    rw [RuleSet.addAll, h.add first, accepted]
    cases made : c.toRule with
    | ok r => exact ih (h.insert (first.of_toRule made)) others
    | error e =>
      -- The same failures are passed over on both sides.
      show (if isPassedOver e then s.addAll candidates else (s, some e)).1 =
        (if isPassedOver e then accepted candidates else []).foldl RuleSet.insert s
      split
      · exact ih h others
      · rfl

theorem rules_of_toggle {name : Text} {on : Option Bool} {toggled : RuleSet}
    (h : s.toggle name on = .ok toggled) : toggled.rules = s.rules := by
  rw [toggle] at h
  obtain ⟨e, _, made⟩ := bind_eq_ok_iff.1 h
  obtain rfl := Except.ok.inj made
  rw [rules, rules, List.map_map]
  apply List.map_congr_left
  intro d _
  show (if d.rule.name == name then d.switch (on.getD (!e.isOn)) else d).rule = d.rule
  split <;> rfl

theorem rules_call_of_not_adds {c : Call} (toggles : c.adds = false) :
    (s.call c).1.rules = s.rules := by
  cases c with
  | add c => simp [Call.adds] at toggles
  | addAll candidates => simp [Call.adds] at toggles
  | toggle name on =>
    rw [call]
    split
    · next toggled => exact rules_of_toggle toggled
    · rfl

/-- A call that adds rules inserts those that it accepts. -/
theorem Sorts.call_of_adds (h : s.Sorts known) {c : Call} (plain : c.IsPlain)
    (adds : c.adds = true) : (s.call c).1 = c.accepted.foldl RuleSet.insert s := by
  cases c with
  | add c =>
    rw [call, h.add plain, Call.accepted]
    cases c.toRule <;> rfl
  | addAll candidates => exact h.addAll plain
  | toggle name on => simp [Call.adds] at adds

/-- A call about one rule that fails changes nothing. -/
theorem Sorts.call_of_fails (h : s.Sorts known) {c : Call} (plain : c.IsPlain)
    (single : c.isSingle = true) {e : Error} (fails : (s.call c).2 = some e) :
    (s.call c).1 = s := by
  cases c with
  | add c =>
    rw [call, h.add plain] at fails ⊢
    cases made : c.toRule with
    | ok r => simp [made] at fails
    | error e => rfl
  | addAll candidates => simp [Call.isSingle] at single
  | toggle name on =>
    rw [call] at fails ⊢
    cases made : s.toggle name on with
    | ok toggled => simp [made] at fails
    | error e => rfl

theorem Sorts.after_call (h : s.Sorts known) {c : Call} (plain : c.IsPlain) :
    (s.call c).1.Sorts (known ++ c.accepted) := by
  cases adds : c.adds with
  | true =>
    rw [h.call_of_adds plain adds]
    exact h.foldl_insert plain.of_mem_accepted
  | false =>
    have none : c.accepted = [] := by
      cases c with
      | toggle name on => rfl
      | _ => simp [Call.adds] at adds
    rw [none, List.append_nil]
    exact ⟨h.plain, by rw [rules_call_of_not_adds adds, h.rules]⟩

/-- Rules that a call adds have their defaults, and those that were there stay switched as they
    were. -/
theorem Sorts.isOn?_call (h : s.Sorts known) {c : Call} (plain : c.IsPlain)
    (adds : c.adds = true) :
    (∀ name on, s.isOn? name = some on → (s.call c).1.isOn? name = some on) ∧
      ∀ r ∈ (s.call c).1.rules, r.name ∉ s.rules.map Rule.name →
        ∃ on, (s.call c).1.isOn? r.name = some on ∧ (on = true ↔ r.skip = .flag false) := by
  have after := h.after_call plain
  rw [h.call_of_adds plain adds] at after ⊢
  -- Both hold of every single insertion.
  constructor
  · intro name on there
    exact isOn?_foldl_insert there c.accepted
  · intro r member new
    rcases isOn?_of_mem_foldl_insert member with there | default
    · exact absurd (List.mem_map_of_mem there) new
    · exact ⟨r.isOnByDefault, default, (after.isPlain_rules r member).isOnByDefault_iff⟩

/-! ## What calls keep -/

/-- What every insertion of an accepted rule keeps is kept where candidates are added. -/
theorem addAll_induction {P : RuleSet → Prop} {candidates : List Candidate}
    (inserted : ∀ r ∈ accepted candidates, ∀ s : RuleSet, P s → P (s.insert r)) (h : P s) :
    P (s.addAll candidates).1 := by
  induction candidates generalizing s with
  | nil => exact h
  | cons c candidates ih =>
    rw [accepted] at inserted
    rw [RuleSet.addAll, RuleSet.add]
    cases made : c.toRule with
    | ok r =>
      simp only [made] at inserted ⊢
      obtain ⟨here, later⟩ := List.forall_mem_cons.1 inserted
      -- Even a rule that cannot be compared with the others has been put in.
      cases s.insertFault? r with
      | none => exact ih later (here s h)
      | some e =>
        dsimp only
        split
        · exact ih later (here s h)
        · exact here s h
    | error e =>
      simp only [made] at inserted ⊢
      split
      · next passed =>
        rw [if_pos passed] at inserted
        exact ih inserted h
      · exact h

/-- What every insertion of an accepted rule keeps, and every toggle, is kept by a call. -/
theorem call_induction {P : RuleSet → Prop} {c : Call}
    (inserted : ∀ r ∈ c.accepted, ∀ s : RuleSet, P s → P (s.insert r))
    (toggled : ∀ (s t : RuleSet) name on, s.toggle name on = .ok t → P s → P t) (h : P s) :
    P (s.call c).1 := by
  cases c with
  | add k =>
    rw [call, RuleSet.add]
    cases made : k.toRule with
    | ok r => exact inserted r (by simp [Call.accepted, made, Except.toOption]) s h
    | error e => exact h
  | addAll candidates => exact addAll_induction inserted h
  | toggle name on =>
    rw [call]
    cases made : s.toggle name on with
    | ok t => exact toggled s t name on made h
    | error e => exact h

/-- What every insertion of an accepted rule keeps, and every toggle, is kept by a run. -/
theorem run_induction {P : RuleSet → Prop} {calls : List Call}
    (inserted : ∀ c ∈ calls, ∀ r ∈ c.accepted, ∀ s : RuleSet, P s → P (s.insert r))
    (toggled : ∀ (s t : RuleSet) name on, s.toggle name on = .ok t → P s → P t) (h : P s) :
    P (s.run calls) := by
  induction calls generalizing s with
  | nil => exact h
  | cons c calls ih =>
    obtain ⟨first, others⟩ := List.forall_mem_cons.1 inserted
    exact ih others (call_induction first toggled h)

/-! ## Runs of calls -/

theorem Sorts.after_run (h : s.Sorts known) {calls : List Call} (plain : ∀ c ∈ calls, c.IsPlain) :
    (s.run calls).Sorts (known ++ calls.flatMap Call.accepted) := by
  induction calls generalizing s known with
  | nil =>
    rw [List.flatMap_nil, List.append_nil]
    exact h
  | cons c calls ih =>
    obtain ⟨first, others⟩ := List.forall_mem_cons.1 plain
    have step := ih (h.after_call first) others
    rwa [List.append_assoc, ← List.flatMap_cons] at step

end

theorem sorts_of_new (name : Text) : Sorts { name } [] where
  plain := by simp
  rules := by simp [rules, firsts]

/-- After any calls on a new set, its rules are the stable sort, by their order keys, of the rules
    that were accepted, of which only the first of each name stays: the names differ, rules with an
    order key are in the order of their keys, those without one come last, and rules with equal keys
    stay as they came. From then on, a call that toggles leaves the rules alone; one that adds rules
    leaves the others switched as they are, and the new ones are on if they are not to be skipped;
    and one about a single rule changes nothing if it fails. -/
theorem calls_keep_order_and_switches (name : Text) (calls : List Call)
    (plain : ∀ c ∈ calls, c.IsPlain) :
    let s := run { name } calls
    let first := firsts Rule.name (calls.flatMap Call.accepted)
    s.rules = first.mergeSort Rule.mayPrecede ∧
      (s.rules.map Rule.name).Nodup ∧
      s.rules.Pairwise (fun a b => (b.orderId.isNull = false → a.orderId.isNull = false) ∧
        (a.orderId.isNull = b.orderId.isNull → ¬b.orderId.asText < a.orderId.asText)) ∧
      (∀ key, s.rules.filter (·.sortPair == key) = first.filter (·.sortPair == key)) ∧
      ∀ next : Call, next.IsPlain →
        (next.adds = false → (s.call next).1.rules = s.rules) ∧
        (next.adds = true →
          (∀ name on, s.isOn? name = some on → (s.call next).1.isOn? name = some on) ∧
          ∀ r ∈ (s.call next).1.rules, r.name ∉ s.rules.map Rule.name →
            ∃ on, (s.call next).1.isOn? r.name = some on ∧ (on = true ↔ r.skip = .flag false)) ∧
        (next.isSingle = true → ∀ e, (s.call next).2 = some e → (s.call next).1 = s) := by
  intro s first
  have sorts : s.Sorts (calls.flatMap Call.accepted) := (sorts_of_new name).after_run plain
  have sorted := List.pairwise_mergeSort Rule.mayPrecede_trans Rule.mayPrecede_total first
  refine ⟨sorts.rules, ?_, ?_, ?_, ?_⟩
  · rw [sorts.rules, ((List.mergeSort_perm first _).map Rule.name).nodup_iff]
    exact nodup_map_firsts _
  · rw [sorts.rules]
    exact sorted.imp Rule.mayPrecede_iff.1
  · intro key
    rw [sorts.rules]
    refine filter_mergeSort Rule.mayPrecede_trans Rule.mayPrecede_total ?_ first
    intro a b ha hb
    exact Rule.mayPrecede_of_sortPair_eq (by rw [beq_iff_eq.1 ha, beq_iff_eq.1 hb])
  · intro next ready
    exact ⟨rules_call_of_not_adds, sorts.isOn?_call ready,
      fun single e fails => sorts.call_of_fails ready single fails⟩

/-- Calls that add a rule without an order key, then one with a key and another one of the first
    name, and then toggle the first rule and one that there is not. -/
def lateKeyCalls : List Call :=
  let record (name order : Text) : Candidate := .record [
    (Field.key .name, .text name),
    (Field.key .notated, .text "[a] > [e]".toList),
    (Field.key .orderId, if order.isEmpty then .null else .text order)]
  [.add (record ['a'] []), .addAll [.other, record ['b'] ['1'], record ['a'] ['0']],
    .toggle ['a'] none, .toggle ['c'] none]

theorem rules_after_lateKeyCalls :
    (∀ c ∈ lateKeyCalls, c.IsPlain) ∧
      (run { name := ['s'] } lateKeyCalls).rules.map Rule.name = [['b'], ['a']] ∧
      ((run { name := ['s'] } lateKeyCalls).rules.map Rule.name).Nodup ∧
      (run { name := ['s'] } lateKeyCalls).rules =
        (firsts Rule.name (lateKeyCalls.flatMap Call.accepted)).mergeSort Rule.mayPrecede := by
  have plain : ∀ c ∈ lateKeyCalls, c.IsPlain := by
    simp [lateKeyCalls, Call.IsPlain, Candidate.IsPlain]
  have result := calls_keep_order_and_switches ['s'] lateKeyCalls plain
  exact ⟨plain, by decide +kernel, result.2.1, result.1⟩

end RuleSet

end SoundLaw
