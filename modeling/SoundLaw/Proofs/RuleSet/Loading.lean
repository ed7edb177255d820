/-
  SoundLaw.Proofs.RuleSet.Loading

  Adding many entries to a rule set at once. Entries that are no valid rules are meant to be left out,
  at no cost to the others: the set becomes the one that the valid entries give when they are added
  one by one. So it does, with two exceptions (`addAll_skips_invalid`). An entry whose notation has a
  placeholder of its own and lacks a group for it stops the adding, and all entries after it are lost;
  and so does the first new rule once the set has a rule whose order key cannot be compared with
  texts, which no record can have.
-/
import SoundLaw.Proofs.RuleSet.Calls
import SoundLaw.Proofs.Variant.Faults

namespace SoundLaw

/-! ## Entries -/

/-- A valid record that gives no rule has a faulty notation, or one that lacks a group. -/
theorem Rule.ofRecord_error_cases {record : Record} {notated : Text} {e : Error}
    (valid : record.isValid = true) (written : record.get? .notated = some (.text notated))
    (failed : Rule.ofRecord record = .error e) : e.IsOfNotation notated := by
  obtain ⟨_, notated', _, written', whole⟩ := Rule.ofRecord_of_isValid valid
  obtain rfl : notated' = notated := by simpa [written'] using written
  rw [whole] at failed
  cases compiled : compile notated' with
  | error e' =>
    rw [compiled] at failed
    rw [← Except.error.inj failed]
    exact isOfNotation_of_compile compiled
  | ok variants =>
    rw [compiled] at failed
    exact absurd failed (by simp [Except.map])

namespace Candidate

/-- Whether a candidate is a rule already, which needs no checking. -/
def isRule : Candidate → Bool
  | rule _ => true
  | record _ | other => false

/-- The notation of a candidate, if it has one. -/
def notated : Candidate → Text
  | rule r => r.notated
  | record fields => ((fields.get? .notated).getD .null).asText
  | other => []

/-- Whether a candidate is a record that can be read as a rule. -/
def isAccepted : Candidate → Bool
  | record fields => (Rule.ofRecord fields).toOption.isSome
  | rule _ | other => false

/-- Whether a candidate is a record whose notation asks for a group that it does not have. -/
def lacksGroup : Candidate → Bool
  | record fields => match Rule.ofRecord fields with
    | .error .missingGroup => true
    | _ => false
  | rule _ | other => false

/-- What becomes of a candidate that is no rule yet: it is made a rule, or it lacks a group, or it is
    refused for another reason, which concerns no other candidate. -/
inductive Outcome (c : Candidate) : Prop
  | made (r : Rule) (made : c.toRule = .ok r) (plain : r.IsPlain) (accepted : c.isAccepted = true)
      (complete : c.lacksGroup = false)
  | lacking (lacks : c.toRule = .error .missingGroup) (foreign : placeholder ∈ c.notated)
      (refused : c.isAccepted = false) (lacking : c.lacksGroup = true)
  | invalid (e : Error) (fails : c.toRule = .error e) (passed : RuleSet.isPassedOver e = true)
      (refused : c.isAccepted = false) (complete : c.lacksGroup = false)

theorem outcome_of_record (fields : Record) : (record fields).Outcome := by
  by_cases valid : fields.isValid = true
  · obtain ⟨name, notated, _, written, _⟩ := Rule.ofRecord_of_isValid valid
    have toRule : (record fields).toRule = Rule.ofRecord fields := if_pos valid
    cases read : Rule.ofRecord fields with
    | ok r =>
      exact .made r (toRule.trans read) (Rule.isPlain_of_ofRecord read)
        (by simp [isAccepted, read, Except.toOption]) (by simp [lacksGroup, read])
    | error e =>
      have refused : (record fields).isAccepted = false := by
        simp [isAccepted, read, Except.toOption]
      rcases Rule.ofRecord_error_cases valid written read with ⟨fault, rfl⟩ | ⟨rfl, foreign⟩
      · exact .invalid _ (toRule.trans read) rfl refused (by simp [lacksGroup, read])
      · refine .lacking (toRule.trans read) ?_ refused (by simp [lacksGroup, read])
        simpa [Candidate.notated, written, Value.asText] using foreign
  · -- What is no valid record is refused before it is compiled.
    have read : Rule.ofRecord fields = .error .invalid := if_neg valid
    exact .invalid .notARule (if_neg valid) rfl (by simp [isAccepted, read, Except.toOption])
      (by simp [lacksGroup, read])

theorem outcome {c : Candidate} (new : c.isRule = false) : c.Outcome := by
  cases c with
  | rule r => exact absurd new (by simp [isRule])
  | record fields => exact outcome_of_record fields
  | other => exact .invalid .notARule rfl rfl rfl rfl

end Candidate

/-! ## Adding one by one -/

namespace RuleSet

/-- The set after those of some entries that can be read as rules have been added one by one. -/
def addEach (s : RuleSet) (entries : List Candidate) : RuleSet :=
  s.run ((entries.filter Candidate.isAccepted).map Call.add)

section

variable {s : RuleSet} {c : Candidate} {entries : List Candidate}

theorem addEach_cons_of_accepted (accepted : c.isAccepted = true) :
    s.addEach (c :: entries) = (s.add c).1.addEach entries := by
  rw [addEach, List.filter_cons_of_pos accepted, List.map_cons]
  rfl

theorem addEach_cons_of_refused (refused : c.isAccepted = false) :
    s.addEach (c :: entries) = s.addEach entries := by
  rw [addEach, List.filter_cons_of_neg (by simp [refused])]
  rfl

/-- A rule whose order key is a text, or none, comes to its place unless there is a rule whose order
    key is neither. -/
theorem insertFault?_cases {r : Rule} (plain : r.IsPlain) :
    s.insertFault? r = none ∨ (s.insertFault? r = some .incomparable ∧
      ∃ q ∈ s.rules, Field.orderId.admits q.orderId = false) := by
  rw [insertFault?]
  split
  · exact Or.inl rfl
  · next unsortable =>
    refine Or.inr ⟨rfl, ?_⟩
    by_contra texts
    apply unsortable
    rw [Bool.or_eq_true]
    refine Or.inr (isSortable_of_textKeys fun q hq => ?_)
    rcases List.mem_append.1 hq with before | last
    · rw [← Field.admits_orderId_iff, ← Bool.not_eq_false]
      exact fun other => texts ⟨q, before, other⟩
    · rw [List.mem_singleton.1 last]
      exact plain.orderId

end

/-- How the adding of entries ends. -/
inductive Adding (s : RuleSet) (entries : List Candidate) : Prop
  /-- The set is the one that those entries give that can be read as rules, one by one. -/
  | ends (outcome : s.addAll entries = (s.addEach entries, none))
      (complete : ∀ c ∈ entries, c.lacksGroup = false)
  /-- An entry lacks a group, because there is a placeholder in its notation. The entries after it
      are lost. -/
  | lacks (before : List Candidate) (c : Candidate) (later : List Candidate)
      (split : entries = before ++ c :: later) (complete : ∀ d ∈ before, d.lacksGroup = false)
      (lacks : c.lacksGroup = true) (foreign : placeholder ∈ c.notated)
      (outcome : s.addAll entries = (s.addEach before, some .missingGroup))
  /-- An entry cannot be compared with a rule of the set, whose order key is neither a text nor
      absent. The entries after it are lost. -/
  | clashes (before : List Candidate) (c : Candidate) (later : List Candidate)
      (split : entries = before ++ c :: later) (complete : ∀ d ∈ before, d.lacksGroup = false)
      (accepted : c.isAccepted = true)
      (key : ∃ q ∈ s.rules, Field.orderId.admits q.orderId = false)
      (outcome : s.addAll entries = (s.addEach (before ++ [c]), some .incomparable))

/-- An entry that does not stop the adding leaves it to the set that it gives. -/
theorem Adding.cons {s t : RuleSet} {c : Candidate} {entries : List Candidate}
    (h : t.Adding entries) (goesOn : s.addAll (c :: entries) = t.addAll entries)
    (each : ∀ others, s.addEach (c :: others) = t.addEach others) (complete : c.lacksGroup = false)
    (keys : ∀ q ∈ t.rules, Field.orderId.admits q.orderId = false → q ∈ s.rules) :
    s.Adding (c :: entries) := by
  cases h with
  | ends outcome all =>
    exact .ends (by rw [goesOn, outcome, each]) (List.forall_mem_cons.2 ⟨complete, all⟩)
  | lacks before d later split all lacks foreign outcome =>
    refine .lacks (c :: before) d later (by rw [split]; rfl)
      (List.forall_mem_cons.2 ⟨complete, all⟩) lacks foreign ?_
    rw [goesOn, outcome, each]
  | clashes before d later split all accepted key outcome =>
    obtain ⟨q, member, other⟩ := key
    refine .clashes (c :: before) d later (by rw [split]; rfl)
      (List.forall_mem_cons.2 ⟨complete, all⟩) accepted ⟨q, keys q member other, other⟩ ?_
    rw [goesOn, outcome, List.cons_append, each]

/-- Entries that are no rules yet are added as if only those had been given that can be read as
    rules, one by one, unless one of them lacks a group or cannot be compared. -/
theorem addAll_skips_invalid (s : RuleSet) {entries : List Candidate}
    (new : ∀ c ∈ entries, c.isRule = false) : s.Adding entries := by
  -- Along the entries: each goes over to the set, or is left out, or stops the adding.
  induction entries generalizing s with
  | nil => exact .ends rfl (by simp)
  | cons c entries ih =>
    obtain ⟨first, others⟩ := List.forall_mem_cons.1 new
    cases Candidate.outcome first with
    | made r made plain accepted complete =>
      have added : s.add c = (s.insert r, s.insertFault? r) := by rw [RuleSet.add, made]
      rcases insertFault?_cases plain with settled | ⟨fault, key⟩
      · refine (ih (s.insert r) others).cons ?_ (fun _ => ?_) complete fun q member other => ?_
        · rw [addAll, added, settled]
        · rw [addEach_cons_of_accepted accepted, added]
        · -- The new rule has a key that can be compared.
          rcases mem_rules_insert member with before | ⟨rfl, _⟩
          · exact before
          · rw [Field.admits_orderId_iff.2 plain.orderId] at other
            exact absurd other (by simp)
      · refine .clashes [] c entries rfl (by simp) accepted key ?_
        rw [addAll, added, fault, List.nil_append, addEach_cons_of_accepted accepted, added]
        rfl
    | lacking lacks foreign refused lacking =>
      refine .lacks [] c entries rfl (by simp) lacking foreign ?_
      rw [addAll, RuleSet.add, lacks]
      rfl
    | invalid e fails passed refused complete =>
      refine (ih s others).cons ?_ (fun _ => addEach_cons_of_refused refused) complete
        fun q member _ => member
      rw [addAll, RuleSet.add, fails]
      exact if_pos passed

/-- A record of a name and a notation. -/
def namedRecord (name : Text) (notated : String) : Candidate := .record [
  (Field.key .name, .text name), (Field.key .notated, .text notated.toList)]

/-- Two rules among entries that are left out: no record at all, a notation without an arrow, and one
    with an open brace. -/
def mixedEntries : List Candidate := [
  .other, namedRecord ['a'] "[a]", namedRecord ['b'] "[a] > [e]",
  namedRecord ['c'] "[\x7ba] > [e]", namedRecord ['d'] "[o] > [u]"]

theorem addAll_skips_invalid_of_mixedEntries :
    (∀ c ∈ mixedEntries, c.isRule = false) ∧ RuleSet.Adding { name := ['s'] } mixedEntries ∧
      (RuleSet.addAll { name := ['s'] } mixedEntries).1.rules.map Rule.name = [['b'], ['d']] := by
  have new : ∀ c ∈ mixedEntries, c.isRule = false := by
    simp [mixedEntries, namedRecord, Candidate.isRule]
  exact ⟨new, addAll_skips_invalid { name := ['s'] } new, by decide +kernel⟩

/-- An entry with a placeholder where there is no group, in front of a rule. -/
def strayEntries : List Candidate := [
  namedRecord ['a'] "[\uFFFC] > [a]", namedRecord ['b'] "[a] > [e]"]

/-- An entry with a placeholder of its own costs the rule after it. -/
theorem addAll_stops_at_placeholder :
    strayEntries.map Candidate.isAccepted = [false, true] ∧
      (RuleSet.addAll { name := ['s'] } strayEntries).2 = some .missingGroup ∧
      (RuleSet.addAll { name := ['s'] } strayEntries).1.rules.map Rule.name = [] ∧
      (RuleSet.addEach { name := ['s'] } strayEntries).rules.map Rule.name = [['b']] :=
  ⟨by decide +kernel, by decide +kernel, by decide +kernel, by decide +kernel⟩

end RuleSet

end SoundLaw
